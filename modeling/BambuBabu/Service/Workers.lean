import BambuBabu.Service.Views

/-!
# `Service.Workers` — what the workers know about their jobs

Both kinds of worker act on a job row they read some steps ago. `Working` says what a slicing worker may still
rely on: nobody else moves its job, except that the job may have been cancelled (`Trans.undisturbed`).
`Released` says that a dispatch worker that has failed its job finds it in a terminal status when it comes to
release the printer, and `Requested` that one that has committed STARTING never finds its job back before it.
-/

namespace BambuBabu

open Storage Runs

variable {s s' : Service} {e : Event} {id : JobId} {j : Job}

/-! ## Slicing workers -/

/-- What a worker knows about the status of its job. A worker that has not claimed its job, or is done with
    it, knows nothing. -/
def SliceTask.knows : SliceTask → Option JobStatus → Prop
  | start, _ | finished, _ => True
  | analyse _, st | plan _ _, st => st ∈ [some .analysing, some .cancelled]
  | slice _ _, st | store _ _ _, st | recheck _, st | reslice _ _, st | restore _ _ _, st | aborting _, st =>
      st ∈ [some .slicing, some .cancelled]
  | failing _, st => st ∈ [some .analysing, some .slicing, some .cancelled]

/-- Every slicing worker knows its job. -/
def Working (s : Service) : Prop := ∀ id task, s.slices id = some task → task.knows (s.db.statusOf id)

/-- A worker that knows anything works for a job that is being analysed or sliced, or was cancelled. -/
theorem SliceTask.knows_cases {task : SliceTask} {st : Option JobStatus} (h : task.knows st) :
    (task = .start ∨ task = .finished) ∨ st ∈ [some .analysing, some .slicing, some .cancelled] := by
  cases task <;> simp only [SliceTask.knows, List.mem_cons, List.not_mem_nil, or_false] at h
  case start => exact .inl (.inl rfl)
  case finished => exact .inl (.inr rfl)
  case failing => rcases h with h | h | h <;> simp [h]
  all_goals rcases h with h | h <;> simp [h]

theorem SliceTask.knows_idle {task : SliceTask} (h : task = .start ∨ task = .finished)
    (st : Option JobStatus) : task.knows st := by
  rcases h with rfl | rfl <;> trivial

theorem SliceTask.knows_cancelled (task : SliceTask) : task.knows (some .cancelled) := by
  cases task <;> simp [SliceTask.knows]

/-- A local step of a worker keeps what it knows. -/
theorem SliceLocal.knows {task task' : SliceTask} {st : Option JobStatus} (h : SliceLocal task (some task'))
    (hk : task.knows st) : task'.knows st := by
  cases h <;> first
    | trivial
    | exact hk
    | (rcases List.mem_pair.mp hk with rfl | rfl <;> simp [SliceTask.knows])

/-- **A step of a worker keeps what it knows.** -/
theorem SliceTrans.knows {task task' : SliceTask} (ht : SliceTrans s id task s')
    (hk : task.knows (s.db.statusOf id)) (htask' : s'.slices id = some task') :
    task'.knows (s'.db.statusOf id) := by
  cases ht with
  | goto hloc =>
      cases (Function.update_self ..).symm.trans htask'
      exact hloc.knows hk
  | sliced htsk | resliced htsk =>
      subst htsk
      cases (Function.update_self ..).symm.trans htask'
      exact hk
  | rechecked htsk =>
      subst htsk
      cases (Function.update_self ..).symm.trans htask'
      exact hk
  | @analysing d i htsk hi hs hm =>
      cases (Function.update_self ..).symm.trans htask'
      obtain ⟨i', hi', -⟩ := hm.row hi
      show SliceTask.knows _ (d.statusOf id)
      rw [Db.statusOf_eq hi', (hm.swap_row hi hi').1]
      exact List.mem_cons_self
  | @planned d stl a p i now htsk _ hi hs hf =>
      cases (Function.update_self ..).symm.trans htask'
      have hi' : d.job id = some ((i.analysed a p).transitioned now .slicing none none) := Db.job_of_floor hf
      show SliceTask.knows _ (d.statusOf id)
      rw [Db.statusOf_eq hi']
      exact List.mem_cons_self
  | _ =>
      cases (Function.update_self ..).symm.trans htask'
      trivial

/-- What a step does to a job that was not sent to a printer. -/
inductive UnsentTrans (s : Service) (e : Event) (s' : Service) (id : JobId) (j j' : Job) : Prop
  | kept (hs : j'.status = j.status) (ht : j'.ticket = j.ticket)
  | cancelled (hs' : j'.status = .cancelled) (ht : j'.ticket = j.ticket)
  | retried (hphase : s.phase = .booting) (hs' : j'.status = .pending)
  | dispatched (hs : j.status = .queued) (hs' : j'.status = .uploading)
  | withdrawn (hs : j.status = .queued) (hs' : j'.status = .slicing)
      (hre : ∃ p, s'.slices id = some (.recheck p))
  | sliced {task : SliceTask} (htask : s.slices id = some task) (ht : SliceTrans s id task s')
      (hm : SliceMoves task j.status j'.status)

/-- **A step seen from a job that was not sent to a printer**: the printers and their workers do not touch it. -/
theorem Trans.unsent {j' : Job} (ht : Trans s e s') (hD : Disciplined s) (hj : s.db.job id = some j)
    (hj' : s'.db.job id = some j') (hfree : j.status ∉ owning) : UnsentTrans s e s' id j j' := by
  have hslot : ∀ p, (s.db.printers p).currentJobId ≠ some id := fun p hown =>
    hfree (hD.floor.owner_row hown hj).1
  cases ht.job_trans hj hj' with
  | kept hst htk => exact .kept hst htk
  | cancelled _ hst htk => exact .cancelled hst htk
  | retried hphase _ hst => exact .retried hphase hst
  | quarantined _ hat => exact absurd (owning_of_atPrinter hat) hfree
  | reported _ _ _ _ hown => exact absurd hown (hslot _)
  | cleared _ hown => exact absurd hown (hslot _)
  | dispatched _ hq hst => exact .dispatched hq hst
  | withdrawn hq hst _ hre => exact .withdrawn hq hst hre
  | sliced htask hst hm => exact .sliced htask hst hm
  | handed _ hh hid =>
      obtain ⟨i, hi, hown, -⟩ := hD.sent _ (List.mem_of_getElem? hh)
      rw [hid, hj] at hi
      cases hi
      exact absurd hown hfree

/-- **Nobody else moves the job of a slicing worker**, but it may be cancelled. -/
theorem Trans.undisturbed {task : SliceTask} (ht : Trans s e s') (hD : Disciplined s)
    (htask : s.slices id = some task) (hj : s.db.job id = some j)
    (hs : j.status ∈ [.analysing, .slicing, .cancelled]) :
    SliceTrans s id task s' ∨ ∃ j', s'.db.job id = some j' ∧ j'.ticket = j.ticket ∧
      (j'.status = j.status ∨ j'.status = .cancelled) := by
  have hfree : j.status ∉ owning := by
    intro hown
    revert hs hown
    cases j.status <;> decide
  obtain ⟨j', hj', -⟩ := ht.job hj
  cases ht.unsent hD hj hj' hfree with
  | kept hst htk => exact .inr ⟨j', hj', htk, .inl hst⟩
  | cancelled hst htk => exact .inr ⟨j', hj', htk, .inr hst⟩
  | retried hphase =>
      rw [(hD.idle (by rw [hphase]; decide)).2] at htask
      cases htask
  | dispatched hq => rw [hq] at hs; exact absurd hs (by decide)
  | withdrawn hq => rw [hq] at hs; exact absurd hs (by decide)
  | sliced htask' hst =>
      cases Option.some.inj (htask.symm.trans htask')
      exact .inl hst

/-- A worker that has not been moved knows as much as before. -/
theorem Working.undisturbed {task : SliceTask} (hW : Working s) (hD : Disciplined s) (ht : Trans s e s')
    (htask : s.slices id = some task) (htask' : s'.slices id = some task) :
    task.knows (s'.db.statusOf id) := by
  have hk := hW id task htask
  rcases SliceTask.knows_cases hk with hidle | hst
  · exact SliceTask.knows_idle hidle _
  · cases hj : s.db.job id with
    | none => rw [Db.statusOf, hj] at hst; simp at hst
    | some j =>
        rw [Db.statusOf_eq hj] at hst hk
        rcases ht.undisturbed hD htask hj (by simpa using hst) with hown | ⟨j', hj', -, hsame | hcan⟩
        · exact hown.knows (by rw [Db.statusOf_eq hj]; exact hk) htask'
        · rw [Db.statusOf_eq hj', hsame]; exact hk
        · rw [Db.statusOf_eq hj', hcan]; exact SliceTask.knows_cancelled task

/-- **Every step keeps what the slicing workers know.** -/
theorem Working.step (hW : Working s) (hD : Disciplined s) (ht : Trans s e s') : Working s' := by
  intro id task htask'
  cases ht.task htask' with
  | kept hold => exact hW.undisturbed hD ht hold htask'
  | submitted htsk =>
      subst htsk
      trivial
  | withdrawn htsk _ _ _ _ _ hj' =>
      subst htsk
      rw [Db.statusOf_eq hj']
      exact List.mem_cons_self
  | moved _ _ htask hst => exact hst.knows (hW id _ htask) htask'

theorem working_of_reach {ok : Service → Event → Prop} (h : service.Reach ok s) : Working s :=
  h.invariant
    (fun s hinit => by
      obtain ⟨cfg, now, rfl⟩ := hinit
      intro id task htask
      cases htask)
    fun _ _ _ hr hW _ hstep => hW.step (disciplined_of_reach hr) (trans_of_reach hr hstep)

/-- A slicing worker fails no job that was sent to a printer. -/
theorem Working.moves {task : SliceTask} (hW : Working s) (htask : s.slices id = some task)
    (hj : s.db.job id = some j) {st : JobStatus} (hm : SliceMoves task j.status st) : j.status ∉ owning := by
  have hk := hW id task htask
  rw [Db.statusOf_eq hj] at hk
  cases hst : j.status <;> rw [hst] at hk hm <;> cases hm <;> simp_all [SliceTask.knows, owning, atPrinter]

/-! ## Dispatch workers -/

/-- A worker that is about to release its printer finds its job in a terminal status. -/
def Released (s : Service) : Prop :=
  ∀ h ∈ s.handoffs, h.pc = .releasing → ∀ j, s.db.job h.id = some j → j.status ∈ terminalJobStatuses

/-- A step of a worker leaves the other ones where they are. -/
theorem HandoffTrans.others {i : Nat} {h k : Handoff} (ht : HandoffTrans s i k s')
    (hk : s.handoffs[i]? = some k) (hh : h ∈ s.handoffs) (hne : k ≠ h) : h ∈ s'.handoffs := by
  obtain ⟨n, hn, rfl⟩ := List.mem_iff_getElem.mp hh
  have hin : i ≠ n := by
    rintro rfl
    rw [List.getElem?_eq_getElem hn] at hk
    exact hne (Option.some.inj hk).symm
  have hset : ∀ k', s.handoffs[n] ∈ s.handoffs.set i k' := fun k' =>
    List.mem_iff_getElem.mpr ⟨n, by rwa [List.length_set], List.getElem_set_ne hin _⟩
  have herase : s.handoffs[n] ∈ s.handoffs.eraseIdx i :=
    List.mem_eraseIdx_iff_getElem.mpr ⟨n, hn, hin.symm, rfl⟩
  cases ht <;> first | exact hset _ | exact herase

/-- **A worker that is about to release its printer stays there** until it crashes with the process, frees
    the slot, or finds nothing to free. -/
theorem Trans.releasing {h : Handoff} (ht : Trans s e s') (hD : Disciplined s) (hh : h ∈ s.handoffs)
    (hpc : h.pc = .releasing) :
    h ∈ s'.handoffs ∨ e = .crash ∨ (s'.db.printers h.printer).currentJobId = none ∨
      ¬ ((s.db.printers h.printer).currentJobId = some h.id ∧
        ∃ j, s.db.job h.id = some j ∧ j.status = .failed) := by
  cases ht with
  | same => exact .inl hh
  | clock => exact .inl hh
  | boot hphase => rw [(hD.idle (by rw [hphase]; decide)).1] at hh; cases hh
  | crash => exact .inr (.inl rfl)
  | reconcile => exact .inl hh
  | cancel => exact .inl hh
  | upload => exact .inl hh
  | clear => exact .inl hh
  | acknowledge => exact .inl hh
  | live _ hstep => exact .inl ((liveStep_frame hstep).handoffs ▸ hh)
  | callback _ ht => cases ht <;> exact .inl hh
  | tick _ ht =>
      cases ht with
      | dispatch => exact .inl (List.mem_append_left _ hh)
      | _ => exact .inl hh
  | slice _ _ ht => cases ht <;> exact .inl hh
  | @handoff i k _ _ _ hk ht =>
      by_cases hsame : k = h
      · subst hsame
        cases ht with
        | goto hloc => exact absurd hloc.order_lt (by rw [hpc]; exact Nat.not_lt.mpr (HandoffPc.order_le _))
        | releaseSkip _ hno => exact .inr (.inr (.inr hno))
        | release _ _ _ _ hm => exact .inr (.inr (.inl hm.freed))
        | _ => simp_all
      · exact .inl (ht.others hk hh hsame)

theorem Released.step (hR : Released s) (hD : Disciplined s) (ht : Trans s e s') : Released s' := by
  intro h' hh' hpc j' hj'
  cases ht.worker hh' with
  | stayed hh =>
      obtain ⟨j, hj, -⟩ := hD.sent h' hh
      obtain ⟨i, hi, hst⟩ := ht.moves.final hj (allowed_of_terminal (hR h' hh hpc j hj))
      cases Option.some.inj (hi.symm.trans hj')
      rw [hst]
      exact hR h' hh hpc j hj
  | dispatched _ hbegin => rw [hpc] at hbegin; cases hbegin
  | advanced _ _ hid _ hadv =>
      rw [hpc] at hadv
      cases hadv with
      | goto hloc => exact hloc.ne_releasing.elim
      | failed _ hterm => exact hterm j' (hid ▸ hj')

theorem released_of_reach {ok : Service → Event → Prop} (h : service.Reach ok s) : Released s :=
  h.invariant
    (fun s hinit => by
      obtain ⟨cfg, now, rfl⟩ := hinit
      intro h hh
      cases hh)
    fun _ _ _ hr hR _ hstep => hR.step (disciplined_of_reach hr) (trans_of_reach hr hstep)

/-- The worker has committed STARTING, and has not met an error that is handled as a clean failure. -/
def HandoffPc.requested : HandoffPc → Prop
  | check | publish _ | published _ | await _ | confirm | ambiguous _ => True
  | begin | transfer | request | failing _ | releasing => False

/-- STARTING, and what a job that is STARTING may become. -/
def startedStatuses : List JobStatus := [.starting, .printing, .attention, .completed, .failed]

/-- No edge leads back before STARTING. -/
theorem started_closed : ∀ st ∈ startedStatuses, ∀ st' ∈ allowedJobTransitions st, st' ∈ startedStatuses := by
  intro st
  cases st <;> decide

/-- A worker that has committed STARTING finds its job STARTING, or further on. -/
def Requested (s : Service) : Prop :=
  ∀ h ∈ s.handoffs, h.pc.requested → ∀ j, s.db.job h.id = some j → j.status ∈ startedStatuses

theorem Requested.step (hQ : Requested s) (hD : Disciplined s) (ht : Trans s e s') : Requested s' := by
  intro h' hh' hreq j' hj'
  -- what was STARTING or further on before the step is so after it
  have kept : ∀ h ∈ s.handoffs, h.pc.requested → h'.id = h.id → j'.status ∈ startedStatuses :=
    fun h hh hpc hid => by
      obtain ⟨j, hj, -⟩ := hD.sent h hh
      obtain ⟨i, hi, hst⟩ := ht.moves.closed started_closed hj (hQ h hh hpc j hj)
      rw [hid] at hj'
      cases Option.some.inj (hi.symm.trans hj')
      exact hst
  cases ht.worker hh' with
  | stayed hh => exact kept h' hh hreq rfl
  | dispatched _ hbegin => rw [hbegin] at hreq; exact hreq.elim
  | @advanced i h e' he hh hid _ hadv =>
      have hmem := List.mem_of_getElem? hh
      generalize h'.pc = pc' at hadv hreq
      cases hadv with
      | goto hloc =>
          refine kept h hmem ?_ hid
          generalize h.pc = pc at hloc
          cases hloc <;> first | exact hreq.elim | trivial
      | upload => exact hreq.elim
      | request _ hst =>
          rw [hst j' (hid ▸ hj')]
          decide
      | check hpc | publish hpc | started hpc => exact kept h hmem (by rw [hpc]; trivial) hid
      | failed => exact hreq.elim

theorem requested_of_reach {ok : Service → Event → Prop} (h : service.Reach ok s) : Requested s :=
  h.invariant
    (fun s hinit => by
      obtain ⟨cfg, now, rfl⟩ := hinit
      intro h hh
      cases hh)
    fun _ _ _ hr hQ _ hstep => hQ.step (disciplined_of_reach hr) (trans_of_reach hr hstep)

end BambuBabu
