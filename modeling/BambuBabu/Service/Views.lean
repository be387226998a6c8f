import BambuBabu.Service.Trans

/-!
# `Service.Views` — a step seen from one row

`Trans` lists what each thread can do. An invariant about one job or one printer needs the converse: what a
step can do to this row, and who did it. `JobTrans` and `PrinterTrans` are these views, `TaskTrans` and
`HistoryTrans` the ones of the slicing workers and of the record, each proved once from `Trans`.
-/

namespace BambuBabu

open Storage Runs

/-! ## Transactions that make several moves -/

section moves

variable {f f' : Floor} {id : JobId} {j : Job} {p q : PrinterID} {snap : Snapshot}

/-- Recovery sends interrupted slicing back, and interrupted printing to quarantine. -/
theorem Moves.recovers_job (h : Moves Act.recovers f f') (hj : f.job id = some j) :
    ∃ j', f'.job id = some j' ∧ j'.ticket = j.ticket ∧
      (j'.status = j.status ∨ (j.status ∈ [.analysing, .slicing] ∧ j'.status = .pending) ∨
        (j.status ∈ atPrinter ∧ j'.status = .attention)) := by
  refine h.keeps (P := fun g => ∃ j', g.job id = some j' ∧ j'.ticket = j.ticket ∧
    (j'.status = j.status ∨ (j.status ∈ [.analysing, .slicing] ∧ j'.status = .pending) ∨
      (j.status ∈ atPrinter ∧ j'.status = .attention))) ?_ ⟨j, hj, rfl, .inl rfl⟩
  rintro a g g' hok hm ⟨i, hi, ht, hs⟩
  rcases hm.job_cases hi with ⟨-, hi'⟩ | ⟨i', htgt, hi', htk, hl, hticket⟩
  · exact ⟨i, hi', ht, hs⟩
  · have hticket' : i'.ticket = i.ticket := by
      rcases hticket with rfl | rfl | hticket
      · cases hok
      · cases hok
      · exact hticket
    refine ⟨i', hi', hticket'.trans ht, ?_⟩
    cases a with
    | swap k old new =>
        obtain ⟨hold, rfl⟩ := hok
        -- nothing is recovered twice: what one of these moves has left is not the source of another
        have hmid : i.status ∈ [JobStatus.analysing, .slicing] := by
          rw [show i.status = old from htk]
          rcases hold with rfl | rfl <;> decide
        rcases hs with hs | ⟨-, hs⟩ | ⟨-, hs⟩
        · exact .inr (.inl ⟨hs ▸ hmid, hl⟩)
        · rw [hs] at hmid; exact absurd hmid (by decide)
        · rw [hs] at hmid; exact absurd hmid (by decide)
    | settle k p new st =>
        obtain ⟨rfl, -⟩ := hok
        have hat : i.status ∈ atPrinter := htk
        rcases hs with hs | ⟨-, hs⟩ | ⟨hs, -⟩
        · exact .inr (.inr ⟨hs ▸ hat, hl⟩)
        · rw [hs] at hat; exact absurd hat (by decide)
        · exact .inr (.inr ⟨hs, hl⟩)
    | progress k =>
        have hsame : i'.status = i.status := hl
        rw [hsame]
        exact hs
    | restore => cases htgt
    | _ => cases hok

/-- Recovery keeps the slots and blocks plates. -/
theorem Moves.recovers_printer (h : Moves Act.recovers f f') (q : PrinterID) :
    f'.printers q = f.printers q ∨ ((f'.printers q).currentJobId = (f.printers q).currentJobId ∧
      (f'.printers q).plateCleared = false ∧ (f'.printers q).status ∈ [.error, .printing]) := by
  refine h.keeps (P := fun g => g.printers q = f.printers q ∨
    ((g.printers q).currentJobId = (f.printers q).currentJobId ∧
      (g.printers q).plateCleared = false ∧ (g.printers q).status ∈ [.error, .printing])) ?_ (.inl rfl)
  rintro a g g' hok hm hP
  rcases hm.printer_cases q with hsame | ⟨hp, hslot, hplate, hst⟩
  · rw [hsame]; exact hP
  · have hown : (g.printers q).currentJobId = (f.printers q).currentJobId := by
      rcases hP with heq | ⟨heq, -⟩
      · rw [heq]
      · exact heq
    refine .inr ?_
    rw [hslot, hplate, hst]
    cases a with
    | settle =>
        obtain ⟨rfl, rfl⟩ := hok
        exact ⟨hown, rfl, List.mem_cons_self⟩
    | restore => exact ⟨hown, rfl, List.mem_cons_of_mem _ List.mem_cons_self⟩
    | swap => cases hp
    | progress => cases hp
    | _ => cases hok

/-- A callback changes the owner of its printer's slot only. -/
theorem Reported.job_cases (h : Reported p snap f f') (hj : f.job id = some j) :
    ∃ j', f'.job id = some j' ∧ j'.ticket = j.ticket ∧
      (j'.status = j.status ∨
        ((f.printers p).currentJobId = some id ∧ j'.status = snap.outcome j.status)) := by
  cases h with
  | unowned => exact ⟨j, hj, rfl, .inl rfl⟩
  | @kept now k i i' hslot hi hset ht hs =>
      by_cases hk : id = k
      · subst hk
        cases Option.some.inj (hj.symm.trans hi)
        refine ⟨i', Floor.job_setJob_self .., ht, .inr ⟨hslot, ?_⟩⟩
        rw [hs, Snapshot.outcome, hset]
        rfl
      · exact ⟨j, by simp [hk, hj], rfl, .inl rfl⟩
  | @settled now k i i' new ps hslot hi hset ht hs =>
      by_cases hk : id = k
      · subst hk
        cases Option.some.inj (hj.symm.trans hi)
        refine ⟨i', Floor.job_setJob_self .., ht, .inr ⟨hslot, ?_⟩⟩
        rw [hs, Snapshot.outcome, hset]
        rfl
      · exact ⟨j, by simp [hk, hj], rfl, .inl rfl⟩

/-- A callback writes its printer's row only. -/
theorem Reported.printer_frame (h : Reported p snap f f') (hq : q ≠ p) : f'.printers q = f.printers q := by
  cases h <;> simp [hq]

/-- **What a callback does to its printer's row**: telemetry, or a block for the owner that it settled. -/
theorem Reported.printer_cases (h : Reported p snap f f') :
    (f'.printers p).currentJobId = (f.printers p).currentJobId ∧
      (((f'.printers p).plateCleared = (f.printers p).plateCleared ∧
          (f'.printers p).status = statusMap snap.status ∧
          ∀ id j, (f.printers p).currentJobId = some id → f.job id = some j →
            snap.settled (snap.confirmed j.status) = none) ∨
        ((f'.printers p).plateCleared = false ∧ ∃ id j new, (f.printers p).currentJobId = some id ∧
          f.job id = some j ∧
          snap.settled (snap.confirmed j.status) = some (new, (f'.printers p).status))) := by
  cases h with
  | unowned hnone =>
      refine ⟨by simp [Snapshot.row], .inl ⟨by simp [Snapshot.row], by simp [Snapshot.row], ?_⟩⟩
      intro id j hslot hj
      rw [hnone id hslot] at hj
      cases hj
  | kept hslot hj hset =>
      refine ⟨by simp [Snapshot.row], .inl ⟨by simp [Snapshot.row], by simp [Snapshot.row], ?_⟩⟩
      intro id j hslot' hj'
      cases Option.some.inj (hslot.symm.trans hslot')
      cases Option.some.inj (hj.symm.trans hj')
      exact hset
  | @settled now id j j' new ps hslot hj hset =>
      exact ⟨by simp [PrinterState.blocked, hslot],
        .inr ⟨by simp [PrinterState.blocked], id, j, new, hslot, hj, by simp [PrinterState.blocked, hset]⟩⟩

end moves

/-! ## The record -/

variable {s s' : Service} {e : Event} {id : JobId} {j : Job}

/-- The checks before an upload pass for an enabled printer and an existing file only. -/
theorem uploadArgument_sound {cfg : Settings} {h : Handoff} {path : String}
    (harg : Service.uploadArgument cfg h = .ok path) :
    cfg.livePrinterEnabled h.printer = true ∧ h.slicedPath = some path := by
  unfold Service.uploadArgument at harg
  split at harg
  · cases harg
  · next hlive =>
      split at harg
      · cases harg
      · next path' hpath =>
          split at harg <;> cases harg
          exact ⟨by simpa using hlive, hpath⟩

/-- What a step adds to the record. -/
inductive HistoryTrans (s : Service) (e : Event) (s' : Service) : Prop
  | same (h : s'.history = s.history)
  | sliced {stl path : String} {p : PrinterID} {id : JobId} {task : SliceTask} {ev : SliceEvent}
      (h : s'.history = .sliced stl p path :: s.history) (he : e = .slice id ev)
      (htask : s.slices id = some task) (ht : SliceTrans s id task s')
  | uploaded {i : Nat} {h : Handoff} {path : String} (hh : s.handoffs[i]? = some h) (hpc : h.pc = .begin)
      (harg : Service.uploadArgument s.settings h = .ok path)
      (hs : s'.handoffs = s.handoffs.set i { h with pc := .transfer }) (hdb : s'.db = s.db)
      (hist : s'.history = .uploaded h.id h.printer path :: s.history)
  | published {i b : Nat} {h : Handoff} (hh : s.handoffs[i]? = some h) (hpc : h.pc = .publish b)
      (hs : s'.handoffs = s.handoffs.set i { h with pc := .published b }) (hdb : s'.db = s.db)
      (hist : s'.history = .published h.id h.printer :: s.history)
  | reported {p : PrinterID} {report : Report} (he : e = .live p (.message report))
      (h : s'.history = .reported p report.gcodeState :: s.history)
  | processed {i : Nat} {p : PrinterID} {c : Callback} {snap : Snapshot} (he : e = .callback i)
      (hi : s.pending[i]? = some (p, c)) (hc : c.payload = some snap)
      (h : s'.history = .processed p snap :: s.history)
  | dispatched {id : JobId} {p : PrinterID} {j j' : Job} (he : e = .tick)
      (hj : s.db.job id = some j) (hs : j.status = .queued) (hfree : (s.db.printers p).free)
      (hj' : s'.db.job id = some j') (hs' : j'.status = .uploading) (ha : j'.assignedPrinter = some p)
      (h : s'.history = .dispatched id p (s.live p).gcodeState :: s.history)

theorem Trans.history (ht : Trans s e s') : HistoryTrans s e s' := by
  cases ht with
  | same => exact .same rfl
  | clock => exact .same rfl
  | boot => exact .same rfl
  | crash => exact .same rfl
  | reconcile => exact .same rfl
  | cancel => exact .same rfl
  | upload => exact .same rfl
  | clear => exact .same rfl
  | acknowledge => exact .same rfl
  | @live p ev _ _ hstep =>
      cases ev <;> simp only [Service.liveStep] at hstep
      case connectFailed => cases hstep; exact .same rfl
      case message report => split at hstep <;> cases hstep; exact .reported rfl rfl
      all_goals
        split at hstep <;> cases hstep
        exact .same rfl
  | callback _ ht =>
      cases ht with
      | processed hi hc => exact .processed rfl hi hc rfl
      | acknowledge => exact .same rfl
      | refused => exact .same rfl
      | logged => exact .same rfl
  | tick _ ht =>
      cases ht with
      | goto => exact .same rfl
      | submit => exact .same rfl
      | fallback => exact .same rfl
      | @dispatch d k p i _ hi hs _ hfree hm =>
          obtain ⟨i₀, hi₀, ha⟩ := hm.dispatched
          cases Option.some.inj (hi.symm.trans hi₀)
          rcases hm.job_cases hi with ⟨hne, -⟩ | ⟨i', -, hi', -, hl, hticket⟩
          · exact absurd rfl hne
          · have htk : i'.ticket = i.ticket := (hticket.resolve_left (by simp)).resolve_left (by simp)
            exact .dispatched rfl hi hs hfree hi' hl ((Job.ticket_assignedPrinter htk).trans ha) rfl
  | slice _ htask ht =>
      have hslice := ht
      cases ht with
      | sliced => exact .sliced rfl rfl htask hslice
      | resliced => exact .sliced rfl rfl htask hslice
      | _ => exact .same rfl
  | handoff _ hh ht =>
      cases ht with
      | upload hpc harg => exact .uploaded hh hpc harg rfl rfl rfl
      | publish hpc => exact .published hh hpc rfl rfl rfl
      | _ => exact .same rfl

/-- Only a callback processes a snapshot. -/
theorem HistoryTrans.quiet {p : PrinterID} (h : HistoryTrans s e s') (he : ∀ i, e ≠ .callback i) :
    ∀ snap, s'.history ≠ .processed p snap :: s.history := by
  intro snap hc
  cases h with
  | same h => exact List.cons_ne_self _ _ (hc.symm.trans h)
  | processed hcb => exact he _ hcb
  | sliced h => rw [hc] at h; cases h
  | uploaded _ _ _ _ _ h => rw [hc] at h; cases h
  | published _ _ _ _ h => rw [hc] at h; cases h
  | reported _ h => rw [hc] at h; cases h
  | dispatched _ _ _ _ _ _ _ h => rw [hc] at h; cases h

/-- The last snapshot of `p` that `_on_status_update` committed. -/
def lastProcessed (p : PrinterID) (history : List Occurrence) : Option Snapshot :=
  history.findSome? fun o => match o with
    | .processed q snap => if q = p then some snap else none
    | _ => none

theorem lastProcessed_processed (p : PrinterID) (snap : Snapshot) (h : List Occurrence) :
    lastProcessed p (.processed p snap :: h) = some snap := by
  simp [lastProcessed]

/-- A step that processes no snapshot of `p` leaves the last one. -/
theorem HistoryTrans.lastProcessed {p : PrinterID} (h : HistoryTrans s e s')
    (hquiet : ∀ snap, s'.history ≠ .processed p snap :: s.history) :
    lastProcessed p s'.history = lastProcessed p s.history := by
  cases h with
  | same h => rw [h]
  | sliced h | reported _ h => rw [h]; rfl
  | uploaded _ _ _ _ _ h => rw [h]; rfl
  | published _ _ _ _ h => rw [h]; rfl
  | dispatched _ _ _ _ _ _ _ h => rw [h]; rfl
  | @processed i q c snap _ _ _ h =>
      have hq : q ≠ p := by
        rintro rfl
        exact hquiet snap h
      rw [h]
      simp [BambuBabu.lastProcessed, hq]

/-- What has happened stays in the record. -/
theorem Trans.history_mono {o : Occurrence} (ht : Trans s e s') (ho : o ∈ s.history) : o ∈ s'.history := by
  cases ht.history with
  | same h => rw [h]; exact ho
  | sliced h => rw [h]; exact List.mem_cons_of_mem _ ho
  | uploaded _ _ _ _ _ h => rw [h]; exact List.mem_cons_of_mem _ ho
  | published _ _ _ _ h => rw [h]; exact List.mem_cons_of_mem _ ho
  | reported _ h => rw [h]; exact List.mem_cons_of_mem _ ho
  | processed _ _ _ h => rw [h]; exact List.mem_cons_of_mem _ ho
  | dispatched _ _ _ _ _ _ _ h => rw [h]; exact List.mem_cons_of_mem _ ho

/-- An upload on record after a step was on record before it, or a worker has just made it. -/
theorem HistoryTrans.upload_cases {p : PrinterID} {path : String} {later earlier : List Occurrence}
    (h : HistoryTrans s e s') (hsplit : s'.history = later ++ .uploaded id p path :: earlier) :
    (∃ later', s.history = later' ++ .uploaded id p path :: earlier) ∨
      (earlier = s.history ∧ s'.db = s.db ∧ ∃ h ∈ s.handoffs, h.id = id ∧ h.printer = p ∧
        Service.uploadArgument s.settings h = .ok path) := by
  -- any other entry that was added comes after the upload
  have old : ∀ {o : Occurrence}, s'.history = o :: s.history → o ≠ .uploaded id p path →
      ∃ later', s.history = later' ++ .uploaded id p path :: earlier := fun hist hne => by
    rw [hsplit] at hist
    cases later with
    | nil => exact absurd (List.cons.inj hist).1.symm hne
    | cons _ later => exact ⟨later, (List.cons.inj hist).2.symm⟩
  cases h with
  | same h => exact .inl ⟨later, h.symm.trans hsplit⟩
  | sliced h | reported _ h => exact .inl (old h (by simp))
  | published _ _ _ _ h => exact .inl (old h (by simp))
  | processed _ _ _ h => exact .inl (old h (by simp))
  | dispatched _ _ _ _ _ _ _ h => exact .inl (old h (by simp))
  | uploaded hh _ harg _ hdb hist =>
      rw [hsplit] at hist
      cases later with
      | cons _ later => exact .inl ⟨later, (List.cons.inj hist).2.symm⟩
      | nil =>
          obtain ⟨ho, rfl⟩ := List.cons.inj hist
          cases ho
          exact .inr ⟨rfl, hdb, _, List.mem_of_getElem? hh, rfl, rfl, harg⟩

/-! ## The settings -/

/-- The settings of a running process are the ones it was started with. -/
theorem Trans.settings (ht : Trans s e s') :
    s'.phase = .down ∨ e = .boot s'.settings ∨ (s.phase ≠ .down ∧ s'.settings = s.settings) := by
  by_cases hdown : s.phase = .down
  · cases ht with
    | same => exact .inl hdown
    | clock => exact .inl hdown
    | boot => exact .inr (.inl rfl)
    | cancel => exact .inl hdown
    | upload => exact .inl hdown
    | clear => exact .inl hdown
    | acknowledge => exact .inl hdown
    | crash hphase | live hphase | callback hphase => exact absurd hdown hphase
    | reconcile hphase | tick hphase | slice hphase | handoff hphase => rw [hdown] at hphase; cases hphase
  · cases ht with
    | boot hphase => exact absurd hphase hdown
    | crash => exact .inl rfl
    | live _ hstep => exact .inr (.inr ⟨hdown, (liveStep_frame hstep).settings⟩)
    | callback _ ht => cases ht <;> exact .inr (.inr ⟨hdown, rfl⟩)
    | tick _ ht => cases ht <;> exact .inr (.inr ⟨hdown, rfl⟩)
    | slice _ _ ht => cases ht <;> exact .inr (.inr ⟨hdown, rfl⟩)
    | handoff _ _ ht => cases ht <;> exact .inr (.inr ⟨hdown, rfl⟩)
    | _ => exact .inr (.inr ⟨hdown, rfl⟩)

/-! ## One job -/

/-- How a slicing worker moves its job. -/
inductive SliceMoves : SliceTask → JobStatus → JobStatus → Prop
  | analysing : SliceMoves .start .pending .analysing
  | planned {stl a} : SliceMoves (.plan stl a) .analysing .slicing
  | rejected {stl a} : SliceMoves (.plan stl a) .analysing .rejected
  | stored {p path est} : SliceMoves (.store p path est) .slicing .queued
  | restored {p path est} : SliceMoves (.restore p path est) .slicing .queued
  | aborted {m} : SliceMoves (.aborting m) .slicing .queued
  | failed {m st} (h : st ∉ terminalJobStatuses) : SliceMoves (.failing m) st .failed

/-- How a dispatch worker moves its job. -/
inductive HandoffMoves : HandoffPc → JobStatus → JobStatus → Prop
  | requested : HandoffMoves .request .uploading .starting
  | confirmed : HandoffMoves .confirm .starting .printing
  | quarantined {exc} : HandoffMoves (.ambiguous exc) .starting .attention
  | failed {exc st} (h : st ∉ terminalJobStatuses) : HandoffMoves (.failing exc) st .failed

/-- No worker dispatches a job. -/
theorem SliceMoves.ne_uploading {task : SliceTask} {st st' : JobStatus} (h : SliceMoves task st st') :
    st' ≠ .uploading := by
  cases h <;> decide

theorem HandoffMoves.ne_uploading {pc : HandoffPc} {st st' : JobStatus} (h : HandoffMoves pc st st') :
    st' ≠ .uploading := by
  cases h <;> decide

/-- A slicing worker neither starts nor completes a job; -/
theorem SliceMoves.not_started {task : SliceTask} {st st' : JobStatus} (h : SliceMoves task st st') :
    st' ∉ [.printing, .completed] := by
  cases h <;> decide

/-- it queues a job that it was slicing; -/
theorem SliceMoves.queued {task : SliceTask} {st : JobStatus} (h : SliceMoves task st .queued) :
    st = .slicing := by
  cases h <;> rfl

/-- a dispatch worker starts its job after it was confirmed. -/
theorem HandoffMoves.started {pc : HandoffPc} {st st' : JobStatus} (h : HandoffMoves pc st st')
    (hst : st' ∈ [.printing, .completed]) : pc = .confirm := by
  cases h with
  | confirmed => rfl
  | _ => exact absurd hst (by decide)

/-- A dispatch worker ends its job by failing it only. -/
theorem HandoffMoves.ends {pc : HandoffPc} {st st' : JobStatus} (h : HandoffMoves pc st st')
    (hend : st' ∈ [.completed, .failed]) : st' = .failed ∧ ∃ exc, pc = .failing exc := by
  cases h with
  | failed => exact ⟨rfl, _, rfl⟩
  | _ => exact absurd hend (by decide)

/-- What a step does to job `id`, which is `j` before and `j'` after it. -/
inductive JobTrans (s : Service) (e : Event) (s' : Service) (id : JobId) (j j' : Job) : Prop
  | kept (hs : j'.status = j.status) (ht : j'.ticket = j.ticket)
  | cancelled (hs : j.status ∈ cancellable) (hs' : j'.status = .cancelled) (ht : j'.ticket = j.ticket)
  | retried (hphase : s.phase = .booting) (hs : j.status ∈ [.analysing, .slicing])
      (hs' : j'.status = .pending) (ht : j'.ticket = j.ticket)
  | quarantined (he : e = .reconcile) (hs : j.status ∈ atPrinter) (hs' : j'.status = .attention)
      (ht : j'.ticket = j.ticket)
  | reported {i : Nat} {p : PrinterID} {c : Callback} {snap : Snapshot} (he : e = .callback i)
      (hi : s.pending[i]? = some (p, c)) (hc : c.payload = some snap)
      (hr : Reported p snap s.db.floor s'.db.floor) (hslot : (s.db.printers p).currentJobId = some id)
      (hs' : j'.status = snap.outcome j.status) (ht : j'.ticket = j.ticket)
  | cleared {p : PrinterID} (he : e = .plateCleared p) (hslot : (s.db.printers p).currentJobId = some id)
      (hs : j.status = .attention) (hs' : j'.status = .failed) (ht : j'.ticket = j.ticket)
      (hslot' : (s'.db.printers p).currentJobId = none)
  | dispatched {p : PrinterID} (he : e = .tick) (hs : j.status = .queued) (hs' : j'.status = .uploading)
      (ha : j.assignedPrinter = some p) (hfree : (s.db.printers p).free) (ht : j'.ticket = j.ticket)
  | withdrawn (hs : j.status = .queued) (hs' : j'.status = .slicing) (ht : j'.ticket = j.ticket)
      (hre : ∃ p, s'.slices id = some (.recheck p))
  | sliced {task : SliceTask} (htask : s.slices id = some task) (ht : SliceTrans s id task s')
      (hm : SliceMoves task j.status j'.status)
  | handed {i : Nat} {h : Handoff} {e' : HandoffEvent} (he : e = .handoff i e')
      (hh : s.handoffs[i]? = some h) (hid : h.id = id) (hm : HandoffMoves h.pc j.status j'.status)
      (hend : ∀ exc, h.pc = .failing exc → { h with pc := .releasing } ∈ s'.handoffs)
      (ht : j'.ticket = j.ticket)

/-- A step that leaves the floor alone keeps every row. -/
theorem JobTrans.frame {d : Db} (hf : d.floor.job id = s.db.floor.job id) (hj : s.db.job id = some j) :
    ∃ j', d.job id = some j' ∧ JobTrans s e s' id j j' :=
  ⟨j, hf.trans hj, .kept rfl rfl⟩

/-- A move either misses the job or does to it what its act says. -/
theorem JobTrans.of_move {a : Act} {d : Db} (hj : s.db.job id = some j) (hm : Move a s.db.floor d.floor)
    (hact : ∀ j', a.target = some id → a.takes j.status → j'.status = a.leads j.status →
      (a = .plan id ∨ a = .queue id ∨ j'.ticket = j.ticket) → JobTrans s e s' id j j') :
    ∃ j', d.job id = some j' ∧ JobTrans s e s' id j j' := by
  rcases hm.job_cases hj with ⟨-, hj'⟩ | ⟨j', htgt, hj', htk, hl, hticket⟩
  · exact JobTrans.frame (hj'.trans hj.symm) hj
  · exact ⟨j', hj', hact j' htgt htk hl hticket⟩

/-- A slicing worker moves its own job only, and no printer. -/
theorem SliceTrans.move {task : SliceTask} (ht : SliceTrans s id task s') :
    s'.db = s.db ∨ ∃ a, Move a s.db.floor s'.db.floor ∧ a.target = some id ∧ a.printer = none ∧
      ∀ st, a.takes st → SliceMoves task st (a.leads st) := by
  -- a swap takes the status that it names
  have swap : ∀ {old new : JobStatus}, SliceMoves task old new → Move (.swap id old new) s.db.floor s'.db.floor →
      ∃ a, Move a s.db.floor s'.db.floor ∧ a.target = some id ∧ a.printer = none ∧
        ∀ st, a.takes st → SliceMoves task st (a.leads st) := by
    intro old new hmoves hm
    refine ⟨_, hm, rfl, rfl, fun st htakes => ?_⟩
    cases (show st = old from htakes)
    exact hmoves
  cases ht with
  | goto | sliced | rechecked | resliced => exact .inl rfl
  | analysing htask _ _ hm =>
      subst htask
      exact .inr (swap .analysing hm)
  | reject htask hm =>
      subst htask
      exact .inr (swap .rejected hm)
  | failed htask _ hs hm =>
      subst htask
      exact .inr (swap (.failed hs) hm)
  | aborted htask _ _ hm =>
      subst htask
      exact .inr (swap .aborted hm)
  | planned htask _ hj hs hf =>
      subst htask
      refine .inr ⟨_, Move.of_analysed hj hs hf, rfl, rfl, fun st htakes => ?_⟩
      cases (show st = .analysing from htakes)
      exact .planned
  | stored htask hj hs hf =>
      subst htask
      refine .inr ⟨_, Move.of_queuedFor hj hs hf, rfl, rfl, fun st htakes => ?_⟩
      cases (show st = .slicing from htakes)
      exact .stored
  | restored htask hj hs hf =>
      subst htask
      refine .inr ⟨_, Move.of_queuedFor hj hs hf, rfl, rfl, fun st htakes => ?_⟩
      cases (show st = .slicing from htakes)
      exact .restored

/-- A dispatch worker moves its own job only, and leaves its columns. -/
theorem HandoffTrans.move {i : Nat} {h : Handoff} (ht : HandoffTrans s i h s') :
    s'.db = s.db ∨ ∃ a, Move a s.db.floor s'.db.floor ∧ (∀ k, a ≠ .plan k ∧ a ≠ .queue k) ∧
      ∀ k j, a.target = some k → s.db.job k = some j → a.takes j.status →
        k = h.id ∧ HandoffMoves h.pc j.status (a.leads j.status) := by
  cases ht with
  | goto | upload | check | publish | started | confirmSkip | quarantineSkip | failSkip | releaseSkip =>
      exact .inl rfl
  | request hpc _ _ hm =>
      refine .inr ⟨_, hm, fun k => ⟨by simp, by simp⟩, fun k j htgt _ htakes => ⟨(Option.some.inj htgt).symm, ?_⟩⟩
      rw [hpc, show j.status = _ from htakes]
      exact .requested
  | confirm hpc _ _ hm =>
      refine .inr ⟨_, hm, fun k => ⟨by simp, by simp⟩, fun k j htgt _ htakes => ⟨(Option.some.inj htgt).symm, ?_⟩⟩
      rw [hpc, show j.status = _ from htakes]
      exact .confirmed
  | quarantine hpc hi hs hm =>
      refine .inr ⟨_, hm, fun k => ⟨by simp, by simp⟩, fun k j htgt hj _ => ?_⟩
      cases Option.some.inj htgt
      cases Option.some.inj (hj.symm.trans hi)
      refine ⟨rfl, ?_⟩
      rw [hpc, hs]
      exact .quarantined
  | fail hpc _ hs hm =>
      refine .inr ⟨_, hm, fun k => ⟨by simp, by simp⟩, fun k j htgt _ htakes => ⟨(Option.some.inj htgt).symm, ?_⟩⟩
      rw [hpc, show j.status = _ from htakes]
      exact .failed hs
  | block _ _ _ hm => exact .inr ⟨_, hm, fun k => ⟨by simp, by simp⟩, fun k j htgt => by cases htgt⟩
  | release _ _ _ _ hm => exact .inr ⟨_, hm, fun k => ⟨by simp, by simp⟩, fun k j htgt => by cases htgt⟩

/-- A dispatch worker that fails its job goes on to release its printer. -/
theorem HandoffTrans.failing_next {i : Nat} {h : Handoff} {exc : Exc} (ht : HandoffTrans s i h s')
    (hh : s.handoffs[i]? = some h) (hpc : h.pc = .failing exc) : { h with pc := .releasing } ∈ s'.handoffs := by
  have hset : { h with pc := .releasing } ∈ s.handoffs.set i { h with pc := .releasing } :=
    List.mem_of_getElem? (List.getElem?_set_self (List.getElem?_eq_some_iff.mp hh).1)
  cases ht with
  | goto hloc => rw [hpc] at hloc; cases hloc
  | failSkip => exact hset
  | fail => exact hset
  | upload hpc' | request hpc' | check hpc' | publish hpc' | started hpc' | confirmSkip hpc' | confirm hpc'
  | block hpc' | quarantineSkip hpc' | quarantine hpc' | releaseSkip hpc' | release hpc' =>
      rw [hpc] at hpc'
      cases hpc'

/-- **A step seen from one job.** -/
theorem Trans.job (ht : Trans s e s') (hj : s.db.job id = some j) :
    ∃ j', s'.db.job id = some j' ∧ JobTrans s e s' id j j' := by
  -- only the slicing workers write what a ticket is made of
  have ticket : ∀ {a : Act} {j' : Job}, (a = .plan id ∨ a = .queue id ∨ j'.ticket = j.ticket) →
      a ≠ .plan id → a ≠ .queue id → j'.ticket = j.ticket := fun h h₁ h₂ =>
    (h.resolve_left h₁).resolve_left h₂
  cases ht with
  | same => exact JobTrans.frame rfl hj
  | clock => exact JobTrans.frame rfl hj
  | boot => exact JobTrans.frame rfl hj
  | crash => exact JobTrans.frame rfl hj
  | acknowledge => exact JobTrans.frame rfl hj
  | live _ hstep => exact JobTrans.frame (by rw [(liveStep_frame hstep).db]) hj
  | reconcile hphase hm =>
      obtain ⟨j', hj', htk, hs | ⟨hs, hs'⟩ | ⟨hs, hs'⟩⟩ := hm.recovers_job hj
      · exact ⟨j', hj', .kept hs htk⟩
      · exact ⟨j', hj', .retried hphase hs hs' htk⟩
      · exact ⟨j', hj', .quarantined rfl hs hs' htk⟩
  | cancel _ hj₀ hs hm =>
      refine JobTrans.of_move hj hm fun j' htgt htk hl hticket => ?_
      cases Option.some.inj htgt
      cases Option.some.inj (hj.symm.trans hj₀)
      exact .cancelled hs hl (ticket hticket (by simp) (by simp))
  | upload hm =>
      have hnew := hm.submitted
      refine JobTrans.of_move hj hm fun j' htgt _ _ _ => ?_
      cases Option.some.inj htgt
      rw [Db.floor_job, hj] at hnew
      cases hnew
  | @clear d p owner hslot hm =>
      refine JobTrans.of_move hj hm fun j' htgt _ hl hticket => ?_
      have hown : (s.db.printers p).currentJobId = some id := hslot.trans htgt
      have htk := ticket hticket (by simp) (by simp)
      -- the request changes the status of a quarantined job only
      by_cases hs : j.status = .attention
      · exact .cleared rfl hown hs (by rw [hl, Act.leads, if_pos hs]) htk hm.cleared.2.1
      · exact .kept (by rw [hl, Act.leads, if_neg hs]) htk
  | callback _ ht =>
      cases ht with
      | processed hi hc hr =>
          obtain ⟨j', hj', htk, hs | ⟨hslot, hs⟩⟩ := hr.job_cases hj
          · exact ⟨j', hj', .kept hs htk⟩
          · exact ⟨j', hj', .reported rfl hi hc hr hslot hs htk⟩
      | acknowledge => exact JobTrans.frame rfl hj
      | refused => exact JobTrans.frame rfl hj
      | @logged d _ _ hf =>
          have hframe : d.floor.job id = s.db.floor.job id := by rw [hf]
          exact JobTrans.frame hframe hj
  | tick _ ht =>
      cases ht with
      | goto => exact JobTrans.frame rfl hj
      | submit => exact JobTrans.frame rfl hj
      | @dispatch d k p i _ hi hs hen hfree hm =>
          obtain ⟨i', hi', ha⟩ := hm.dispatched
          refine JobTrans.of_move hj hm fun j' htgt htk hl hticket => ?_
          cases Option.some.inj htgt
          cases Option.some.inj (hj.symm.trans hi')
          exact .dispatched rfl htk hl ha hfree (ticket hticket (by simp) (by simp))
      | @fallback d k p _ i _ now hi hs _ _ _ _ _ hf =>
          have hm : Move (.swap k i.status .slicing) s.db.floor d.floor := by
            rw [hf]; exact .swap hi (by rw [hs]; decide) (by decide)
          refine JobTrans.of_move hj hm fun j' htgt htk hl hticket => ?_
          cases Option.some.inj htgt
          exact .withdrawn (htk.trans hs) hl (ticket hticket (by simp) (by simp)) ⟨p, Function.update_self ..⟩
  | slice _ htask ht =>
      rcases ht.move with hsame | ⟨a, hm, htgt, -, hmoves⟩
      · exact JobTrans.frame (by rw [hsame]) hj
      · refine JobTrans.of_move hj hm fun j' hid htk hl _ => ?_
        cases Option.some.inj (htgt.symm.trans hid)
        exact .sliced htask ht (hl ▸ hmoves _ htk)
  | handoff _ hh ht =>
      rcases ht.move with hsame | ⟨a, hm, hticket, hmoves⟩
      · exact JobTrans.frame (by rw [hsame]) hj
      · refine JobTrans.of_move hj hm fun j' htgt htk hl hcols => ?_
        obtain ⟨hid, hmove⟩ := hmoves id j htgt hj htk
        exact .handed rfl hh hid.symm (hl ▸ hmove) (fun _ hpc => ht.failing_next hh hpc)
          (ticket hcols (hticket id).1 (hticket id).2)

/-- The same for the two rows of the job. -/
theorem Trans.job_trans {j' : Job} (ht : Trans s e s') (hj : s.db.job id = some j)
    (hj' : s'.db.job id = some j') : JobTrans s e s' id j j' := by
  obtain ⟨i, hi, htrans⟩ := ht.job hj
  cases Option.some.inj (hi.symm.trans hj')
  exact htrans

/-- Only the dispatch phase of the queue loop sends a job to a printer. -/
theorem JobTrans.dispatch {j' : Job} (h : JobTrans s e s' id j j') (hs : j.status = .queued)
    (hs' : j'.status = .uploading) : e = .tick ∧ j'.ticket = j.ticket ∧
      ∃ p, j.assignedPrinter = some p ∧ (s.db.printers p).free := by
  cases h with
  | dispatched he _ _ ha hfree htk => exact ⟨he, htk, _, ha, hfree⟩
  | kept hst => rw [hs, hs'] at hst; cases hst
  | cancelled _ hst | retried _ _ hst | quarantined _ _ hst | cleared _ _ _ hst | withdrawn _ hst =>
      rw [hs'] at hst; cases hst
  | reported _ _ _ _ _ hst =>
      rw [hs, Snapshot.outcome_idle (by decide), hs'] at hst
      cases hst
  | sliced _ _ hm => exact absurd hs' hm.ne_uploading
  | handed _ _ _ hm => exact absurd hs' hm.ne_uploading

/-- The step sends a job from QUEUED to UPLOADING on `p`. -/
def DispatchesOn (p : PrinterID) (s s' : Service) : Prop :=
  ∃ id j j', s.db.job id = some j ∧ s'.db.job id = some j' ∧ j.status = .queued ∧ j'.status = .uploading ∧
    j'.assignedPrinter = some p

/-- A job is dispatched by the queue loop, on a free printer. -/
theorem DispatchesOn.free {p : PrinterID} (h : DispatchesOn p s s') (ht : Trans s e s') :
    e = .tick ∧ (s.db.printers p).free := by
  obtain ⟨id, j, j', hj, hj', hs, hs', hp⟩ := h
  obtain ⟨he, htk, q, ha, hfree⟩ := (ht.job_trans hj hj').dispatch hs hs'
  rw [Job.ticket_assignedPrinter htk, ha] at hp
  cases hp
  exact ⟨he, hfree⟩

/-! ## One printer row -/

/-- What a step does to the row of printer `p`. -/
inductive PrinterTrans (s : Service) (e : Event) (s' : Service) (p : PrinterID) : Prop
  | kept (h : s'.db.printers p = s.db.printers p)
      (hquiet : ∀ snap, s'.history ≠ .processed p snap :: s.history)
  | reported {i : Nat} {c : Callback} {snap : Snapshot} (he : e = .callback i)
      (hi : s.pending[i]? = some (p, c)) (hc : c.payload = some snap)
      (hist : s'.history = .processed p snap :: s.history)
      (hslot : (s'.db.printers p).currentJobId = (s.db.printers p).currentJobId)
      (hplate : (s'.db.printers p).plateCleared = (s.db.printers p).plateCleared)
      (hst : (s'.db.printers p).status = statusMap snap.status)
      (hnone : ∀ id j, (s.db.printers p).currentJobId = some id → s.db.job id = some j →
        snap.settled (snap.confirmed j.status) = none)
  | settled {i : Nat} {c : Callback} {snap : Snapshot} {id : JobId} {j : Job} {new : JobStatus}
      (he : e = .callback i) (hi : s.pending[i]? = some (p, c)) (hc : c.payload = some snap)
      (hist : s'.history = .processed p snap :: s.history)
      (hown : (s.db.printers p).currentJobId = some id) (hj : s.db.job id = some j)
      (hset : snap.settled (snap.confirmed j.status) = some (new, (s'.db.printers p).status))
      (hslot : (s'.db.printers p).currentJobId = (s.db.printers p).currentJobId)
      (hplate : (s'.db.printers p).plateCleared = false)
  | dispatched {id : JobId} {j' : Job} (he : e = .tick) (hfree : (s.db.printers p).free)
      (hslot : (s'.db.printers p).currentJobId = some id) (hj' : s'.db.job id = some j')
      (hs' : j'.status = .uploading)
      (hplate : (s'.db.printers p).plateCleared = (s.db.printers p).plateCleared)
      (hst : (s'.db.printers p).status = (s.db.printers p).status)
  | blocked {i : Nat} {h : Handoff} {e' : HandoffEvent} (he : e = .handoff i e')
      (hh : s.handoffs[i]? = some h) (hp : h.printer = p) (hpc : h.pc = .confirm)
      (hslot : (s'.db.printers p).currentJobId = (s.db.printers p).currentJobId)
      (hplate : (s'.db.printers p).plateCleared = false)
      (hst : (s'.db.printers p).status = (s.db.printers p).status)
  | quarantined {i : Nat} {h : Handoff} {e' : HandoffEvent} {exc : Exc} (he : e = .handoff i e')
      (hh : s.handoffs[i]? = some h) (hp : h.printer = p) (hpc : h.pc = .ambiguous exc)
      (hslot : (s'.db.printers p).currentJobId = (s.db.printers p).currentJobId)
      (hplate : (s'.db.printers p).plateCleared = false) (hst : (s'.db.printers p).status = .error)
  | released {i : Nat} {h : Handoff} {e' : HandoffEvent} {j : Job} (he : e = .handoff i e')
      (hh : s.handoffs[i]? = some h) (hp : h.printer = p) (hpc : h.pc = .releasing)
      (hown : (s.db.printers p).currentJobId = some h.id) (hj : s.db.job h.id = some j)
      (hs : j.status = .failed) (hslot : (s'.db.printers p).currentJobId = none)
      (hplate : (s'.db.printers p).plateCleared = true) (hst : (s'.db.printers p).status = .idle)
  | cleared (he : e = .plateCleared p) (hblocked : (s.db.printers p).plateCleared = false)
      (hslot : (s'.db.printers p).currentJobId = none)
      (hplate : (s'.db.printers p).plateCleared = true)
      (hst : (s'.db.printers p).status = (s.db.printers p).status)
  | recovered (he : e = .reconcile)
      (hslot : (s'.db.printers p).currentJobId = (s.db.printers p).currentJobId)
      (hplate : (s'.db.printers p).plateCleared = false)
      (hst : (s'.db.printers p).status ∈ [.error, .printing])

/-- **A step seen from one printer.** -/
theorem Trans.printer (ht : Trans s e s') (p : PrinterID) : PrinterTrans s e s' p := by
  have hist := ht.history
  -- a move either misses the row or does to it what its act says
  have one : ∀ {a : Act} {d : Db}, s'.db = d → (∀ i, e ≠ .callback i) → Move a s.db.floor d.floor →
      (a.printer = some p → (d.printers p).currentJobId = a.slot (s.db.printers p).currentJobId →
        (d.printers p).plateCleared = a.plate (s.db.printers p).plateCleared →
        (d.printers p).status = a.shows (s.db.printers p).status → PrinterTrans s e s' p) →
      PrinterTrans s e s' p := fun hdb he hm hact => by
    rcases hm.printer_cases p with hsame | ⟨hp, hslot, hplate, hst⟩
    · exact .kept (by rw [hdb]; exact hsame) (hist.quiet he)
    · exact hact hp hslot hplate hst
  cases ht with
  | same => exact .kept rfl fun _ hc => List.cons_ne_self _ _ hc.symm
  | clock => exact .kept rfl (hist.quiet (by simp))
  | boot => exact .kept rfl (hist.quiet (by simp))
  | crash => exact .kept rfl (hist.quiet (by simp))
  | acknowledge => exact .kept rfl (hist.quiet (by simp))
  | live _ hstep => exact .kept (by rw [(liveStep_frame hstep).db]) (hist.quiet (by simp))
  | reconcile _ hm =>
      rcases hm.recovers_printer p with hsame | ⟨hslot, hplate, hst⟩
      · exact .kept hsame (hist.quiet (by simp))
      · exact .recovered rfl hslot hplate hst
  | cancel he _ _ hm =>
      exact one rfl (by rcases he with rfl | rfl <;> simp) hm fun hp => (by cases hp)
  | upload hm => exact one rfl (by simp) hm fun hp => (by cases hp)
  | clear _ hm =>
      have hblocked := hm.cleared.1
      refine one rfl (by simp) hm fun hp hslot hplate hst => ?_
      cases Option.some.inj hp
      exact .cleared rfl hblocked hslot hplate hst
  | callback _ ht =>
      cases ht with
      | acknowledge => exact .kept rfl fun _ hc => List.cons_ne_self _ _ hc.symm
      | refused => exact .kept rfl fun _ hc => List.cons_ne_self _ _ hc.symm
      | @logged d _ _ hf =>
          have hframe : d.floor.printers p = s.db.floor.printers p := by rw [hf]
          exact .kept hframe fun _ hc => List.cons_ne_self _ _ hc.symm
      | @processed d q c snap hi hc hr =>
          by_cases hq : p = q
          · subst hq
            obtain ⟨hslot, ⟨hplate, hst, hnone⟩ | ⟨hplate, id, j, new, hown, hj, hset⟩⟩ := hr.printer_cases
            · exact .reported rfl hi hc rfl hslot hplate hst hnone
            · exact .settled rfl hi hc rfl hown hj hset hslot hplate
          · exact .kept (hr.printer_frame hq) fun snap hc => hq (by cases hc; rfl)
  | tick _ ht =>
      cases ht with
      | goto => exact .kept rfl (hist.quiet (by simp))
      | submit => exact .kept rfl (hist.quiet (by simp))
      | dispatch hi _ _ hfree hm =>
          refine one rfl (by simp) hm fun hp hslot hplate hst => ?_
          cases Option.some.inj hp
          rcases hm.job_cases hi with ⟨hne, -⟩ | ⟨i', -, hi', -, hl, -⟩
          · exact absurd rfl hne
          · exact .dispatched rfl hfree hslot hi' hl hplate hst
      | @fallback d _ _ _ _ _ _ _ _ _ _ _ _ _ hf =>
          have hframe : d.floor.printers p = s.db.floor.printers p := by rw [hf]; rfl
          exact .kept hframe (hist.quiet (by simp))
  | slice _ _ ht =>
      rcases ht.move with hsame | ⟨a, hm, -, hnone, -⟩
      · exact .kept (by rw [hsame]) (hist.quiet (by simp))
      · refine one rfl (by simp) hm fun hp => ?_
        rw [hnone] at hp
        cases hp
  | handoff _ hh ht =>
      cases ht with
      | goto => exact .kept rfl (hist.quiet (by simp))
      | upload => exact .kept rfl (hist.quiet (by simp))
      | check => exact .kept rfl (hist.quiet (by simp))
      | publish => exact .kept rfl (hist.quiet (by simp))
      | started => exact .kept rfl (hist.quiet (by simp))
      | confirmSkip => exact .kept rfl (hist.quiet (by simp))
      | quarantineSkip => exact .kept rfl (hist.quiet (by simp))
      | failSkip => exact .kept rfl (hist.quiet (by simp))
      | releaseSkip => exact .kept rfl (hist.quiet (by simp))
      | request _ _ _ hm => exact one rfl (by simp) hm fun hp => (by cases hp)
      | fail _ _ _ hm => exact one rfl (by simp) hm fun hp => (by cases hp)
      | confirm hpc _ _ hm =>
          exact one rfl (by simp) hm fun hp hslot hplate hst =>
            .blocked rfl hh (Option.some.inj hp) hpc hslot hplate hst
      | block hpc _ _ hm =>
          exact one rfl (by simp) hm fun hp hslot hplate hst =>
            .blocked rfl hh (Option.some.inj hp) hpc hslot hplate hst
      | quarantine hpc _ _ hm =>
          exact one rfl (by simp) hm fun hp hslot hplate hst =>
            .quarantined rfl hh (Option.some.inj hp) hpc hslot hplate hst
      | release hpc hown hj hs hm =>
          refine one rfl (by simp) hm fun hp hslot hplate hst => ?_
          cases Option.some.inj hp
          exact .released rfl hh rfl hpc hown hj hs hslot hplate hst

/-! ## One dispatch worker -/

/-- How a worker gets to a position. -/
inductive HandoffAdvance (s s' : Service) (h : Handoff) : HandoffPc → Prop
  | goto {pc' : HandoffPc} (hloc : HandoffLocal h.pc pc') : HandoffAdvance s s' h pc'
  | upload (hpc : h.pc = .begin) : HandoffAdvance s s' h .transfer
  | request (hpc : h.pc = .request) (hst : ∀ j, s'.db.job h.id = some j → j.status = .starting) :
      HandoffAdvance s s' h .check
  | check {b : Nat} (hpc : h.pc = .check) : HandoffAdvance s s' h (.publish b)
  | publish {b : Nat} (hpc : h.pc = .publish b)
      (hist : s'.history = .published h.id h.printer :: s.history) : HandoffAdvance s s' h (.published b)
  | started {b : Nat} {timedOut : Bool} (hpc : h.pc = .await b)
      (hok : (s.live h.printer).startWait s.settings b timedOut = some (.ok ())) :
      HandoffAdvance s s' h .confirm
  | failed {exc : Exc} (hpc : h.pc = .failing exc)
      (hterm : ∀ j, s'.db.job h.id = some j → j.status ∈ terminalJobStatuses) :
      HandoffAdvance s s' h .releasing

/-- Where a dispatch worker comes from. -/
inductive HandoffTrace (s : Service) (e : Event) (s' : Service) (h' : Handoff) : Prop
  | stayed (hh : h' ∈ s.handoffs)
  | dispatched (he : e = .tick) (hpc : h'.pc = .begin)
  | advanced {i : Nat} {h : Handoff} {e' : HandoffEvent} (he : e = .handoff i e')
      (hh : s.handoffs[i]? = some h) (hid : h'.id = h.id) (hp : h'.printer = h.printer)
      (hadv : HandoffAdvance s s' h h'.pc)

/-- **A step seen from one dispatch worker.** -/
theorem Trans.worker {h' : Handoff} (ht : Trans s e s') (hh' : h' ∈ s'.handoffs) :
    HandoffTrace s e s' h' := by
  cases ht with
  | same => exact .stayed hh'
  | clock => exact .stayed hh'
  | boot => cases hh'
  | crash => cases hh'
  | reconcile => exact .stayed hh'
  | cancel => exact .stayed hh'
  | upload => exact .stayed hh'
  | clear => exact .stayed hh'
  | acknowledge => exact .stayed hh'
  | live _ hstep => exact .stayed ((liveStep_frame hstep).handoffs ▸ hh')
  | callback _ ht => cases ht <;> exact .stayed hh'
  | tick _ ht =>
      cases ht with
      | goto => exact .stayed hh'
      | submit => exact .stayed hh'
      | fallback => exact .stayed hh'
      | dispatch =>
          rcases List.mem_append.mp hh' with hold | hnew
          · exact .stayed hold
          · cases List.mem_singleton.mp hnew
            exact .dispatched rfl rfl
  | slice _ _ ht => cases ht <;> exact .stayed hh'
  | @handoff i h ev _ _ hh ht =>
      -- the worker that moved is the one written back, or another one
      have set : ∀ {pc : HandoffPc}, h' ∈ s.handoffs.set i { h with pc := pc } →
          HandoffAdvance s s' h pc → HandoffTrace s (.handoff i ev) s' h' := fun hmem hadv => by
        rcases List.mem_or_eq_of_mem_set hmem with hold | rfl
        · exact .stayed hold
        · exact .advanced rfl hh rfl rfl hadv
      cases ht with
      | goto hloc => exact set hh' (.goto hloc)
      | upload hpc => exact set hh' (.upload hpc)
      | request hpc hj _ hm =>
          exact set hh' (.request hpc fun j' hj' => (hm.swap_row hj hj').1)
      | check hpc => exact set hh' (.check hpc)
      | publish hpc => exact set hh' (.publish hpc rfl)
      | started hpc hok => exact set hh' (.started hpc hok)
      | failSkip hpc hno => exact set hh' (.failed hpc hno)
      | fail hpc hj _ hm =>
          refine set hh' (.failed hpc fun j' hj' => ?_)
          rw [(hm.swap_row hj hj').1]
          decide
      | _ => exact .stayed (List.mem_of_mem_eraseIdx hh')

/-! ## The slicing workers -/

/-- What a step does to the reservations. -/
inductive SlicesTrans (s s' : Service) : Prop
  | same (h : s'.slices = s.slices)
  | lost (h : s'.slices = fun _ => none) (hphase : s'.phase ≠ .running)
  | submitted {id : JobId} (hdb : s'.db = s.db) (h : s'.slices = Function.update s.slices id (some .start))
      (hfree : s.slices id = none)
  | withdrawn {id : JobId} {p : PrinterID} {j j' : Job} (hphase : s.phase = .running)
      (hj : s.db.job id = some j) (hs : j.status = .queued) (hfit : j.fitsOn s.settings p = true)
      (hj' : s'.db.job id = some j')
      (hs' : j'.status = .slicing) (htk : j'.ticket = j.ticket)
      (h : s'.slices = Function.update s.slices id (some (.recheck p)))
      (hbusy : ∃ q, j'.assignedPrinter = some q ∧
        (s'.settings.printerEnabled q && (s'.db.printers q).available) = false)
  | moved {id : JobId} {task : SliceTask} (hphase : s.phase = .running) (htask : s.slices id = some task)
      (ht : SliceTrans s id task s')

theorem Trans.slices (ht : Trans s e s') : SlicesTrans s s' := by
  cases ht with
  | same => exact .same rfl
  | clock => exact .same rfl
  | boot => exact .lost rfl (by simp)
  | crash => exact .lost rfl (by simp [Service.crashed])
  | reconcile => exact .same rfl
  | cancel => exact .same rfl
  | upload => exact .same rfl
  | clear => exact .same rfl
  | acknowledge => exact .same rfl
  | live _ hstep => exact .same (liveStep_frame hstep).slices
  | callback _ ht => cases ht <;> exact .same rfl
  | tick hphase ht =>
      cases ht with
      | goto => exact .same rfl
      | submit hfree => exact .submitted rfl rfl hfree
      | dispatch => exact .same rfl
      | @fallback d k p q i _ now hi hs hq hbusy hfit _ _ hf =>
          have hi' : d.job k = some (i.transitioned now .slicing none none) := Db.job_of_floor hf
          have hprinters : d.floor.printers q = s.db.floor.printers q := by rw [hf]; rfl
          rw [Db.floor_printers, Db.floor_printers] at hprinters
          refine .withdrawn hphase hi hs hfit hi' rfl rfl rfl ⟨q, hq, ?_⟩
          show (s.settings.printerEnabled q && (d.printers q).available) = false
          rw [hprinters]
          exact hbusy
  | slice hphase htask ht => exact .moved hphase htask ht
  | handoff _ _ ht => cases ht <;> exact .same rfl

/-- A step of a worker changes no other reservation. -/
theorem SliceTrans.slices {task : SliceTask} (ht : SliceTrans s id task s') :
    ∃ task', s'.slices = Function.update s.slices id task' := by
  cases ht <;> exact ⟨_, rfl⟩

/-- Where the slicing worker of job `id` comes from that is at `task'` after a step. -/
inductive TaskTrans (s : Service) (e : Event) (s' : Service) (id : JobId) (task' : SliceTask) : Prop
  | kept (h : s.slices id = some task')
  | submitted (htask' : task' = .start)
  | withdrawn {p q : PrinterID} {j : Job} {now : Time} (htask' : task' = .recheck p) (he : e = .tick)
      (hphase : s.phase = .running) (hj : s.db.job id = some j) (hs : j.status = .queued)
      (hfit : j.fitsOn s.settings p = true) (hj' : s'.db.job id = some (j.transitioned now .slicing none none))
      (hq : j.assignedPrinter = some q)
      (hbusy : (s'.settings.printerEnabled q && (s'.db.printers q).available) = false)
  | moved {ev : SliceEvent} {task : SliceTask} (he : e = .slice id ev) (hphase : s.phase = .running)
      (htask : s.slices id = some task) (ht : SliceTrans s id task s')

/-- **A step seen from one slicing worker.** -/
theorem Trans.task {task' : SliceTask} (ht : Trans s e s') (htask' : s'.slices id = some task') :
    TaskTrans s e s' id task' := by
  -- a step that sets the worker of job `k` keeps the others
  have set : ∀ {k : JobId} {o : Option SliceTask}, Function.update s.slices k o id = some task' →
      s.slices id = some task' ∨ k = id ∧ o = some task' := by
    intro k o h
    by_cases hk : id = k
    · subst hk
      rw [Function.update_self] at h
      exact .inr ⟨rfl, h⟩
    · rw [Function.update_of_ne hk] at h
      exact .inl h
  cases ht with
  | boot | crash => cases htask'
  | same | clock | reconcile | cancel | upload | clear | acknowledge => exact .kept htask'
  | live _ hstep => exact .kept ((liveStep_frame hstep).slices ▸ htask')
  | callback _ ht => cases ht <;> exact .kept htask'
  | handoff _ _ ht => cases ht <;> exact .kept htask'
  | tick hphase ht =>
      cases ht with
      | goto | dispatch => exact .kept htask'
      | submit =>
          rcases set htask' with hold | ⟨-, hnew⟩
          · exact .kept hold
          · exact .submitted (Option.some.inj hnew).symm
      | @fallback d k p q j _ now hj hs hq hbusy hfit _ _ hf =>
          rcases set htask' with hold | ⟨rfl, hnew⟩
          · exact .kept hold
          · have hprinters : d.floor.printers q = s.db.floor.printers q := by rw [hf]; rfl
            rw [Db.floor_printers, Db.floor_printers] at hprinters
            refine .withdrawn (Option.some.inj hnew).symm rfl hphase hj hs hfit (Db.job_of_floor hf) hq ?_
            show (s.settings.printerEnabled q && (d.printers q).available) = false
            rw [hprinters]
            exact hbusy
  | @slice k task ev _ hphase htask hst =>
      obtain ⟨o, h⟩ := hst.slices
      rw [h] at htask'
      rcases set htask' with hold | ⟨rfl, -⟩
      · exact .kept hold
      · exact .moved rfl hphase htask hst

end BambuBabu
