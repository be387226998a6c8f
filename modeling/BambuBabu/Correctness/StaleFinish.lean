import BambuBabu.Service.Live

/-!
# `Correctness.StaleFinish` — the FINISH of the previous print

A printer keeps showing FINISH after a print, the live client keeps it across partial reports, and it maps to
idle, so the next job may be dispatched. The callback takes any snapshot with FINISH as the end of the job that
owns the slot, if that is STARTING, PRINTING or in ATTENTION. Between the commit of STARTING and the first
report of the new print, one temperature report is enough to complete the job.

* `stale_finish` — that run.
* `Unfinished` — the invariant in runs where no such report meets a waiting owner.
* `no_stale_finish` — **the theorem**: in such runs the old FINISH completes nothing.
-/

namespace BambuBabu

open Storage Runs

/-- When `id` was dispatched to `p` the live client of `p` showed FINISH, and no report has carried another
    `gcode_state` since. -/
def staleFinish (id : JobId) (p : PrinterID) : List Occurrence → Bool
  | [] => false
  | .reported q (some g) :: h => if q = p ∧ g ≠ .finish then false else staleFinish id p h
  | .dispatched k q g :: h => if k = id ∧ q = p then g = .finish else staleFinish id p h
  | _ :: h => staleFinish id p h

/-- The step completes the job. -/
def Completes (id : JobId) (s s' : Service) : Prop :=
  ∃ j j', s.db.job id = some j ∧ s'.db.job id = some j' ∧ j'.status ≠ j.status ∧ j'.status = .completed

/-- No job is completed while a FINISH is stale for it. -/
def NoStaleFinish : Prop :=
  ∀ s e s' id p, service.Reach always s → service.step s e = some s' → staleFinish id p s.history = true →
    ¬ Completes id s s'

/-- A snapshot that carries FINISH is not processed for an owner in STARTING or ATTENTION while that FINISH is
    stale for it. -/
def freshFinish (s : Service) (e : Event) : Prop :=
  ∀ i p c snap id j, e = .callback i → s.pending[i]? = some (p, c) → c.payload = some snap →
    (s.db.printers p).currentJobId = some id → s.db.job id = some j → j.status ∈ [.starting, .attention] →
    snap.gcodeState = .finish → staleFinish id p s.history = false

/-- The print of a job, from the upload to the cleared plate. -/
def Script.print (id : JobId) : List Event :=
  [Script.upload id] ++ Script.slice id ++ Script.dispatch ++ Script.transfer ++ Script.publish ++
    [.handoff 0 (.answered .acknowledged)] ++ Script.reportState .running ++
    [.handoff 0 (.awaited false), .handoff 0 .next] ++ Script.reportState .finish ++ [.plateCleared .p1s]

/-- The second job of a printer is completed by a temperature report, before it was started. -/
theorem stale_finish : ¬ NoStaleFinish := by
  intro hclaim
  obtain ⟨s, hr, hs⟩ := Machine.reach_of_run (M := service) Machine.always_of_anyStep
    (Script.online ++ Script.reportState .idle ++ Script.print "a" ++ [Script.upload "b"] ++
      Script.slice "b" ++ Script.dispatch ++ Script.transfer ++
      [.live .p1s (.message { nozzleTemper := some 25 })])
    (fun s => staleFinish "b" .p1s s.history = true ∧
      (s.db.job "b").map Job.status = some .starting ∧
      (service.step s (.callback 0)).any (fun s' => (s'.db.job "b").map Job.status = some .completed))
    (service_init Script.p1sOnly 0) (by decide +kernel)
  obtain ⟨hstale, hstarting, hrest⟩ := of_decide_eq_true hs
  obtain ⟨s', hs', hcompleted⟩ := (Option.any_eq_true _ _).mp hrest
  obtain ⟨j, hj, hjs⟩ := Option.map_eq_some_iff.mp hstarting
  obtain ⟨j', hj', hjs'⟩ := Option.map_eq_some_iff.mp (of_decide_eq_true hcompleted)
  exact hclaim s (.callback 0) s' "b" .p1s hr hs' hstale ⟨j, j', hj, hj', by rw [hjs, hjs']; decide, hjs'⟩

/-! ## The record -/

variable {s s' : Service} {e : Event} {id : JobId} {p : PrinterID}

/-- A report of the printer keeps a FINISH stale only if it carries nothing else. -/
theorem staleFinish_reported {g : Option GcodeState} {h : List Occurrence}
    (hstale : staleFinish id p (.reported p g :: h) = true) :
    staleFinish id p h = true ∧ ∀ g', g = some g' → g' = .finish := by
  cases g with
  | none => exact ⟨hstale, fun _ hc => (by cases hc)⟩
  | some g =>
      by_cases hg : g = .finish
      · subst hg
        simp only [staleFinish, ne_eq, not_true_eq_false, and_false, if_false] at hstale
        exact ⟨hstale, fun _ hc => (Option.some.inj hc).symm⟩
      · simp [staleFinish, hg] at hstale

/-- The reports of other printers do not count. -/
theorem staleFinish_other {q : PrinterID} {g : Option GcodeState} {h : List Occurrence} (hq : q ≠ p)
    (hstale : staleFinish id p (.reported q g :: h) = true) : staleFinish id p h = true := by
  cases g with
  | none => exact hstale
  | some g => simpa [staleFinish, hq] using hstale

/-- **A FINISH that is stale after a step** was stale before it, or the job has just been dispatched. -/
theorem Trans.stale (ht : Trans s e s') (hstale : staleFinish id p s'.history = true) :
    (staleFinish id p s.history = true ∧ ∀ r, e = .live p (.message r) → r.quiet) ∨
    (e = .tick ∧ (s.live p).gcodeState = .finish ∧ ∃ j j', s.db.job id = some j ∧ j.status = .queued ∧
      s'.db.job id = some j' ∧ j'.status = .uploading) := by
  by_cases hmsg : ∃ r, e = .live p (.message r)
  · obtain ⟨r, rfl⟩ := hmsg
    cases ht with
    | same he => exact absurd rfl (he p (.message r))
    | cancel he => rcases he with he | he <;> cases he
    | live _ hstep =>
        simp only [Service.liveStep] at hstep
        split at hstep <;> cases hstep
        obtain ⟨hold, hquiet⟩ := staleFinish_reported hstale
        exact .inl ⟨hold, fun r' hr => by cases hr; exact hquiet⟩
  · rw [not_exists] at hmsg
    have hnone : ∀ r, e = .live p (.message r) → r.quiet := fun r hr => absurd hr (hmsg r)
    cases ht.history with
    | same h => rw [h] at hstale; exact .inl ⟨hstale, hnone⟩
    | sliced h => rw [h] at hstale; exact .inl ⟨hstale, hnone⟩
    | uploaded _ _ _ _ _ h => rw [h] at hstale; exact .inl ⟨hstale, hnone⟩
    | published _ _ _ _ h => rw [h] at hstale; exact .inl ⟨hstale, hnone⟩
    | processed _ _ _ h => rw [h] at hstale; exact .inl ⟨hstale, hnone⟩
    | @reported q r he h =>
        rw [h] at hstale
        exact .inl ⟨staleFinish_other (fun hq => hmsg r (hq ▸ he)) hstale, hnone⟩
    | @dispatched k q j j' he hj hs _ hj' hs' _ h =>
        rw [h] at hstale
        by_cases hkq : k = id ∧ q = p
        · obtain ⟨rfl, rfl⟩ := hkq
          simp only [staleFinish, and_self, if_true, decide_eq_true_eq] at hstale
          exact .inr ⟨he, hstale, j, j', hj, hs, hj', hs'⟩
        · simp only [staleFinish, if_neg hkq] at hstale
          exact .inl ⟨hstale, hnone⟩

/-- A job for which a FINISH is stale was dispatched to that printer. -/
theorem dispatched_of_stale : ∀ {h : List Occurrence}, staleFinish id p h = true →
    ∃ g, .dispatched id p g ∈ h := by
  intro h
  induction h with
  | nil => exact fun hc => by cases hc
  | cons o h ih =>
      intro hstale
      have htail : staleFinish id p h = true → ∃ g, .dispatched id p g ∈ o :: h := fun hs => by
        obtain ⟨g, hg⟩ := ih hs
        exact ⟨g, List.mem_cons_of_mem _ hg⟩
      cases o with
      | reported q g =>
          by_cases hq : q = p
          · subst hq; exact htail (staleFinish_reported hstale).1
          · exact htail (staleFinish_other hq hstale)
      | dispatched k q g =>
          by_cases hkq : k = id ∧ q = p
          · obtain ⟨rfl, rfl⟩ := hkq
            exact ⟨g, List.mem_cons_self⟩
          · exact htail (by simpa only [staleFinish, if_neg hkq] using hstale)
      | sliced | uploaded | published | processed => exact htail hstale

/-- A job that was dispatched was sent to that printer. -/
def Sent (s : Service) : Prop :=
  ∀ id p g, .dispatched id p g ∈ s.history →
    ∃ j, s.db.job id = some j ∧ j.status ∈ owning ∧ j.assignedPrinter = some p

theorem Sent.step (hS : Sent s) (ht : Trans s e s') : Sent s' := by
  intro id p g hmem
  have hkept : .dispatched id p g ∈ s.history →
      ∃ j, s'.db.job id = some j ∧ j.status ∈ owning ∧ j.assignedPrinter = some p := fun hold => by
    obtain ⟨j, hj, hs, hp⟩ := hS id p g hold
    obtain ⟨j', hj', hs', htk⟩ := ht.moves.sent hj hs
    exact ⟨j', hj', hs', (Job.ticket_assignedPrinter htk).trans hp⟩
  cases ht.history with
  | same h => exact hkept (h ▸ hmem)
  | sliced h | reported _ h => exact hkept (by simpa [h] using hmem)
  | uploaded _ _ _ _ _ h => exact hkept (by simpa [h] using hmem)
  | published _ _ _ _ h => exact hkept (by simpa [h] using hmem)
  | processed _ _ _ h => exact hkept (by simpa [h] using hmem)
  | dispatched _ _ _ _ hj' hs' ha h =>
      rw [h] at hmem
      rcases List.mem_cons.mp hmem with heq | hold
      · cases heq
        exact ⟨_, hj', by rw [hs']; decide, ha⟩
      · exact hkept hold

theorem sent_of_reach {ok : Service → Event → Prop} (h : service.Reach ok s) : Sent s :=
  h.invariant
    (fun s hinit => by
      obtain ⟨cfg, now, rfl⟩ := hinit
      intro id p g hmem
      cases hmem)
    fun _ _ _ hr hS _ hstep => hS.step (trans_of_reach hr hstep)

/-! ## While the FINISH is stale -/

/-- While a FINISH is stale for a job, its printer shows no print, and the job neither starts nor ends. -/
structure Unfinished (s : Service) : Prop where
  calm : ∀ id p, staleFinish id p s.history = true → Calm p s
  confirm : ∀ id p, staleFinish id p s.history = true → ∀ h ∈ s.handoffs, h.id = id → h.pc ≠ .confirm
  jobs : ∀ id p j, staleFinish id p s.history = true → s.db.job id = some j →
    j.status ∉ [.printing, .completed]

/-- A job for which a FINISH is stale neither starts nor ends in a step. -/
theorem Unfinished.moved {j j' : Job} (hU : Unfinished s) (hD : Disciplined s) (hS : Sent s)
    (ht : Trans s e s') (hok : freshFinish s e) (hstale : staleFinish id p s.history = true)
    (hj : s.db.job id = some j) (hj' : s'.db.job id = some j') : j'.status ∉ [.printing, .completed] := by
  have hold := hU.jobs id p j hstale hj
  cases ht.job_trans hj hj' with
  | kept hsame => rw [hsame]; exact hold
  | cancelled _ h | retried _ _ h | quarantined _ _ h | cleared _ _ _ h | dispatched _ _ h | withdrawn _ h =>
      rw [h]; decide
  | @reported n q c snap he hi hc _ hslot h =>
      -- the callback is one of the printer the job was dispatched to
      obtain ⟨g, hmem⟩ := dispatched_of_stale hstale
      obtain ⟨k, hk, -, hp⟩ := hS id p g hmem
      cases Option.some.inj (hj.symm.trans hk)
      have hq : q = p := Option.some.inj ((hD.floor.owner_row hslot hj).2.symm.trans hp)
      subst hq
      have hprint : snap.status ≠ .printing :=
        (hU.calm id q hstale).pending c snap (List.mem_of_getElem? hi) hc
      intro hst
      rcases Snapshot.outcome_started (h ▸ hst) with hbefore | ⟨hwait, hshows⟩
      · exact hold hbefore
      · have hfresh := hok n q c snap id j he hi hc hslot hj hwait (hshows.resolve_left hprint)
        rw [hstale] at hfresh
        cases hfresh
  | sliced _ _ hm => exact hm.not_started
  | handed _ hh hid hm =>
      intro hst
      exact hU.confirm id p hstale _ (List.mem_of_getElem? hh) hid (hm.started hst)

/-- **Every step keeps the invariant**, if no stale FINISH meets a waiting owner. -/
theorem Unfinished.step (hU : Unfinished s) (hD : Disciplined s) (hS : Sent s) (hL : Showing s)
    (ht : Trans s e s') (hok : freshFinish s e) : Unfinished s' where
  calm id p hstale := by
    rcases ht.stale hstale with ⟨hold, hquiet⟩ | ⟨he, hfin, -⟩
    · exact ht.calm (hU.calm id p hold) hquiet
    · exact ht.calm (hL.finish p hfin) fun r hr => by rw [he] at hr; cases hr
  confirm id p hstale h' hh' hid hpc := by
    cases ht.worker hh' with
    | stayed hh =>
        rcases ht.stale hstale with ⟨hold, -⟩ | ⟨-, -, j, -, hj, hs, -⟩
        · exact hU.confirm id p hold h' hh hid hpc
        · -- the worker's job was queued
          obtain ⟨k, hk, hown, -⟩ := hD.sent h' hh
          rw [hid, hj] at hk
          cases hk
          rw [hs] at hown
          exact absurd hown (by decide)
    | dispatched _ hbegin => rw [hpc] at hbegin; cases hbegin
    | @advanced i h ev he hh hid' _ hadv =>
        rw [hpc] at hadv
        cases hadv with
        | goto hloc => exact hloc.ne_confirm
        | started _ hstarted =>
            rcases ht.stale hstale with ⟨hold, -⟩ | ⟨htick, -⟩
            · obtain ⟨g, hmem⟩ := dispatched_of_stale hold
              obtain ⟨j, hj, -, hp⟩ := hS id p g hmem
              obtain ⟨k, hk, -, hkp⟩ := hD.sent h (List.mem_of_getElem? hh)
              rw [← hid', hid, hj] at hk
              cases hk
              rw [hp] at hkp
              cases hkp
              -- a calm client shows nothing that the wait would take for a start
              exact (hU.calm id _ hold).live.startWait hstarted
            · rw [he] at htick; cases htick
  jobs id p j' hstale hj' := by
    rcases ht.stale hstale with ⟨hold, -⟩ | ⟨-, -, j, j₁, hj, hs, hj₁, hs₁⟩
    · obtain ⟨g, hmem⟩ := dispatched_of_stale hold
      obtain ⟨j, hj, -⟩ := hS id p g hmem
      exact hU.moved hD hS ht hok hold hj hj'
    · cases Option.some.inj (hj₁.symm.trans hj')
      rw [hs₁]
      decide

theorem unfinished_of_reach (h : service.Reach freshFinish s) : Unfinished s :=
  h.invariant
    (fun s hinit => by
      obtain ⟨cfg, now, rfl⟩ := hinit
      exact ⟨fun _ _ hc => (by cases hc), fun _ _ hc => (by cases hc), fun _ _ _ hc => (by cases hc)⟩)
    fun _ _ _ hr hU hok hstep =>
      hU.step (disciplined_of_reach hr) (sent_of_reach hr) (showing_of_reach hr) (trans_of_reach hr hstep) hok

/-- **A stale FINISH completes nothing**, in every run where no report repeats it for a waiting owner. -/
theorem no_stale_finish (hr : service.Reach freshFinish s) (hok : freshFinish s e)
    (hstep : service.step s e = some s') (hstale : staleFinish id p s.history = true) :
    ¬ Completes id s s' := by
  rintro ⟨j, j', hj, hj', -, hcompleted⟩
  have hnot := (unfinished_of_reach hr).moved (disciplined_of_reach hr) (sent_of_reach hr)
    (trans_of_reach hr hstep) hok hstale hj hj'
  rw [hcompleted] at hnot
  exact hnot (by decide)

/-- The check that no report with FINISH meets an owner for which it is stale. -/
def noStaleReport (s : Service) (e : Event) : Bool :=
  match e with
  | .callback i => match s.pending[i]? with
    | some (p, c) => match c.payload with
      | some snap => match (s.db.printers p).currentJobId with
        | some id => snap.gcodeState ≠ .finish || !staleFinish id p s.history
        | none => true
      | none => true
    | none => true
  | _ => true

theorem noStaleReport_ok (s : Service) (e : Event) (h : noStaleReport s e = true) : freshFinish s e := by
  rintro i p c snap id j rfl hi hc hslot - - hfin
  simpa [noStaleReport, hi, hc, hslot, hfin] using h

/-- The second job fails because the printer goes offline, while the FINISH of the first is stale. -/
theorem no_stale_finish_failed : ∃ s s' : Service, staleFinish "b" .p1s s.history = true ∧
    (s.db.job "b").map Job.status = some .starting ∧ (s'.db.job "b").map Job.status = some .failed ∧
    ¬ Completes "b" s s' := by
  obtain ⟨s, hr, hs⟩ := Machine.reach_of_run (M := service) noStaleReport_ok
    (Script.online ++ Script.reportState .idle ++ Script.print "a" ++ [Script.upload "b"] ++
      Script.slice "b" ++ Script.dispatch ++ Script.transfer ++ [.live .p1s .onDisconnect, .handoff 0 .next])
    (fun s => staleFinish "b" .p1s s.history = true ∧
      (s.db.job "b").map Job.status = some .starting ∧
      (service.step s (.handoff 0 .next)).any (fun s' => (s'.db.job "b").map Job.status = some .failed))
    (service_init Script.p1sOnly 0) (by decide +kernel)
  obtain ⟨hstale, hstarting, hrest⟩ := of_decide_eq_true hs
  obtain ⟨s', hs', hfailed⟩ := (Option.any_eq_true _ _).mp hrest
  exact ⟨s, s', hstale, hstarting, of_decide_eq_true hfailed,
    no_stale_finish hr (noStaleReport_ok s _ rfl) hs' hstale⟩

end BambuBabu
