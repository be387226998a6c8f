import BambuBabu.Correctness.RestartRecovery
import BambuBabu.Service.Requests

/-!
# `Correctness.Progress` — does a completed job stay at 100 percent?

The FINISH handler stores 100 percent with COMPLETED. But the job keeps the slot until its plate is cleared,
and the branch of the status callback that stores the progress of a running print writes it to whichever job
owns the slot. A RUNNING report that arrives in between overwrites the 100.

* `progress_lost` — that run.
* `showsFull` — the condition: a snapshot that shows a print shows 100 percent while the owner is COMPLETED.
* `completed_full` — **the theorem**: in every run whose steps meet the condition all completed jobs are at
  100 percent, and the first step that does not meet it breaks that.
-/

namespace BambuBabu

open Storage Runs

/-- Every completed job is at 100 percent. -/
def Full (d : Db) : Prop := ∀ id j, d.job id = some j → j.status = .completed → j.printProgress = 100

/-- A callback that is about to process a snapshot of a print, for a slot that a completed job still owns, has
    100 percent in it. -/
def showsFull (s : Service) (e : Event) : Prop :=
  ∀ i p c snap id, e = .callback i → s.pending[i]? = some (p, c) → c.payload = some snap →
    snap.status = .printing → (s.db.printers p).currentJobId = some id →
    s.db.statusOf id = some .completed → clampProgress snap.progress = 100

variable {s s' : Service} {e : Event} {p : PrinterID} {snap : Snapshot} {d d' : Db} {now : Time}

/-! ## The moves that concern no progress -/

/-- A routine move leaves a completed job as it found it. -/
theorem Move.full {a : Act} {f f' : Floor} {id : JobId} {j' : Job} (hm : Move a f f') (ha : a.routine = true)
    (hj' : f'.job id = some j') (hs : j'.status = .completed) :
    ∃ j, f.job id = some j ∧ j.status = .completed ∧ j'.printProgress = j.printProgress := by
  by_cases hid : a.target = some id
  · cases hm with
    | submit _ hpending =>
        cases Option.some.inj hid
        cases Option.some.inj ((Floor.job_setJob_self ..).symm.trans hj')
        rw [hs] at hpending
        cases hpending
    | swap _ _ hnew =>
        cases Option.some.inj hid
        cases Option.some.inj ((Floor.job_setJob_self ..).symm.trans hj')
        have hs : _ = JobStatus.completed := hs
        subst hs
        exact absurd hnew (by decide)
    | plan | queue | dispatch | confirm =>
        cases Option.some.inj hid
        cases Option.some.inj ((Floor.job_setJob_self ..).symm.trans hj')
        cases hs
    | settle =>
        cases Option.some.inj hid
        cases Option.some.inj ((Floor.job_setJob_self ..).symm.trans hj')
        have hs : _ = JobStatus.completed := hs
        subst hs
        cases ha
    | progress => cases ha
    | @clearOwned _ _ j _ _ _ _ _ hj _ =>
        cases Option.some.inj hid
        cases Option.some.inj ((Floor.job_setJob_self ..).symm.trans hj')
        rw [Job.inspected_status] at hs
        have hne : j.status ≠ .attention := by
          intro hc
          rw [if_pos hc] at hs
          cases hs
        rw [if_neg hne] at hs
        refine ⟨j, hj, hs, ?_⟩
        unfold Job.inspected
        rw [if_neg hne]
    | block | restore | release | telemetry | clearEmpty => cases hid
  · exact ⟨j', (hm.job_frame hid).symm.trans hj', hs, rfl⟩

/-- Recovery repairs completed jobs. -/
theorem reconciled_full (hf : d'.floor = d.floor.reconciled now) : Full d' := by
  intro id j' hj' hs
  rw [← Db.floor_job, hf, Floor.reconciled_job] at hj'
  obtain ⟨j, -, rfl⟩ := Option.map_eq_some_iff.mp hj'
  have hdone : j.status = .completed := by
    rw [Job.reconciled_status] at hs
    revert hs
    cases j.status <;> simp [JobStatus.reconciled]
  simp [Job.reconciled, hdone]

/-! ## The callback -/

/-- A report that completes no job, for a job that is completed, stores the progress it shows. -/
theorem Snapshot.Leaves.progress {job j' : Job} (h : snap.Leaves job j') (hs : j'.status = .completed) :
    j'.printProgress = 100 ∨ (job.status = .completed ∧ j'.printProgress = snap.progressed job.printProgress) := by
  rcases h with ⟨-, hst, hv⟩ | ⟨new, ps, -, hst, hv⟩
  · rw [hs] at hst
    refine .inr ⟨?_, hv⟩
    have hended : snap.confirmed job.status = job.status := snap.confirmed_ended (by rw [← hst]; decide)
    rw [← hended, ← hst]
  · exact .inl (hv (hst.symm.trans hs))

/-- **A callback keeps completed jobs at 100 percent** exactly if a print it shows is at 100 percent. -/
theorem onStatusUpdate_full {r : Except Exc (Option Notification)} (hF : Full d)
    (h : (onStatusUpdate now p snap).commit d = (r, d')) :
    Full d' ↔ (snap.status = .printing → ∀ id, (d.printers p).currentJobId = some id →
      d.statusOf id = some .completed → clampProgress snap.progress = 100) := by
  constructor
  · intro hF' hprint id hslot hstatus
    obtain ⟨job, hj, hs⟩ := Option.map_eq_some_iff.mp hstatus
    obtain ⟨-, -, j', hj', hleaves⟩ := onStatusUpdate_owned hslot hj h
    -- nothing settles a completed job, so the progress of the report is stored
    have hconf : snap.confirmed job.status = .completed := by
      rw [hs]
      exact if_neg (by simp)
    have hnone : snap.settled (snap.confirmed job.status) = none := by
      rw [hconf]
      simp [Snapshot.settled, awaitingReport]
    rcases hleaves with ⟨-, hst, hv⟩ | ⟨new, ps, hset, -⟩
    · rw [← hF' id j' hj' (hst.trans hconf), hv, Snapshot.progressed, if_pos hprint]
    · rw [hnone] at hset
      cases hset
  · intro hok id j' hj' hs
    by_cases hown : (d.printers p).currentJobId = some id ∧ d.job id ≠ none
    · obtain ⟨hslot, hsome⟩ := hown
      obtain ⟨job, hj⟩ := Option.ne_none_iff_exists'.mp hsome
      obtain ⟨-, -, j'', hj'', hleaves⟩ := onStatusUpdate_owned hslot hj h
      cases Option.some.inj (hj'.symm.trans hj'')
      rcases hleaves.progress hs with hfull | ⟨hdone, hv⟩
      · exact hfull
      · rw [hv, Snapshot.progressed]
        split
        · next hprint => exact hok hprint id hslot (by rw [Db.statusOf_eq hj, hdone])
        · exact hF id job hj hdone
    · have hno : (d.printers p).currentJobId ≠ some id ∨ d.job id = none := by
        by_contra hc
        push Not at hc
        exact hown hc
      have hkept : d'.floor.job id = d.floor.job id := (onStatusUpdate_commit h).1.job_frame hno
      exact hF id j' (hkept.symm.trans hj') hs

/-! ## Steps and runs -/

/-- A step whose request runs no callback processes no snapshot. -/
theorem callback_full (hF : Full s.db) {i : Nat} (h : service.step s (.callback i) = some s') :
    Full s'.db ↔ showsFull s (.callback i) := by
  have hdb := Service.step_db h
  change s'.db = s.stored (s.pending[i]?.bind fun c => s.callbackRequest c.1 c.2) at hdb
  -- a callback that runs no `_on_status_update` stores no progress
  have hquiet : s'.db.floor = s.db.floor → (∀ p c, s.pending[i]? = some (p, c) → c.payload = none) →
      (Full s'.db ↔ showsFull s (.callback i)) := by
    intro hfloor hpay
    refine iff_of_true ?_ ?_
    · intro id j hj
      rw [← Db.floor_job, hfloor] at hj
      exact hF id j hj
    · rintro _ p c snap id ⟨⟩ hi hc
      rw [hpay p c hi] at hc
      cases hc
  have hloud : ∀ {p c snap}, s.pending[i]? = some (p, c) → c.payload = some snap →
      s'.db = ((onStatusUpdate s.clock p snap).commit s.db).2 → (Full s'.db ↔ showsFull s (.callback i)) := by
    intro p c snap hi hc hd
    rw [hd]
    refine (onStatusUpdate_full (p := p) hF rfl).trans ⟨?_, ?_⟩
    · rintro hok _ p' c' snap' id ⟨⟩ hi' hc'
      cases hi.symm.trans hi'
      cases hc.symm.trans hc'
      intro hprint hslot hstatus
      exact hok hprint id hslot hstatus
    · intro hok hprint id hslot hstatus
      exact hok i p c snap id rfl hi hc hprint hslot hstatus
  cases hi : s.pending[i]? with
  | none =>
      rw [hi] at hdb
      exact hquiet (by rw [hdb]; rfl) fun p c hc => by rw [hi] at hc; cases hc
  | some pc =>
      obtain ⟨p, c⟩ := pc
      rw [hi] at hdb
      cases c with
      | report snap => exact hloud hi rfl (hdb.trans (Service.stored_void rfl))
      | disconnected snap => exact hloud hi rfl (hdb.trans (Service.stored_void rfl))
      | acknowledged snap => exact hloud hi rfl (hdb.trans (Service.stored_void rfl))
      | acknowledging =>
          refine hquiet (by rw [hdb]; rfl) fun q c hc => ?_
          cases hi.symm.trans hc
          rfl
      | acknowledgeLog =>
          refine hquiet ?_ fun q c hc => ?_
          · rw [hdb]
            exact logAcknowledged_commit (r := ((logAcknowledged s.clock p).commit s.db).1) rfl
          · cases hi.symm.trans hc
            rfl

/-- **A step keeps completed jobs at 100 percent** exactly if it meets the condition. -/
theorem full_step (hr : service.Reach always s) (hF : Full s.db) (h : service.step s e = some s') :
    Full s'.db ↔ showsFull s e := by
  by_cases hcall : ∃ i, e = .callback i
  · obtain ⟨i, rfl⟩ := hcall
    exact callback_full hF h
  · have hok : showsFull s e := by
      rintro i p c snap id rfl
      exact absurd ⟨i, rfl⟩ hcall
    refine iff_of_true ?_ hok
    by_cases hrec : e = .reconcile
    · subst hrec
      exact reconciled_full (reconcile_floor (disciplined_of_reach hr).floor h)
    · intro id j' hj' hs
      rcases (trans_of_reach hr h).routine hrec fun i hi => hcall ⟨i, hi⟩ with hsame | ⟨a, ha, hm⟩
      · rw [← Db.floor_job, hsame] at hj'
        exact hF id j' hj' hs
      · obtain ⟨j, hj, hst, hv⟩ := hm.full ha hj' hs
        exact hv.trans (hF id j hj hst)

/-- **A completed job stays at 100 percent**, exactly as long as no print that is shown while it owns the slot
    is below that. -/
theorem completed_full (h : service.Reach showsFull s) :
    Full s.db ∧ ∀ e s', service.step s e = some s' → (Full s'.db ↔ showsFull s e) := by
  have hF : Full s.db := by
    refine Machine.Reach.invariant (I := fun s => Full s.db) ?_ ?_ h
    · rintro s ⟨cfg, now, rfl⟩ id j hj
      cases hj
    · intro s e s' hr hF hok hs
      exact (full_step hr.weaken hF hs).mpr hok
  exact ⟨hF, fun e s' hs => full_step h.weaken hF hs⟩

/-- The check that a callback shows no print below 100 percent to a completed job. -/
def showsFullCheck (s : Service) : Event → Bool
  | .callback i => s.pending[i]?.all fun pc => pc.2.payload.all fun snap =>
      decide (snap.status ≠ .printing) || (s.db.printers pc.1).currentJobId.all fun id =>
        decide (s.db.statusOf id ≠ some .completed) || decide (clampProgress snap.progress = 100)
  | _ => true

theorem showsFull_of_check (s : Service) (e : Event) (h : showsFullCheck s e = true) : showsFull s e := by
  rintro i p c snap id rfl hi hc hprint hslot hstatus
  simpa [showsFullCheck, hi, hc, hprint, hslot, hstatus] using h

/-- A print is started, confirmed and finished. -/
def finishedPrint : List Event :=
  Script.online ++ Script.reportState .idle ++ [Script.upload "a"] ++ Script.slice "a" ++ Script.dispatch ++
    Script.transfer ++ Script.publish ++ [.handoff 0 (.answered .acknowledged)] ++
    Script.reportState .running ++ [.handoff 0 (.awaited false), .handoff 0 .next] ++
    Script.reportState .finish

theorem completed_full_print : ∃ s, service.Reach showsFull s ∧ s.db.statusOf "a" = some .completed ∧ Full s.db := by
  obtain ⟨s, hr, hs⟩ := Machine.reach_of_run (M := service) showsFull_of_check finishedPrint
    (fun s => decide (s.db.statusOf "a" = some .completed)) (service_init Script.p1sOnly 0) (by decide +kernel)
  exact ⟨s, hr, of_decide_eq_true hs, (completed_full hr).1⟩

/-- **The defect**: the next print on the printer, started at its panel before the plate is cleared, moves the
    completed job back to 50 percent. -/
theorem progress_lost : ¬ ∀ s, service.Reach always s → Full s.db := by
  intro hclaim
  obtain ⟨s, hr, hs⟩ := Machine.reach_of_run (M := service) Machine.always_of_anyStep
    (finishedPrint ++ Script.report { gcodeState := some .running, mcPercent := some 50 })
    (fun s => (s.db.job "a").any fun j : Job => decide (j.status = .completed ∧ j.printProgress = 50))
    (service_init Script.p1sOnly 0) (by decide +kernel)
  obtain ⟨j, hj, hp⟩ := (Option.any_eq_true _ _).mp hs
  obtain ⟨hdone, hfifty⟩ := of_decide_eq_true hp
  have hfull := hclaim s hr "a" j hj hdone
  rw [hfifty] at hfull
  cases hfull

end BambuBabu
