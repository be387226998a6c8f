import BambuBabu.Api.Jobs
import BambuBabu.Api.Printers
import BambuBabu.Core.QueueProcessor
import BambuBabu.Floor.Moves

/-!
# `Floor.Commits` — every transaction makes moves

One lemma per transaction of the service: executed atomically, it either leaves the floor alone or makes the
moves named, and its result says which. The lemmas are the only place where the transactions are unfolded;
everything above reasons about `Move`s.

Where a transaction writes a printer row without looking at the slot, the lemma has the ownership it relies
on as a hypothesis.
-/

namespace BambuBabu

open Storage

variable {now : Time} {d d' : Db} {id : JobId} {j : Job} {p : PrinterID} {s : Settings}

/-! ## One compare-and-swap -/

/-- A swap that returned is a row change on the floor. -/
theorem transition_floor {loaded : Option Job} {expected : List JobStatus} {new : JobStatus}
    {err rej : Option String} {a : Job}
    (h : (transitionJobStatus now loaded id expected new err rej).run d = (.ok a, d')) :
    ∃ j, d.job id = some j ∧ j.status ∈ expected ∧ new ∈ allowedJobTransitions j.status ∧
      a = j.transitioned now new err rej ∧ d' = d.setJob id a ∧ d'.floor = d.floor.setJob id a := by
  obtain ⟨j, hj, hs, hedge, ha, rfl⟩ := transition_ok h
  exact ⟨j, hj, hs, hedge, ha, rfl, Db.floor_setJob hj a⟩

/-- A swap out of one status that returned. -/
theorem transition_floor_one {loaded : Option Job} {old new : JobStatus} {err rej : Option String} {a : Job}
    (h : (transitionJobStatus now loaded id [old] new err rej).run d = (.ok a, d')) :
    ∃ j, d.job id = some j ∧ j.status = old ∧ new ∈ allowedJobTransitions old ∧
      a = j.transitioned now new err rej ∧ d' = d.setJob id a ∧ d'.floor = d.floor.setJob id a := by
  obtain ⟨j, hj, hs, hedge, ha, hd, hf⟩ := transition_floor h
  rw [List.mem_singleton] at hs
  exact ⟨j, hj, hs, hs ▸ hedge, ha, hd, hf⟩

/-! ## The endpoints for jobs -/

/-- An upload inserts a PENDING row or leaves everything as it was. -/
theorem commitUpload_commit {form : UploadForm} {r : Except Exc Unit}
    (h : (commitUpload s now id form).commit d = (r, d')) :
    d' = d ∨ Move (.submit id) d.floor d'.floor := by
  obtain ⟨a, rfl, hrun⟩ | ⟨e, d₁, rfl, hd, hrun⟩ := Txn.commit_cases h
  · refine .inr ?_
    cases hj : d.job id with
    | some j =>
        obtain ⟨d₁, htaken⟩ := commitUpload_taken hj
        rw [htaken] at hrun
        cases hrun
    | none =>
        rw [commitUpload_new hj] at hrun
        cases hrun
        rw [Db.floor_insertLog, Db.floor_insertJob hj]
        exact .submit hj rfl
  · exact .inl hd

/-- A cancellation swaps a cancellable job, or leaves everything as it was. -/
theorem cancelJob_commit {r : Except Exc String} (h : (cancelJob now id).commit d = (r, d')) :
    d' = d ∨ ∃ j, d.job id = some j ∧ j.status ∈ cancellable ∧
      Move (.swap id j.status .cancelled) d.floor d'.floor := by
  obtain ⟨a, rfl, hrun⟩ | ⟨e, d₁, rfl, hd, hrun⟩ := Txn.commit_cases h
  · refine .inr ?_
    unfold cancelJob at hrun
    rw [Txn.run_bind_of_ok getJob_run] at hrun
    cases hj : d.job id with
    | none => rw [hj] at hrun; cases hrun
    | some j =>
        simp only [hj] at hrun
        obtain ⟨a₁, d₁, hswap, hrest⟩ := Txn.run_bind_ok hrun
        simp only [Txn.run_bind, addLog_run, Txn.run_pure, Prod.mk.injEq] at hrest
        rw [Txn.run_tryCatch] at hswap
        rcases ht : (transitionJobStatus now (some j) id cancellable .cancelled none none).run d
          with ⟨e | b, d₂⟩
        · obtain ⟨m, rfl⟩ := transition_raises ht
          rw [ht] at hswap
          simp at hswap
        · rw [ht] at hswap
          cases hswap
          obtain ⟨i, hi, hs, hedge, rfl, -, hf⟩ := transition_floor ht
          refine ⟨i, hj.symm.trans hi ▸ rfl, hs, ?_⟩
          rw [← hrest.2, Db.floor_insertLog, hf]
          exact .swap hi hedge (by decide)
  · exact .inl hd

/-- The offline tool does what a cancellation does. -/
theorem cancelPendingJob_commit {r : Except Exc Bool} (h : (cancelPendingJob now id).commit d = (r, d')) :
    d' = d ∨ ∃ j, d.job id = some j ∧ j.status ∈ cancellable ∧
      Move (.swap id j.status .cancelled) d.floor d'.floor := by
  obtain ⟨a, rfl, hrun⟩ | ⟨e, d₁, rfl, hd, hrun⟩ := Txn.commit_cases h
  · unfold cancelPendingJob at hrun
    rw [Txn.run_bind_of_ok getJob_run] at hrun
    cases hj : d.job id with
    | none => rw [hj] at hrun; cases hrun; exact .inl rfl
    | some j =>
        simp only [hj, Txn.run_ite] at hrun
        split at hrun
        · cases hrun; exact .inl rfl
        · next hs =>
            obtain ⟨a₁, d₁, hswap, hrest⟩ := Txn.run_bind_ok hrun
            simp only [Txn.run_bind, addLog_run, Txn.run_pure, Prod.mk.injEq] at hrest
            obtain ⟨i, hi, hst, hedge, rfl, -, hf⟩ := transition_floor_one hswap
            refine .inr ⟨i, hj.symm.trans hi ▸ rfl, hst ▸ not_not.mp hs, ?_⟩
            rw [← hrest.2, Db.floor_insertLog, hf]
            exact .swap hi (hst ▸ hedge) (by decide)
  · exact .inl hd

/-! ## The slicing worker -/

/-- `_slice_pipeline` starts on a PENDING job, or loses its swap. -/
theorem startAnalysis_commit {r : Except Exc String} (h : (startAnalysis now id).commit d = (r, d')) :
    (∃ m, r = .error (.jobTransitionError m) ∧ d' = d ∧ ∀ j, d.job id = some j → j.status ≠ .pending) ∨
      ∃ j, d.job id = some j ∧ r = .ok j.stlPath ∧ j.status = .pending ∧
        Move (.swap id .pending .analysing) d.floor d'.floor := by
  obtain ⟨a, rfl, hrun⟩ | ⟨e, d₁, rfl, hd, hrun⟩ := Txn.commit_cases h
  · obtain ⟨a₁, d₁, hswap, hrest⟩ := Txn.run_bind_ok hrun
    simp only [Txn.run_bind, addLog_run, Txn.run_pure, Prod.mk.injEq, Except.ok.injEq] at hrest
    obtain ⟨i, hi, hs, hedge, rfl, -, hf⟩ := transition_floor_one hswap
    refine .inr ⟨i, hi, by rw [← hrest.1]; rfl, hs, ?_⟩
    rw [← hrest.2, Db.floor_insertLog, hf, ← hs]
    exact .swap hi (hs ▸ hedge) (by decide)
  · rcases Txn.run_bind_error hrun with hswap | ⟨a₁, d₂, -, hrest⟩
    · obtain ⟨m, rfl⟩ := transition_raises hswap
      refine .inl ⟨m, rfl, hd, fun j hj hs => ?_⟩
      rw [transition_run now none [.pending] .analysing none none (by decide) hj (by simp [hs])] at hswap
      cases hswap
    · cases hrest

/-- What the plan of an analysed job does: nothing (on any other job), a rejection, or the step to SLICING for the chosen
    printer. -/
theorem planSlice_commit {analysis : Analysis} {choice : Option PrinterID × Option String}
    {r : Except Exc Bool} (h : (planSlice now id analysis choice).commit d = (r, d')) :
    (r = .ok false ∧ d' = d ∧ ∀ j, d.job id = some j → j.status ≠ .analysing) ∨
    (r = .ok false ∧ Move (.swap id .analysing .rejected) d.floor d'.floor) ∨
    (choice = (none, none) ∧ d' = d) ∨
    ∃ p j, choice = (some p, none) ∧ r = .ok true ∧ d.job id = some j ∧ j.status = .analysing ∧
      d'.floor = d.floor.setJob id ((j.analysed analysis p).transitioned now .slicing none none) := by
  cases hj : d.job id with
  | none =>
      rw [Txn.commit_of_kept (a := false) (by simp [planSlice, hj])] at h
      cases h
      exact .inl ⟨rfl, rfl, fun _ hc => by cases hc⟩
  | some j =>
      by_cases hs : j.status = .analysing
      · rcases choice with ⟨p, _ | rejection⟩
        · cases p with
          | none =>
              have hrun : (planSlice now id analysis (none, none)).run d
                  = (.error (.runtimeError "Printer selection returned no printer or rejection"), d) := by
                simp [planSlice, hj, hs]
              rw [Txn.commit_of_error hrun] at h
              cases h
              exact .inr (.inr (.inl ⟨rfl, rfl⟩))
          | some p =>
              -- the analysis is stored first, so the swap finds the row with it
              have hupd : (d.setJob id (j.analysed analysis p)).job id = some (j.analysed analysis p) := by
                simp [hj]
              have hswap := transition_run now (some (j.analysed analysis p)) [.analysing] .slicing none none
                (by decide) hupd (by simp [hs])
              have hrun : (planSlice now id analysis (some p, none)).run d
                  = (.ok true, ((d.setJob id (j.analysed analysis p)).setJob id
                      ((j.analysed analysis p).transitioned now .slicing none none)).insertLog
                      { timestamp := now, level := .info, event := "ANALYSIS_DONE",
                        message := s!"Score={fixedPoint 1 analysis.complexityScore}; preferred={p.value}",
                        jobId := some id, printerId := none, extra := some analysis }) := by
                simp [planSlice, hj, hs, updateJobAnalysis_run hj, hswap]
              rw [Txn.commit_of_ok hrun] at h
              cases h
              refine .inr (.inr (.inr ⟨p, j, rfl, rfl, rfl, hs, ?_⟩))
              rw [Db.floor_insertLog, Db.setJob_setJob, Db.floor_setJob hj]
        · have hswap := transition_run now (some j) [.analysing] .rejected none (some rejection) (by decide) hj
            (by simp [hs])
          have hrun : (planSlice now id analysis (p, some rejection)).run d
              = (.ok false, (d.setJob id (j.transitioned now .rejected none (some rejection))).insertLog
                  { timestamp := now, level := .warning, event := "JOB_REJECTED", message := rejection,
                    jobId := some id, printerId := none, extra := none }) := by
            simp [planSlice, hj, hs, hswap]
          rw [Txn.commit_of_ok hrun] at h
          cases h
          refine .inr (.inl ⟨rfl, ?_⟩)
          rw [Db.floor_insertLog, Db.floor_setJob hj, ← hs]
          exact .swap hj (by rw [hs]; decide) (by decide)
      · rw [Txn.commit_of_kept (a := false) (by simp [planSlice, hj, hs])] at h
        cases h
        exact .inl ⟨rfl, rfl, fun _ hc => Option.some.inj hc ▸ hs⟩

/-- The row of a job that goes back to the queue with a slice made for printer `p`. -/
def Job.queuedFor (j : Job) (now : Time) (p : Option PrinterID) (path : String) (est : Option Nat) : Job :=
  { j with assignedPrinter := p, slicedPath := some path, estimatedMinutes := est }.transitioned now
    .queued none none

/-- Storing a slice queues the job it was made for, if that is still being sliced. -/
theorem storeSlice_commit {path : String} {est : Option Nat} {r : Except Exc Unit}
    (h : (storeSlice now id p path est).commit d = (r, d')) :
    r = .ok () ∧ ((d' = d ∧ ∀ j, d.job id = some j → j.status ≠ .slicing) ∨
      ∃ j, d.job id = some j ∧ j.status = .slicing ∧
      d'.floor = d.floor.setJob id (j.queuedFor now j.assignedPrinter path est)) := by
  cases hj : d.job id with
  | none =>
      rw [Txn.commit_of_kept (a := ()) (by simp [storeSlice, hj])] at h
      cases h
      exact ⟨rfl, .inl ⟨rfl, fun _ hc => by cases hc⟩⟩
  | some j =>
      by_cases hs : j.status = .slicing
      · let new : Job := { j with slicedPath := some path, estimatedMinutes := est }
        have hupd : (d.setJob id new).job id = some new := by simp [hj]
        have hswap := transition_run now (some new) [.slicing] .queued none none (by decide) hupd (by simp [new, hs])
        have hrun : ∃ e, (storeSlice now id p path est).run d
            = (.ok (), ((d.setJob id new).setJob id (new.transitioned now .queued none none)).insertLog e) :=
          ⟨_, by
            unfold storeSlice
            rw [Txn.run_bind_of_ok getJob_run, hj]
            simp only [hs, ne_eq, not_true_eq_false, if_false]
            rw [Txn.run_bind_of_ok (updateJobSliced_run hj), Txn.run_bind_of_ok hswap]
            rfl⟩
        obtain ⟨e, hrun⟩ := hrun
        rw [Txn.commit_of_ok hrun] at h
        cases h
        refine ⟨rfl, .inr ⟨j, rfl, hs, ?_⟩⟩
        rw [Db.floor_insertLog, Db.setJob_setJob, Db.floor_setJob hj]
        rfl
      · rw [Txn.commit_of_kept (a := ()) (by simp [storeSlice, hj, hs])] at h
        cases h
        exact ⟨rfl, .inl ⟨rfl, fun _ hc => Option.some.inj hc ▸ hs⟩⟩

/-- The same for a slice made for the fallback printer, which the job is reassigned to. -/
theorem storeReslice_commit {path : String} {est : Option Nat} {r : Except Exc Unit}
    (h : (storeReslice now id p path est).commit d = (r, d')) :
    r = .ok () ∧ ((d' = d ∧ ∀ j, d.job id = some j → j.status ≠ .slicing) ∨
      ∃ j, d.job id = some j ∧ j.status = .slicing ∧
      d'.floor = d.floor.setJob id (j.queuedFor now (some p) path est)) := by
  cases hj : d.job id with
  | none =>
      rw [Txn.commit_of_kept (a := ()) (by simp [storeReslice, hj])] at h
      cases h
      exact ⟨rfl, .inl ⟨rfl, fun _ hc => by cases hc⟩⟩
  | some j =>
      by_cases hs : j.status = .slicing
      · let assigned : Job := { j with assignedPrinter := some p }
        let new : Job := { assigned with slicedPath := some path, estimatedMinutes := est }
        -- three writes to one row, each of which finds it as the one before has left it
        have hasg : (d.setJob id assigned).job id = some assigned := by simp [hj]
        have hupd : ((d.setJob id assigned).setJob id new).job id = some new := by simp [hj]
        have hswap := transition_run now (some new) [.slicing] .queued none none (by decide) hupd
          (by simp [new, assigned, hs])
        have hrun : (storeReslice now id p path est).run d
            = (.ok (), (((d.setJob id assigned).setJob id new).setJob id
                (new.transitioned now .queued none none)).insertLog
                { timestamp := now, level := .info, event := "JOB_REROUTED",
                  message := s!"Re-sliced for available {p.value}",
                  jobId := some id, printerId := some p.value, extra := none }) := by
          unfold storeReslice
          rw [Txn.run_bind_of_ok getJob_run, hj]
          simp only [hs, ne_eq, not_true_eq_false, if_false]
          rw [Txn.run_bind_of_ok (updateJobAssignment_run hj), Txn.run_bind_of_ok (updateJobSliced_run hasg),
            Txn.run_bind_of_ok hswap]
          rfl
        rw [Txn.commit_of_ok hrun] at h
        cases h
        refine ⟨rfl, .inr ⟨j, rfl, hs, ?_⟩⟩
        rw [Db.floor_insertLog, Db.setJob_setJob, Db.setJob_setJob, Db.floor_setJob hj]
        rfl
      · rw [Txn.commit_of_kept (a := ()) (by simp [storeReslice, hj, hs])] at h
        cases h
        exact ⟨rfl, .inl ⟨rfl, fun _ hc => Option.some.inj hc ▸ hs⟩⟩

/-- Queueing is a move. -/
theorem Move.of_analysed {f f' : Floor} {a : Analysis} {q : PrinterID} (hj : f.job id = some j)
    (hs : j.status = .analysing)
    (hf : f' = f.setJob id ((j.analysed a q).transitioned now .slicing none none)) : Move (.plan id) f f' := by
  subst hf; exact .plan hj hs

theorem Move.of_queuedFor {f f' : Floor} {path : String} {est : Option Nat} {q : Option PrinterID}
    (hj : f.job id = some j) (hs : j.status = .slicing)
    (hf : f' = f.setJob id (j.queuedFor now q path est)) : Move (.queue id) f f' := by
  subst hf; exact .queue hj hs

theorem checkReslice_commit {r : Except Exc (Option String)} (h : (checkReslice id).commit d = (r, d')) :
    d' = d ∧ ((r = .ok none ∧ ∀ j, d.job id = some j → j.status ≠ .slicing) ∨
      ∃ j, d.job id = some j ∧ j.status = .slicing ∧ r = .ok (some j.stlPath)) := by
  cases hj : d.job id with
  | none =>
      rw [Txn.commit_of_kept (a := none) (by simp [checkReslice, hj])] at h
      cases h
      exact ⟨rfl, .inl ⟨rfl, fun _ hc => by cases hc⟩⟩
  | some j =>
      by_cases hs : j.status = .slicing
      · rw [Txn.commit_of_kept (a := some j.stlPath) (by simp [checkReslice, hj, hs])] at h
        cases h
        exact ⟨rfl, .inr ⟨j, rfl, hs, rfl⟩⟩
      · rw [Txn.commit_of_kept (a := none) (by simp [checkReslice, hj, hs])] at h
        cases h
        exact ⟨rfl, .inl ⟨rfl, fun _ hc => Option.some.inj hc ▸ hs⟩⟩

/-- An aborted fallback puts the job back into its old queue, if it is still being sliced. -/
theorem abortReslice_commit {exc : String} {r : Except Exc Unit}
    (h : (abortReslice now id exc).commit d = (r, d')) :
    r = .ok () ∧ ((d' = d ∧ ∀ j, d.job id = some j → j.status ≠ .slicing) ∨
      ∃ j, d.job id = some j ∧ j.status = .slicing ∧
      Move (.swap id .slicing .queued) d.floor d'.floor) := by
  cases hj : d.job id with
  | none =>
      rw [Txn.commit_of_kept (a := ()) (by simp [abortReslice, hj])] at h
      cases h
      exact ⟨rfl, .inl ⟨rfl, fun _ hc => by cases hc⟩⟩
  | some j =>
      by_cases hs : j.status = .slicing
      · have hswap : ∀ msg, (transitionJobStatus now (some j) id [.slicing] .queued (some msg) none).run d
            = (.ok (j.transitioned now .queued (some msg) none),
                d.setJob id (j.transitioned now .queued (some msg) none)) := fun msg =>
          transition_run now _ _ _ _ _ (by decide) hj (by simp [hs])
        have hrun : ∃ msg e, (abortReslice now id exc).run d
            = (.ok (), (d.setJob id (j.transitioned now .queued (some msg) none)).insertLog e) :=
          ⟨_, _, by simp only [abortReslice, getJob_run, Txn.run_bind, hj, hs, if_true, hswap, addLog_run]; rfl⟩
        obtain ⟨msg, e, hrun⟩ := hrun
        rw [Txn.commit_of_ok hrun] at h
        cases h
        refine ⟨rfl, .inr ⟨j, rfl, hs, ?_⟩⟩
        rw [Db.floor_insertLog, Db.floor_setJob hj, ← hs]
        exact .swap hj (by rw [hs]; decide) (by decide)
      · rw [Txn.commit_of_kept (a := ()) (by simp [abortReslice, hj, hs])] at h
        cases h
        exact ⟨rfl, .inl ⟨rfl, fun _ hc => Option.some.inj hc ▸ hs⟩⟩

/-- `_fail_job`, from its first UPDATE on. -/
theorem failLoaded_run (now : Time) (msg : String) (hs : job.status ∉ terminalJobStatuses) (hj : d.job id = some j)
    (hst : j.status = job.status) : ∃ e, (failLoaded now id msg job).run d
      = (.ok (), (d.setJob id (j.transitioned now .failed (some msg) none)).insertLog e) := by
  have hswap := trySwap_run now job _ _ (some msg) (failed_allowed hs) hj hst
  unfold failLoaded
  rw [if_neg hs, Txn.run_bind_of_ok hswap, if_pos rfl, addLog_run]
  exact ⟨_, rfl⟩

/-- `_fail_job` fails a job that is not over yet. -/
theorem failJob_commit {msg : String} {r : Except Exc Unit}
    (h : (failJob now id msg).commit d = (r, d')) :
    r = .ok () ∧ ((d' = d ∧ ∀ j, d.job id = some j → j.status ∈ terminalJobStatuses) ∨
      ∃ j, d.job id = some j ∧ j.status ∉ terminalJobStatuses ∧
        Move (.swap id j.status .failed) d.floor d'.floor) := by
  cases hj : d.job id with
  | none =>
      rw [Txn.commit_of_kept (a := ()) (by simp [failJob, hj])] at h
      cases h
      exact ⟨rfl, .inl ⟨rfl, fun _ hc => by cases hc⟩⟩
  | some j =>
      by_cases hs : j.status ∈ terminalJobStatuses
      · rw [Txn.commit_of_kept (a := ()) (by simp [failJob, failLoaded, hj, hs])] at h
        cases h
        exact ⟨rfl, .inl ⟨rfl, fun _ hc => Option.some.inj hc ▸ hs⟩⟩
      · have hload : (failJob now id msg).run d = (failLoaded now id msg j).run d := by
          unfold failJob
          rw [Txn.run_bind_of_ok getJob_run, hj]
        obtain ⟨e, hrun⟩ := failLoaded_run now msg hs hj rfl
        rw [Txn.commit_of_ok (hload.trans hrun)] at h
        cases h
        refine ⟨rfl, .inr ⟨j, rfl, hs, ?_⟩⟩
        rw [Db.floor_insertLog, Db.floor_setJob hj]
        exact .swap hj (failed_allowed hs) (by decide)

/-! ## The queue loop -/

/-- The candidate loop ends without a reservation, raises, or reserves one eligible candidate, whose own printer
    is not available. -/
theorem reserveCandidate_run (s : Settings) (now : Time) (target : PrinterID) (reserved : JobId → Bool) :
    ∀ {rows : List (JobId × Job)}, (∀ r ∈ rows, d.job r.1 = some r.2 ∧ r.2.status = .queued) →
      (∃ r, (reserveCandidate s now target reserved rows).run d = (r, d) ∧ ∀ id, r ≠ .ok (some id)) ∨
      ∃ id j source e, d.job id = some j ∧ j.status = .queued ∧ j.assignedPrinter = some source ∧
        (s.printerEnabled source && (d.printers source).available) = false ∧
        j.fitsOn s target = true ∧ reserved id = false ∧
        (reserveCandidate s now target reserved rows).run d
          = (.ok (some id), (d.setJob id (j.transitioned now .slicing none none)).insertLog e) := by
  intro rows
  induction rows with
  | nil => exact fun _ => .inl ⟨_, rfl, fun id hc => by cases hc⟩
  | cons row rest ih =>
      intro hrows
      obtain ⟨id, j⟩ := row
      obtain ⟨hj, hs⟩ := hrows (id, j) List.mem_cons_self
      have hrest := ih fun r hr => hrows r (List.mem_cons_of_mem _ hr)
      unfold reserveCandidate
      simp only [Txn.run_ite]
      split
      · exact hrest
      · cases hp : j.assignedPrinter with
        | none => exact .inl ⟨_, rfl, fun id hc => by cases hc⟩
        | some source =>
            simp only [Txn.run_bind, getPrinterState_run, Txn.run_ite]
            split
            · exact hrest
            · next hok =>
                simp only [Bool.or_eq_true, Bool.not_eq_true', not_or, Bool.not_eq_false,
                  Bool.not_eq_true] at hok
                have hswap := trySwap_run now j .queued .slicing none (by decide) hj hs
                let entry : LogEntry :=
                  { timestamp := now, level := .info, event := "FALLBACK_SCHEDULED",
                    message := s!"{source.value} unavailable; preparing {target.value}",
                    jobId := some id, printerId := some target.value, extra := none }
                refine .inr ⟨id, j, source, entry, hj, hs, hp, hok.1.1, hok.1.2, hok.2, ?_⟩
                simp only [hswap, if_true, addLog_run, Txn.run_pure]
                rfl

/-- Scheduling a fallback reserves one queued job that fits the target and that no worker has reserved. -/
theorem tryScheduleFallback_commit {target : PrinterID} {reserved : JobId → Bool}
    {r : Except Exc (Option JobId)}
    (h : (tryScheduleFallback s now target reserved).commit d = (r, d')) :
    (d' = d ∧ ∀ id, r ≠ .ok (some id)) ∨
    ∃ id j source, r = .ok (some id) ∧ d.job id = some j ∧ j.status = .queued ∧
      j.assignedPrinter = some source ∧ (s.printerEnabled source && (d.printers source).available) = false ∧
      j.fitsOn s target = true ∧ s.printerEnabled target = true ∧ reserved id = false ∧
      d'.floor = d.floor.setJob id (j.transitioned now .slicing none none) := by
  by_cases hen : s.printerEnabled target = false
  · rw [Txn.commit_of_kept (a := none) (by simp [tryScheduleFallback, hen])] at h
    cases h
    exact .inl ⟨rfl, fun id hc => by cases hc⟩
  · by_cases hav : (d.printers target).available = false
    · rw [Txn.commit_of_kept (a := none) (by simp [tryScheduleFallback, hen, hav])] at h
      cases h
      exact .inl ⟨rfl, fun id hc => by cases hc⟩
    · let rows := d.jobsWhere (fun j => j.status = .queued ∧ j.assignedPrinter.any (· ≠ target)) byEstimate
      -- what the query returns is what is stored: the candidates are looked at in one transaction
      have hrows : ∀ r ∈ rows, d.job r.1 = some r.2 ∧ r.2.status = .queued := by
        rintro ⟨id, j⟩ hr
        obtain ⟨hj, hq⟩ := mem_jobsWhere.mp hr
        simp only [decide_eq_true_eq] at hq
        exact ⟨hj, hq.1⟩
      have hrun : (tryScheduleFallback s now target reserved).run d
          = (reserveCandidate s now target reserved rows).run d := by
        simp [tryScheduleFallback, hen, hav, rows]
      rcases reserveCandidate_run s now target reserved hrows
        with ⟨r', hr', hne⟩ | ⟨id, j, source, e, hj, hs, hp, hbusy, hfit, hres, hr'⟩
      · rw [hr'] at hrun
        cases r' with
        | error e =>
            rw [Txn.commit_of_error hrun] at h
            cases h
            exact .inl ⟨rfl, fun id hc => by cases hc⟩
        | ok o =>
            rw [Txn.commit_of_ok hrun] at h
            cases h
            exact .inl ⟨rfl, hne⟩
      · rw [hr'] at hrun
        rw [Txn.commit_of_ok hrun] at h
        cases h
        refine .inr ⟨id, j, source, rfl, hj, hs, hp, hbusy, hfit, by simpa using hen, hres, ?_⟩
        rw [Db.floor_insertLog, Db.floor_setJob hj]

theorem PrinterState.free_of_available {st : PrinterState} (h : ¬ st.available = false) : st.free := by
  simpa [available, PrinterState.free, and_assoc] using h

/-- **Dispatch** sends a queued job of a free, enabled printer there and claims the slot. -/
theorem tryDispatch_commit {r : Except Exc (Option (JobId × Option String))}
    (h : (tryDispatch s now p).commit d = (r, d')) :
    (r = .ok none ∧ d' = d) ∨
    ∃ id j, r = .ok (some (id, j.slicedPath)) ∧ d.job id = some j ∧ j.status = .queued ∧
      s.printerEnabled p = true ∧ (d.printers p).free ∧ Move (.dispatch id p) d.floor d'.floor := by
  by_cases hen : s.printerEnabled p = false
  · rw [Txn.commit_of_kept (a := none) (by simp [tryDispatch, hen])] at h
    cases h
    exact .inl ⟨rfl, rfl⟩
  · by_cases hav : (d.printers p).available = false
    · rw [Txn.commit_of_kept (a := none) (by simp [tryDispatch, hen, hav])] at h
      cases h
      exact .inl ⟨rfl, rfl⟩
    -- the query takes the first of the sorted rows, if there is any
    · have hnext : (getNextQueuedJobForPrinter p).run d = (.ok (d.jobsWhere
          (fun j => j.status = .queued ∧ j.assignedPrinter = some p) byEstimate).head?, d) := rfl
      rcases hhead : (d.jobsWhere (fun j => j.status = .queued ∧ j.assignedPrinter = some p)
        byEstimate).head? with _ | ⟨id, j⟩
      · rw [hhead] at hnext
        rw [Txn.commit_of_kept (a := none) (by simp [tryDispatch, hen, hav, hnext])] at h
        cases h
        exact .inl ⟨rfl, rfl⟩
      · rw [hhead] at hnext
        obtain ⟨hj, hq⟩ := mem_jobsWhere.mp (List.mem_of_mem_head? hhead)
        obtain ⟨hs, hp⟩ : j.status = .queued ∧ j.assignedPrinter = some p := by simpa using hq
        have hswap := trySwap_run now j .queued .uploading none (by decide) hj hs
        have hupd := updatePrinterState_run (p := p)
          (d := d.setJob id (j.transitioned now .uploading none none)) now
          (fun st => { st with currentJobId := some id }) (show _ = d.printers p from rfl)
        have hrun : ∃ e, (tryDispatch s now p).run d = (.ok (some (id, j.slicedPath)),
            ((d.setJob id (j.transitioned now .uploading none none)).setPrinter p
              { d.printers p with currentJobId := some id, lastSeen := some now }).insertLog e) := by
          let entry : LogEntry :=
            { timestamp := now, level := .info, event := "UPLOADING", message := s!"Uploading to {p.value}",
              jobId := some id, printerId := some p.value, extra := none }
          refine ⟨entry, ?_⟩
          unfold tryDispatch
          rw [if_neg hen, Txn.run_bind_of_ok getPrinterState_run]
          simp only [hav, Bool.true_eq_false, if_false]
          rw [Txn.run_bind_of_ok hnext, Txn.run_bind_of_ok hswap]
          simp only [if_true]
          rw [Txn.run_bind_of_ok hupd]
          rfl
        obtain ⟨e, hrun⟩ := hrun
        rw [Txn.commit_of_ok hrun] at h
        cases h
        refine .inr ⟨id, j, rfl, hj, hs, by simpa using hen, PrinterState.free_of_available hav, ?_⟩
        rw [Db.floor_insertLog, Db.floor_setPrinter, Db.floor_setJob hj]
        exact .dispatch hj hs hp (PrinterState.free_of_available hav)

/-! ## The handoff worker -/

/-- The block between upload and start: UPLOADING becomes STARTING, or the swap is lost. -/
theorem requestStart_commit {r : Except Exc Unit} (h : (requestStart now id p).commit d = (r, d')) :
    (∃ m, r = .error (.jobTransitionError m) ∧ d' = d) ∨
      ∃ j, r = .ok () ∧ d.job id = some j ∧ j.status = .uploading ∧
        Move (.swap id .uploading .starting) d.floor d'.floor := by
  obtain ⟨a, rfl, hrun⟩ | ⟨e, d₁, rfl, hd, hrun⟩ := Txn.commit_cases h
  · obtain ⟨a₁, d₁, hswap, hrest⟩ := Txn.run_bind_ok hrun
    obtain ⟨-, rfl⟩ := Prod.mk.inj hrest
    obtain ⟨i, hi, hs, hedge, rfl, -, hf⟩ := transition_floor_one hswap
    refine .inr ⟨i, rfl, hi, hs, ?_⟩
    rw [Db.floor_insertLog, hf, ← hs]
    exact .swap hi (hs ▸ hedge) (by decide)
  · rcases Txn.run_bind_error hrun with hswap | ⟨a₁, d₂, -, hrest⟩
    · obtain ⟨m, rfl⟩ := transition_raises hswap
      exact .inl ⟨m, rfl, hd⟩
    · cases hrest

/-- The block after the start was confirmed, from its first UPDATE on. The row it works on may have been
    written since `job` was read. -/
theorem confirmLoaded_run (now : Time) (p : PrinterID) (hs : job.status = .starting) (hj : d.job id = some j)
    (hst : j.status = .starting) : ∃ e, (confirmLoaded now id p job).run d = (.ok (),
      ((d.setJob id (j.transitioned now .printing none none)).insertLog e).setPrinter p
        { d.printers p with plateCleared := false, lastSeen := some now }) := by
  have hswap := transition_run now (some job) [.starting] .printing none none (by decide) hj (by simp [hst])
  unfold confirmLoaded
  rw [if_pos hs, Txn.run_bind_of_ok hswap, Txn.run_bind_of_ok addLog_run,
    Txn.run_bind_of_ok loadAndUpdatePrinterState_run]
  exact ⟨_, rfl⟩

/-- The block after the start was confirmed: STARTING becomes PRINTING, and a job that is PRINTING blocks its
    plate. Any other job is left alone. -/
theorem confirmStart_commit {r : Except Exc Unit} (h : (confirmStart now id p).commit d = (r, d'))
    (hslot : ∀ j, d.job id = some j → j.status ∈ atPrinter → (d.printers p).currentJobId = some id) :
    r = .ok () ∧
    ((d' = d ∧ ∀ j, d.job id = some j → j.status ∉ [.starting, .printing]) ∨
      (∃ j, d.job id = some j ∧ j.status = .starting ∧ Move (.confirm id p) d.floor d'.floor) ∨
      ∃ j, d.job id = some j ∧ j.status = .printing ∧ Move (.block id p) d.floor d'.floor) := by
  cases hj : d.job id with
  | none =>
      rw [Txn.commit_of_kept (a := ()) (by simp [confirmStart, hj])] at h
      cases h
      exact ⟨rfl, .inl ⟨rfl, fun _ hc => by cases hc⟩⟩
  | some j =>
      have hconf : (confirmStart now id p).run d = (confirmLoaded now id p j).run d := by
        unfold confirmStart
        rw [Txn.run_bind_of_ok getJob_run, hj]
      by_cases hs : j.status = .starting
      · obtain ⟨e, hrun⟩ := confirmLoaded_run now p hs hj hs
        rw [Txn.commit_of_ok (hconf.trans hrun)] at h
        cases h
        refine ⟨rfl, .inr (.inl ⟨j, rfl, hs, ?_⟩)⟩
        rw [Db.floor_setPrinter, Db.floor_insertLog, Db.floor_setJob hj]
        exact .confirm hj hs (hslot j hj (by rw [hs]; decide))
      · by_cases hp : j.status = .printing
        · have hrun : (confirmStart now id p).run d = (.ok (),
              d.setPrinter p { d.printers p with plateCleared := false, lastSeen := some now }) := by
            rw [hconf]
            unfold confirmLoaded
            rw [if_neg hs, if_neg (not_not.mpr hp), Txn.run_bind_of_ok loadAndUpdatePrinterState_run]
            rfl
          rw [Txn.commit_of_ok hrun] at h
          cases h
          refine ⟨rfl, .inr (.inr ⟨j, rfl, hp, ?_⟩)⟩
          rw [Db.floor_setPrinter]
          exact .block hj hp (hslot j hj (by rw [hp]; decide))
        · have hrun : (confirmStart now id p).run d = (.ok (), d) := by
            rw [hconf]
            unfold confirmLoaded
            rw [if_neg hs, if_pos hp]
            rfl
          rw [Txn.commit_of_ok hrun] at h
          cases h
          exact ⟨rfl, .inl ⟨rfl, fun i hi => by cases hi; simp [hs, hp]⟩⟩

/-- The quarantine of an ambiguous start, from its first UPDATE on. -/
theorem quarantineLoaded_run (now : Time) (p : PrinterID) (exc : Exc) (hs : job.status = .starting)
    (hj : d.job id = some j) (hst : j.status = .starting) :
    ∃ e, (quarantineLoaded now id p exc job).run d = (.ok (),
      ((d.setJob id (j.transitioned now .attention (some exc.str) none)).setPrinter p
        ((d.printers p).blocked now id .error)).insertLog e) := by
  have hswap := transition_run now (some job) [.starting] .attention (some exc.str) none (by decide) hj
    (by simp [hst])
  unfold quarantineLoaded
  rw [if_pos hs, Txn.run_bind_of_ok hswap, Txn.run_bind_of_ok loadAndUpdatePrinterState_run, addLog_run]
  exact ⟨_, rfl⟩

/-- The quarantine of an ambiguous start. -/
theorem quarantineStart_commit {exc : Exc} {r : Except Exc Unit}
    (h : (quarantineStart now id p exc).commit d = (r, d'))
    (hslot : ∀ j, d.job id = some j → j.status ∈ atPrinter → (d.printers p).currentJobId = some id) :
    r = .ok () ∧
    ((d' = d ∧ ∀ j, d.job id = some j → j.status ≠ .starting) ∨
      ∃ j, d.job id = some j ∧ j.status = .starting ∧
        Move (.settle id p .attention .error) d.floor d'.floor) := by
  cases hj : d.job id with
  | none =>
      rw [Txn.commit_of_kept (a := ()) (by simp [quarantineStart, hj])] at h
      cases h
      exact ⟨rfl, .inl ⟨rfl, fun _ hc => by cases hc⟩⟩
  | some j =>
      by_cases hs : j.status = .starting
      · have hload : (quarantineStart now id p exc).run d = (quarantineLoaded now id p exc j).run d := by
          unfold quarantineStart
          rw [Txn.run_bind_of_ok getJob_run, hj]
        obtain ⟨e, hrun⟩ := quarantineLoaded_run now p exc hs hj hs
        rw [Txn.commit_of_ok (hload.trans hrun)] at h
        cases h
        refine ⟨rfl, .inr ⟨j, rfl, hs, ?_⟩⟩
        rw [Db.floor_insertLog, Db.floor_setPrinter, Db.floor_setJob hj]
        have hat : j.status ∈ atPrinter := by rw [hs]; decide
        exact .settle j.printProgress hj hat (by rw [hs]; decide) (by decide)
          (hslot j hj hat)
      · rw [Txn.commit_of_kept (a := ()) (by simp [quarantineStart, quarantineLoaded, hj, hs])] at h
        cases h
        exact ⟨rfl, .inl ⟨rfl, fun i hi => by cases hi; exact hs⟩⟩

/-- The release after a failed handoff: the slot is given up iff its owner is the failed job. -/
theorem releaseFailed_commit {r : Except Exc Unit} (h : (releaseFailed now id p).commit d = (r, d')) :
    r = .ok () ∧
    ((d' = d ∧ ¬ ((d.printers p).currentJobId = some id ∧ ∃ j, d.job id = some j ∧ j.status = .failed)) ∨
      ∃ j, (d.printers p).currentJobId = some id ∧ d.job id = some j ∧ j.status = .failed ∧
        Move (.release id p) d.floor d'.floor) := by
  have hrel : (releaseFailed now id p).run d = match d.job id with
      | some job =>
          if (d.printers p).currentJobId = some id ∧ job.status = .failed then
            (.ok (), d.setPrinter p { d.printers p with
              currentJobId := none, plateCleared := true, status := .idle, lastSeen := some now })
          else (.ok (), d)
      | none => (.ok (), d) := by
    unfold releaseFailed
    rw [Txn.run_bind_of_ok getPrinterState_run, Txn.run_bind_of_ok getJob_run]
    cases d.job id with
    | none => rfl
    | some j =>
        simp only [Txn.run_ite, Txn.run_bind_of_ok (updatePrinterState_run now _ rfl), Txn.run_pure]
  cases hj : d.job id with
  | none =>
      rw [hj] at hrel
      rw [Txn.commit_of_ok hrel] at h
      cases h
      exact ⟨rfl, .inl ⟨rfl, fun hc => by simp at hc⟩⟩
  | some j =>
      rw [hj] at hrel
      by_cases hc : (d.printers p).currentJobId = some id ∧ j.status = .failed
      · simp only [if_pos hc] at hrel
        rw [Txn.commit_of_ok hrel] at h
        cases h
        refine ⟨rfl, .inr ⟨j, hc.1, rfl, hc.2, ?_⟩⟩
        rw [Db.floor_setPrinter]
        exact .release hj hc.2 hc.1
      · simp only [if_neg hc] at hrel
        rw [Txn.commit_of_ok hrel] at h
        cases h
        refine ⟨rfl, .inl ⟨rfl, ?_⟩⟩
        rintro ⟨hslot, i, hi, hs⟩
        cases hi
        exact hc ⟨hslot, hs⟩

/-! ## The status callback -/

/-- The printer row after the telemetry of a snapshot. -/
def Snapshot.row (snap : Snapshot) (now : Time) (st : PrinterState) : PrinterState :=
  { st with status := statusMap snap.status, printProgress := snap.progress,
            nozzleTemp := some snap.nozzleTemp, bedTemp := some snap.bedTemp, lastSeen := some now }

/-- The owner's status once the callback has looked at `status`. -/
def Snapshot.confirmed (snap : Snapshot) (s : JobStatus) : JobStatus :=
  if snap.status = .printing ∧ (s = .starting ∨ s = .attention) then .printing else s

/-- What `gcode_state` then ends: the status of the job and of the printer row. -/
def Snapshot.settled (snap : Snapshot) (s : JobStatus) : Option (JobStatus × PrinterStatus) :=
  if snap.gcodeState = .idle ∧ s = .printing then some (.attention, .error)
  else if snap.gcodeState = .finish ∧ s ∈ awaitingReport then some (.completed, .idle)
  else if snap.gcodeState = .failed ∧ s ∈ awaitingReport then some (.failed, .error)
  else none

/-- The owner's status after the callback. -/
def Snapshot.outcome (snap : Snapshot) (s : JobStatus) : JobStatus :=
  ((snap.settled (snap.confirmed s)).map Prod.fst).getD (snap.confirmed s)

/-- The owner's progress once the callback has looked at `status`. -/
def Snapshot.progressed (snap : Snapshot) (v : Int) : Int :=
  if snap.status = .printing then clampProgress snap.progress else v

/-- The moves of a callback of printer `p`. -/
def Act.reports (p : PrinterID) : Act → Prop
  | .telemetry q _ => q = p
  | .swap _ old new => (old = .starting ∨ old = .attention) ∧ new = .printing
  | .progress _ => True
  | .settle _ q _ _ => q = p
  | _ => False

theorem Snapshot.settled_new {snap : Snapshot} {st new : JobStatus} {ps : PrinterStatus}
    (h : snap.settled st = some (new, ps)) :
    st ∈ atPrinter ∧ new ∈ allowedJobTransitions st ∧ new ∈ [.attention, .completed, .failed] := by
  unfold settled at h
  split at h
  · next hc => cases h; rw [hc.2]; decide
  · split at h
    · next hc => cases h; have hs := hc.2; revert hs; cases st <;> decide
    · split at h
      · next hc => cases h; have hs := hc.2; revert hs; cases st <;> decide
      · cases h

/-- A callback that settles nothing leaves the owner at its confirmed status, -/
theorem Snapshot.outcome_kept {snap : Snapshot} {st : JobStatus} (h : snap.settled (snap.confirmed st) = none) :
    snap.outcome st = snap.confirmed st := by
  rw [outcome, h]
  rfl

/-- and ends no job. -/
theorem Snapshot.confirmed_ended {snap : Snapshot} {st : JobStatus}
    (h : snap.confirmed st ∈ [.completed, .failed]) : snap.confirmed st = st := by
  unfold confirmed at h ⊢
  split
  · next hc => rw [if_pos hc] at h; exact absurd h (by decide)
  · rfl

/-- A report waits for the owner before and after it is confirmed. -/
theorem Snapshot.awaiting_confirmed {snap : Snapshot} {st : JobStatus} :
    snap.confirmed st ∈ awaitingReport ↔ st ∈ awaitingReport := by
  unfold confirmed
  split
  · next hc => rcases hc.2 with rfl | rfl <;> decide
  · rfl

/-- Only FINISH makes the printer row IDLE. -/
theorem Snapshot.settled_idle {snap : Snapshot} {st new : JobStatus}
    (h : snap.settled (snap.confirmed st) = some (new, .idle)) :
    snap.gcodeState = .finish ∧ st ∈ awaitingReport := by
  unfold settled at h
  split at h
  · cases h
  · split at h
    · next hc => exact ⟨hc.1, awaiting_confirmed.mp hc.2⟩
    · split at h <;> cases h

/-- A report that shows neither a print nor FINISH quarantines or fails the owner, or leaves it alone. -/
theorem Snapshot.outcome_silent (snap : Snapshot) (st : JobStatus) (hprint : snap.status ≠ .printing)
    (hfinish : snap.gcodeState ≠ .finish) : snap.outcome st ∈ [st, .attention, .failed] := by
  have hsame : snap.confirmed st = st := if_neg fun hc => hprint hc.1
  rw [outcome, hsame, settled]
  split
  · simp
  · split
    · next hc => exact absurd hc.1 hfinish
    · split <;> simp

/-- A job that waits for no report is left alone. -/
theorem Snapshot.outcome_idle {snap : Snapshot} {st : JobStatus} (h : st ∉ awaitingReport) :
    snap.outcome st = st := by
  have hne : st ≠ .starting ∧ st ≠ .attention ∧ st ≠ .printing := by
    refine ⟨?_, ?_, ?_⟩ <;> rintro rfl <;> exact h (by decide)
  simp [outcome, settled, confirmed, hne, h]

/-- A report starts or completes a job only if it was printing or the report shows a print or FINISH. -/
theorem Snapshot.outcome_started {snap : Snapshot} {st : JobStatus}
    (h : snap.outcome st ∈ [.printing, .completed]) :
    st ∈ [.printing, .completed] ∨
      (st ∈ [.starting, .attention] ∧ (snap.status = .printing ∨ snap.gcodeState = .finish)) := by
  by_cases hshows : snap.status = .printing ∨ snap.gcodeState = .finish
  · by_cases hwait : st ∈ awaitingReport
    · revert hwait
      cases st <;> simp [awaitingReport, hshows]
    · rw [outcome_idle hwait] at h
      exact .inl h
  · rw [not_or] at hshows
    have hout := snap.outcome_silent st hshows.1 hshows.2
    generalize snap.outcome st = st' at h hout
    left
    revert h hout
    cases st' <;> simp +contextual

section callback

variable {snap : Snapshot} {job : Job} {state : PrinterState}

/-- The first branch confirms or recovers the job and stores its progress. -/
theorem reportPrinting_run (now : Time) (p : PrinterID) (snap : Snapshot) (hj : d.job id = some job) :
    ∃ j' d', (reportPrinting now p snap id job).run d = (.ok j', d') ∧
      d'.floor = d.floor.setJob id j' ∧ j'.ticket = job.ticket ∧
      j'.status = (if job.status = .starting ∨ job.status = .attention then .printing else job.status) ∧
      j'.printProgress = clampProgress snap.progress ∧ Moves (Act.reports p) d.floor d'.floor := by
  by_cases hs : job.status = .starting ∨ job.status = .attention
  · have hedge : .printing ∈ allowedJobTransitions job.status := by
      rcases hs with hs | hs <;> rw [hs] <;> decide
    let moved := job.transitioned now .printing none none
    have hswap := transition_run now (some job) [job.status] .printing none none (by simpa using hedge) hj (by simp)
    let entry : LogEntry :=
      { timestamp := now, level := .info,
        event := if job.status = .starting then "PRINT_CONFIRMED" else "PRINT_RECOVERED",
        message := s!"Printer confirmed {snap.gcodeState.value} on {p.value}", jobId := some id,
        printerId := some p.value, extra := none }
    have hmoved : ((d.setJob id moved).insertLog entry).job id = some moved := by simp [hj]
    let stored : Job := { moved with printProgress := clampProgress snap.progress }
    refine ⟨stored, ((d.setJob id moved).insertLog entry).setJob id stored, ?_, ?_, rfl, ?_, rfl, ?_⟩
    · unfold reportPrinting
      rw [if_pos hs]
      rw [Txn.run_bind, Txn.run_tryCatch, Txn.run_bind_of_ok hswap, Txn.run_bind_of_ok addLog_run]
      exact updateJobProgress_run hmoved
    · rw [Db.floor_setJob hmoved, Db.floor_insertLog, Db.floor_setJob hj, Floor.setJob_setJob]
    · rw [if_pos hs]; rfl
    · rw [Db.floor_setJob hmoved, Db.floor_insertLog, Db.floor_setJob hj]
      exact (Moves.one ⟨hs, rfl⟩ (.swap hj hedge (by decide))).trans
        (Moves.one (a := .progress id) trivial (.progress (Floor.job_setJob_self ..)))
  · let stored : Job := { job with printProgress := clampProgress snap.progress }
    refine ⟨stored, d.setJob id stored, ?_, Db.floor_setJob hj _, rfl, ?_, rfl, ?_⟩
    · unfold reportPrinting
      rw [if_neg hs, Txn.run_bind_of_ok (Txn.run_pure d job), updateJobProgress_run hj]
    · rw [if_neg hs]
    · rw [Db.floor_setJob hj]
      exact Moves.one (a := .progress id) trivial (.progress hj)

/-- IDLE without FINISH quarantines a PRINTING job. -/
theorem reportIdle_run (now : Time) (hj : d.job id = some job) (hs : job.status = .printing)
    (hp : d.printers p = state) :
    ∃ err d', (reportIdle now p state id job).run d
        = (.ok (state.blocked now id .error, job.transitioned now .attention err none), d') ∧
      d'.floor = (d.floor.setJob id (job.transitioned now .attention err none)).setPrinter p
        (state.blocked now id .error) := by
  have hswap := fun msg => transition_run now (some job) [.printing] .attention (some msg) none (by decide) hj
    (by simp [hs])
  have hrun : ∃ err e, (reportIdle now p state id job).run d
      = (.ok (state.blocked now id .error, job.transitioned now .attention (some err) none),
          ((d.setJob id (job.transitioned now .attention (some err) none)).setPrinter p
            (state.blocked now id .error)).insertLog e) :=
    ⟨_, _, by
      unfold reportIdle
      rw [Txn.run_bind_of_ok (hswap _), Txn.run_bind_of_ok (updatePrinterState_run (d := d.setJob id _) now _ hp),
        Txn.run_bind_of_ok addLog_run]
      rfl⟩
  obtain ⟨err, e, hrun⟩ := hrun
  exact ⟨some err, _, hrun, by rw [Db.floor_insertLog, Db.floor_setPrinter, Db.floor_setJob hj]⟩

/-- FINISH completes the job. -/
theorem handlePrintFinished_run (now : Time) (hj : d.job id = some job) (hs : job.status ∈ awaitingReport)
    (hp : d.printers p = state) :
    ∃ j' d', (handlePrintFinished now p state id job).run d = (.ok (), d') ∧
      j' = { job.transitioned now .completed none none with printProgress := 100 } ∧
      d'.floor = (d.floor.setJob id j').setPrinter p (state.blocked now id .idle) := by
  have hedge : .completed ∈ allowedJobTransitions job.status := by
    revert hs; cases job.status <;> decide
  let moved := job.transitioned now .completed none none
  have hswap := transition_run now (some job) [job.status] .completed none none (by simpa using hedge) hj (by simp)
  have hmoved : (d.setJob id moved).job id = some moved := by simp [hj]
  have hrun : ∃ e, (handlePrintFinished now p state id job).run d
      = (.ok (), (((d.setJob id moved).setJob id { moved with printProgress := 100 }).setPrinter p
          (state.blocked now id .idle)).insertLog e) :=
    ⟨_, by
      unfold handlePrintFinished
      rw [Txn.run_bind_of_ok hswap, Txn.run_bind_of_ok (updateJobProgress_run hmoved),
        Txn.run_bind_of_ok (updatePrinterState_run (d := (d.setJob id _).setJob id _) now _ hp)]
      rfl⟩
  obtain ⟨e, hrun⟩ := hrun
  exact ⟨_, _, hrun, rfl, by
    rw [Db.floor_insertLog, Db.floor_setPrinter, Db.floor_setJob hmoved, Db.floor_setJob hj,
      Floor.setJob_setJob]⟩

/-- FAILED fails it. -/
theorem handlePrintFailed_run (now : Time) (hj : d.job id = some job) (hs : job.status ∈ awaitingReport)
    (hp : d.printers p = state) :
    ∃ err d', (handlePrintFailed now p state id job).run d = (.ok (), d') ∧
      d'.floor = (d.floor.setJob id (job.transitioned now .failed err none)).setPrinter p
        (state.blocked now id .error) := by
  have hedge : .failed ∈ allowedJobTransitions job.status := by
    revert hs; cases job.status <;> decide
  have hswap := fun msg => transition_run now (some job) [job.status] .failed (some msg) none
    (by simpa using hedge) hj (by simp)
  have hrun : ∃ err e, (handlePrintFailed now p state id job).run d
      = (.ok (), ((d.setJob id (job.transitioned now .failed (some err) none)).setPrinter p
          (state.blocked now id .error)).insertLog e) :=
    ⟨_, _, by
      unfold handlePrintFailed
      rw [Txn.run_bind_of_ok (hswap _), Txn.run_bind_of_ok (updatePrinterState_run (d := d.setJob id _) now _ hp)]
      rfl⟩
  obtain ⟨err, e, hrun⟩ := hrun
  exact ⟨some err, _, hrun, by rw [Db.floor_insertLog, Db.floor_setPrinter, Db.floor_setJob hj]⟩

end callback

/-- What a callback of printer `p` leaves on the floor. -/
inductive Reported (p : PrinterID) (snap : Snapshot) (f : Floor) : Floor → Prop
  | unowned {now : Time} (hnone : ∀ id, (f.printers p).currentJobId = some id → f.job id = none) :
      Reported p snap f (f.setPrinter p (snap.row now (f.printers p)))
  | kept {now : Time} {id : JobId} {j j' : Job} (hslot : (f.printers p).currentJobId = some id)
      (hj : f.job id = some j) (hset : snap.settled (snap.confirmed j.status) = none)
      (ht : j'.ticket = j.ticket) (hs : j'.status = snap.confirmed j.status) :
      Reported p snap f ((f.setJob id j').setPrinter p (snap.row now (f.printers p)))
  | settled {now : Time} {id : JobId} {j j' : Job} {new : JobStatus} {ps : PrinterStatus}
      (hslot : (f.printers p).currentJobId = some id) (hj : f.job id = some j)
      (hset : snap.settled (snap.confirmed j.status) = some (new, ps))
      (ht : j'.ticket = j.ticket) (hs : j'.status = new) :
      Reported p snap f
        ((f.setJob id j').setPrinter p ((snap.row now (f.printers p)).blocked now id ps))

/-- The owner gets the status that the report leaves it. -/
theorem Reported.owner {snap : Snapshot} {f f' : Floor} (h : Reported p snap f f')
    (hslot : (f.printers p).currentJobId = some id) (hj : f.job id = some j) :
    ∃ j', f'.job id = some j' ∧ j'.ticket = j.ticket ∧ j'.status = snap.outcome j.status := by
  cases h with
  | unowned hnone =>
      rw [hnone id hslot] at hj
      cases hj
  | kept hslot' hj' hset ht hs =>
      cases Option.some.inj (hslot.symm.trans hslot')
      cases Option.some.inj (hj.symm.trans hj')
      exact ⟨_, Floor.job_setJob_self .., ht, by rw [hs, Snapshot.outcome, hset]; rfl⟩
  | settled hslot' hj' hset ht hs =>
      cases Option.some.inj (hslot.symm.trans hslot')
      cases Option.some.inj (hj.symm.trans hj')
      exact ⟨_, Floor.job_setJob_self .., ht, by rw [hs, Snapshot.outcome, hset]; rfl⟩

/-- The callback writes the row of the owner only. -/
theorem Reported.job_frame {snap : Snapshot} {f f' : Floor} (h : Reported p snap f f')
    (hno : (f.printers p).currentJobId ≠ some id ∨ f.job id = none) : f'.job id = f.job id := by
  have hother : ∀ {k j}, (f.printers p).currentJobId = some k → f.job k = some j → id ≠ k := by
    rintro k j hslot hj rfl
    rcases hno with hslot' | hj'
    · exact hslot' hslot
    · rw [hj] at hj'
      cases hj'
  cases h with
  | unowned => rfl
  | kept hslot hj => exact Function.update_of_ne (hother hslot hj) _ _
  | settled hslot hj => exact Function.update_of_ne (hother hslot hj) _ _

section callback

variable {snap : Snapshot} {job : Job} {state : PrinterState}

/-- The first branch, taken or not. -/
theorem confirmOwner_run (now : Time) (p : PrinterID) (snap : Snapshot) (hj : d.job id = some job) :
    ∃ j' d', (confirmOwner now p snap id job).run d = (.ok j', d') ∧
      d'.floor = d.floor.setJob id j' ∧ j'.ticket = job.ticket ∧ j'.status = snap.confirmed job.status ∧
      j'.printProgress = snap.progressed job.printProgress ∧ Moves (Act.reports p) d.floor d'.floor := by
  unfold confirmOwner
  by_cases hprint : snap.status = .printing
  · obtain ⟨j', d', hrun, hf, ht, hs, hv, hm⟩ :=
      reportPrinting_run now p snap hj
    refine ⟨j', d', by rw [if_pos hprint, hrun], hf, ht, ?_, hv.trans (if_pos hprint).symm, hm⟩
    rw [hs]
    simp only [Snapshot.confirmed, hprint, true_and]
  · refine ⟨job, d, by rw [if_neg hprint]; rfl, ?_, rfl, ?_, (if_neg hprint).symm, .refl⟩
    · refine Floor.ext (funext fun k => ?_) rfl
      rw [Floor.job_setJob]
      split
      · next heq => rw [heq]; exact hj
      · rfl
    · simp only [Snapshot.confirmed, hprint, false_and, if_false]

/-- FINISH and FAILED settle the job, anything else leaves it alone. -/
theorem reportTerminal_run (now : Time) (hj : d.job id = some job) (hp : d.printers p = state)
    (hslot : state.currentJobId = some id) (hidle : ¬ (snap.gcodeState = .idle ∧ job.status = .printing)) :
    ∃ n d', (reportTerminal now p snap state id job).run d = (.ok n, d') ∧
      ((snap.settled job.status = none ∧ d' = d) ∨
        ∃ new ps j', snap.settled job.status = some (new, ps) ∧ j'.ticket = job.ticket ∧ j'.status = new ∧
          (new = .completed → j'.printProgress = 100) ∧
          d'.floor = (d.floor.setJob id j').setPrinter p (state.blocked now id ps) ∧
          Moves (Act.reports p) d.floor d'.floor) := by
  have hown : (d.floor.printers p).currentJobId = some id := by rw [Db.floor_printers, hp, hslot]
  unfold reportTerminal
  by_cases hfin : snap.gcodeState = .finish ∧ job.status ∈ awaitingReport
  · obtain ⟨j', d₁, hrun, hj', hf⟩ := handlePrintFinished_run now hj hfin.2 hp
    have hset : snap.settled job.status = some (.completed, .idle) := by
      rw [Snapshot.settled, if_neg hidle, if_pos hfin]
    obtain ⟨hat, hedge, hnew⟩ := Snapshot.settled_new hset
    refine ⟨some (.complete id p), d₁, by rw [if_pos hfin, Txn.run_bind_of_ok hrun]; rfl,
      .inr ⟨_, _, j', hset, by rw [hj']; rfl, by rw [hj']; rfl, fun _ => by rw [hj'], hf, ?_⟩⟩
    rw [hf, ← hp, hj']
    exact Moves.one (a := .settle id p .completed .idle) rfl (.settle 100 hj hat hedge hnew hown)
  · by_cases hfail : snap.gcodeState = .failed ∧ job.status ∈ awaitingReport
    · obtain ⟨err, d₁, hrun, hf⟩ := handlePrintFailed_run now hj hfail.2 hp
      have hset : snap.settled job.status = some (.failed, .error) := by
        rw [Snapshot.settled, if_neg hidle, if_neg hfin, if_pos hfail]
      obtain ⟨hat, hedge, hnew⟩ := Snapshot.settled_new hset
      refine ⟨some (.failed id p), d₁, by rw [if_neg hfin, if_pos hfail, Txn.run_bind_of_ok hrun]; rfl,
        .inr ⟨_, _, job.transitioned now .failed err none, hset, rfl, rfl, nofun, hf, ?_⟩⟩
      rw [hf, ← hp]
      exact Moves.one (a := .settle id p .failed .error) rfl
        (.settle job.printProgress hj hat hedge hnew hown)
    · refine ⟨none, d, by rw [if_neg hfin, if_neg hfail]; rfl, .inl ⟨?_, rfl⟩⟩
      rw [Snapshot.settled, if_neg hidle, if_neg hfin, if_neg hfail]

/-- The remaining branches settle the job, or do nothing. -/
theorem settleOwner_run (now : Time) (snap : Snapshot) (hj : d.job id = some job) (hp : d.printers p = state)
    (hslot : state.currentJobId = some id) :
    ∃ n d', (quarantineOwner now p snap state id job >>= fun r =>
        reportTerminal now p snap r.1 id r.2).run d = (.ok n, d') ∧
      ((snap.settled job.status = none ∧ d' = d) ∨
        ∃ new ps j', snap.settled job.status = some (new, ps) ∧ j'.ticket = job.ticket ∧ j'.status = new ∧
          (new = .completed → j'.printProgress = 100) ∧
          d'.floor = (d.floor.setJob id j').setPrinter p (state.blocked now id ps) ∧
          Moves (Act.reports p) d.floor d'.floor) := by
  unfold quarantineOwner
  by_cases hidle : snap.gcodeState = .idle ∧ job.status = .printing
  · obtain ⟨err, d₁, hrun, hf⟩ := reportIdle_run (p := p) now hj hidle.2 hp
    have hset : snap.settled job.status = some (.attention, .error) := if_pos hidle
    refine ⟨none, d₁, ?_, .inr ⟨_, _, job.transitioned now .attention err none, hset, rfl, rfl, nofun, hf, ?_⟩⟩
    · rw [if_pos hidle, Txn.run_bind_of_ok hrun]
      simp [reportTerminal, hidle.1]
    · rw [hf, ← hp]
      exact Moves.one (a := .settle id p .attention .error) rfl
        (.settle job.printProgress hj (by rw [hidle.2]; decide)
          (by rw [hidle.2]; decide) (by decide) (by rw [Db.floor_printers, hp, hslot]))
  · obtain ⟨n, d₁, hrun, hcase⟩ := reportTerminal_run now hj hp hslot hidle
    refine ⟨n, d₁, ?_, hcase⟩
    rw [if_neg hidle, Txn.run_bind_of_ok (Txn.run_pure d (state, job))]
    exact hrun

end callback

/-- The callback goes on with the telemetry stored. -/
theorem onStatusUpdate_run (now : Time) (p : PrinterID) (snap : Snapshot) (d : Db) :
    (onStatusUpdate now p snap).run d = (reportToSlot now p snap (snap.row now (d.printers p))).run
      (d.setPrinter p (snap.row now (d.printers p))) := by
  have hupd : (updatePrinterState now p (d.printers p) fun st =>
      { st with
        status := statusMap snap.status
        printProgress := snap.progress
        nozzleTemp := some snap.nozzleTemp
        bedTemp := some snap.bedTemp }).run d
      = (.ok (snap.row now (d.printers p)), d.setPrinter p (snap.row now (d.printers p))) :=
    updatePrinterState_run now _ rfl
  unfold onStatusUpdate
  rw [Txn.run_bind_of_ok getPrinterState_run]
  exact Txn.run_bind_of_ok hupd

/-- What the callback leaves of the owner of the slot: its confirmed status and progress, or what the report
    settles it to, which is 100 percent for a completed job. -/
def Snapshot.Leaves (snap : Snapshot) (job j' : Job) : Prop :=
  (snap.settled (snap.confirmed job.status) = none ∧ j'.status = snap.confirmed job.status ∧
    j'.printProgress = snap.progressed job.printProgress) ∨
  ∃ new ps, snap.settled (snap.confirmed job.status) = some (new, ps) ∧ j'.status = new ∧
    (new = .completed → j'.printProgress = 100)

/-- The callback of a printer whose slot is owned. -/
theorem onStatusUpdate_owned {snap : Snapshot} {job : Job} {r : Except Exc (Option Notification)}
    (hslot : (d.printers p).currentJobId = some id) (hj : d.job id = some job)
    (h : (onStatusUpdate now p snap).commit d = (r, d')) :
    Reported p snap d.floor d'.floor ∧ Moves (Act.reports p) d.floor d'.floor ∧
      ∃ j', d'.job id = some j' ∧ snap.Leaves job j' := by
  let state := snap.row now (d.printers p)
  have htele : Moves (Act.reports p) d.floor (d.setPrinter p state).floor :=
    Moves.one (a := .telemetry p (statusMap snap.status)) rfl .telemetry
  have hmain := onStatusUpdate_run now p snap d
  have hsome : state.currentJobId = some id := hslot
  unfold reportToSlot at hmain
  rw [hsome] at hmain
  simp only [Txn.run_bind, getJob_run, Db.job_setPrinter] at hmain
  rw [hj] at hmain
  -- the first branch may move the job on; the others look at what it has left
  obtain ⟨j₁, d₁, hrun₁, hf₁, ht₁, hs₁, hv₁, hm₁⟩ := confirmOwner_run (d := d.setPrinter p state) now p snap hj
  have hj₁ : d₁.job id = some j₁ := by
    rw [← Db.floor_job, hf₁]; exact Floor.job_setJob_self ..
  have hp₁ : d₁.printers p = state := by
    rw [← Db.floor_printers, hf₁, Floor.printers_setJob, Db.floor_printers]; simp
  obtain ⟨n, d₂, hrun₂, hcase⟩ := settleOwner_run now snap hj₁ hp₁ hsome
  have hrun : (reportToOwner now p snap state id job).run (d.setPrinter p state) = (.ok n, d₂) := by
    unfold reportToOwner
    rw [Txn.run_bind_of_ok hrun₁]
    exact hrun₂
  rw [Txn.commit_of_ok (hmain.trans hrun)] at h
  obtain ⟨-, rfl⟩ := Prod.mk.inj h
  rcases hcase with ⟨hnone, heq⟩ | ⟨new, ps, j', hset, ht, hs, hv, hf, hm⟩
  · rw [heq]
    refine ⟨?_, htele.trans hm₁, j₁, hj₁, .inl ⟨hs₁ ▸ hnone, hs₁, hv₁⟩⟩
    rw [hf₁]
    exact .kept hslot hj (hs₁ ▸ hnone) ht₁ hs₁
  · have hfinal : d₂.floor = (d.floor.setJob id j').setPrinter p (state.blocked now id ps) := by
      rw [hf, hf₁, Db.floor_setPrinter, Floor.setPrinter_setJob, Floor.setPrinter_setJob,
        Floor.setPrinter_setPrinter, Floor.setJob_setJob]
    refine ⟨?_, (htele.trans hm₁).trans hm, j', ?_, .inr ⟨new, ps, hs₁ ▸ hset, hs, hv⟩⟩
    · rw [hfinal]
      exact .settled hslot hj (hs₁ ▸ hset) (ht.trans ht₁) hs
    · rw [← Db.floor_job, hfinal]
      exact Floor.job_setJob_self ..

/-- The callback of a printer whose slot no job owns stores the telemetry. -/
theorem onStatusUpdate_unowned {snap : Snapshot} {r : Except Exc (Option Notification)}
    (hnone : ∀ id, (d.printers p).currentJobId = some id → d.job id = none)
    (h : (onStatusUpdate now p snap).commit d = (r, d')) : d' = d.setPrinter p (snap.row now (d.printers p)) := by
  have hmain := onStatusUpdate_run now p snap d
  unfold reportToSlot at hmain
  cases hslot : (d.printers p).currentJobId with
  | none =>
      have hsome : (snap.row now (d.printers p)).currentJobId = none := hslot
      rw [hsome] at hmain
      rw [Txn.commit_of_ok (hmain.trans (Txn.run_pure _ _))] at h
      cases h
      rfl
  | some id =>
      have hsome : (snap.row now (d.printers p)).currentJobId = some id := hslot
      rw [hsome] at hmain
      simp only [Txn.run_bind, getJob_run, Db.job_setPrinter] at hmain
      rw [hnone id hslot] at hmain
      rw [Txn.commit_of_ok hmain] at h
      cases h
      rfl

/-- **The callback always succeeds**, and what it leaves is `Reported`. -/
theorem onStatusUpdate_commit {snap : Snapshot} {r : Except Exc (Option Notification)}
    (h : (onStatusUpdate now p snap).commit d = (r, d')) :
    Reported p snap d.floor d'.floor ∧ Moves (Act.reports p) d.floor d'.floor := by
  by_cases hnone : ∀ id, (d.printers p).currentJobId = some id → d.job id = none
  · rw [onStatusUpdate_unowned hnone h]
    exact ⟨.unowned hnone, Moves.one (a := .telemetry p (statusMap snap.status)) rfl .telemetry⟩
  · push Not at hnone
    obtain ⟨id, hslot, hsome⟩ := hnone
    obtain ⟨job, hj⟩ := Option.ne_none_iff_exists'.mp hsome
    obtain ⟨hr, hm, -⟩ := onStatusUpdate_owned hslot hj h
    exact ⟨hr, hm⟩

/-! ## The endpoints for printers -/

/-- The printer row after a plate was cleared. -/
def PrinterState.released (st : PrinterState) (now : Time) : PrinterState :=
  { st with plateCleared := true, currentJobId := none, lastSeen := some now }

/-- Clearing the plate under a job records the inspection and frees the slot. -/
theorem releasePlate_owned_run (now : Time) {state : PrinterState} (hj : d.job id = some j)
    (hp : d.printers p = state) :
    ∃ d', (releasePlate now p state (some (id, j))).run d = (.ok (state.released now), d') ∧
      d'.floor = (d.floor.setJob id (j.inspected now (some attentionResolved))).setPrinter p
        (state.released now) ∧ d'.logs = d.logs := by
  have hres : ∃ j₁, (resolveAttention now id j).run d = (.ok j₁, d.setJob id j₁) ∧
      { j₁ with plateClearedAt := some now } = j.inspected now (some attentionResolved) := by
    by_cases hs : j.status = .attention
    · have hswap := transition_run now (some j) [.attention] .failed (some attentionResolved) none (by decide) hj
        (by simp [hs])
      exact ⟨_, by rw [resolveAttention, if_pos hs, hswap], by rw [Job.inspected, if_pos hs]⟩
    · exact ⟨j, by rw [resolveAttention, if_neg hs, Db.setJob_self hj]; rfl,
        by rw [Job.inspected, if_neg hs]⟩
  obtain ⟨j₁, hres, hins⟩ := hres
  let cleared : PrinterState := { state with plateCleared := true }
  let recorded : Job := { j₁ with plateClearedAt := some now }
  have hset := setPlateCleared_run (d := d.setJob id j₁) (p := p) hp
  have hj₁ : ((d.setJob id j₁).setPrinter p cleared).job id = some j₁ := by simp [hj]
  have hupd := updateJobPlateCleared_run now hj₁
  have hlast := updatePrinterState_run (p := p)
    (d := ((d.setJob id j₁).setPrinter p cleared).setJob id recorded) now
    (fun st => { st with currentJobId := none }) (by simp [cleared]; rfl)
  refine ⟨(((d.setJob id j₁).setPrinter p cleared).setJob id recorded).setPrinter p (state.released now),
    ?_, ?_, rfl⟩
  · unfold releasePlate
    rw [Txn.run_bind_of_ok hres, Txn.run_bind_of_ok hset, Txn.run_bind_of_ok hupd]
    exact hlast
  · rw [Db.floor_setPrinter, Db.floor_setJob hj₁, Db.floor_setPrinter, Db.floor_setJob hj,
      Floor.setPrinter_setJob, Floor.setPrinter_setPrinter, Floor.setJob_setJob, ← hins]

/-- Clearing the plate of an unowned printer. -/
theorem releasePlate_empty_run (now : Time) {state : PrinterState} (hp : d.printers p = state) :
    ∃ d', (releasePlate now p state none).run d = (.ok (state.released now), d') ∧
      d'.floor = d.floor.setPrinter p (state.released now) ∧ d'.logs = d.logs := by
  let cleared : PrinterState := { state with plateCleared := true }
  have hset := setPlateCleared_run (p := p) hp
  have hlast := updatePrinterState_run (p := p) (d := d.setPrinter p cleared) now
    (fun st => { st with currentJobId := none }) (by simp [cleared]; rfl)
  refine ⟨(d.setPrinter p cleared).setPrinter p (state.released now), ?_, ?_, rfl⟩
  · unfold releasePlate
    rw [Txn.run_bind_of_ok hset]
    exact hlast
  · rw [Db.floor_setPrinter, Db.floor_setPrinter, Floor.setPrinter_setPrinter]

/-- Why a plate-cleared request changes nothing. -/
inductive ClearRefused (s : Settings) (p : PrinterID) (d : Db) : Except Exc String → Prop
  | disabled {e : Exc} (h : s.livePrinterEnabled p = false) : ClearRefused s p d (.error e)
  | already (h : (d.printers p).plateCleared = true) : ClearRefused s p d (.ok alreadyCleared)
  | busy {e : Exc} (h : (d.printers p).status ∈ [.printing, .paused]) : ClearRefused s p d (.error e)
  | active {e : Exc} {id : JobId} {j : Job} (hslot : (d.printers p).currentJobId = some id)
      (hj : d.job id = some j) (hs : j.status ∈ [.printing, .starting]) : ClearRefused s p d (.error e)

/-- **A plate-cleared request** is refused, or frees the slot of a printer whose plate was blocked; its log
    entry names no job. -/
theorem markPlateCleared_commit {r : Except Exc String} (h : (markPlateCleared s now p).commit d = (r, d'))
    (howner : ∀ id, (d.printers p).currentJobId = some id → d.job id ≠ none) :
    (d' = d ∧ ClearRefused s p d r) ∨
    ∃ owner, r = .ok s!"Plate cleared on {p.value}. Next job will start shortly." ∧
      (d.printers p).currentJobId = owner ∧ Move (.clear p owner) d.floor d'.floor ∧
      (∃ e : LogEntry, e.jobId = none ∧ d'.logs = d.logs ++ [e]) ∧
      s.livePrinterEnabled p = true ∧ (d.printers p).status ∉ [.printing, .paused] := by
  -- by the checks of the request, in their order
  by_cases hlive : s.livePrinterEnabled p = false
  · have hrun : ∃ e, (markPlateCleared s now p).run d = (.error e, d) := by
      simp [markPlateCleared, hlive]
    obtain ⟨e, hrun⟩ := hrun
    rw [Txn.commit_of_error hrun] at h
    cases h
    exact .inl ⟨rfl, .disabled hlive⟩
  by_cases hplate : (d.printers p).plateCleared = true
  · have hrun : (markPlateCleared s now p).run d = (.ok alreadyCleared, d) := by
      simp [markPlateCleared, hlive, hplate]
    rw [Txn.commit_of_ok hrun] at h
    cases h
    exact .inl ⟨rfl, .already hplate⟩
  by_cases hbusy : (d.printers p).status = .printing ∨ (d.printers p).status = .paused
  · have hrun : ∃ e, (markPlateCleared s now p).run d = (.error e, d) := by
      simp [markPlateCleared, hlive, hplate, hbusy]
    obtain ⟨e, hrun⟩ := hrun
    rw [Txn.commit_of_error hrun] at h
    cases h
    exact .inl ⟨rfl, .busy (by simpa using hbusy)⟩
  cases hslot : (d.printers p).currentJobId with
  | none =>
      obtain ⟨d₁, hrel, hf, hlogs⟩ := releasePlate_empty_run (d := d) (p := p) now rfl
      have hrun : (markPlateCleared s now p).run d = (clearPlate now p (d.printers p) none).run d := by
        simp [markPlateCleared, hlive, hplate, hbusy, hslot]
      rw [clearPlate, Txn.run_bind_of_ok hrel, Txn.run_bind_of_ok addLog_run] at hrun
      rw [Txn.commit_of_ok hrun] at h
      cases h
      refine .inr ⟨none, rfl, rfl, ?_, ⟨_, rfl, by rw [← hlogs]; rfl⟩, by simpa using hlive, by simpa using hbusy⟩
      rw [Db.floor_insertLog, hf]
      exact .clearEmpty (by simpa using hplate) hslot
  | some id =>
      cases hj : d.job id with
      | none => exact absurd hj (howner id hslot)
      | some j =>
          by_cases hs : j.status = .printing ∨ j.status = .starting
          · have hrun : ∃ e, (markPlateCleared s now p).run d = (.error e, d) := by
              simp [markPlateCleared, hlive, hplate, hbusy, hslot, hj, hs]
            obtain ⟨e, hrun⟩ := hrun
            rw [Txn.commit_of_error hrun] at h
            cases h
            exact .inl ⟨rfl, .active hslot hj (by simpa using hs)⟩
          · obtain ⟨d₁, hrel, hf, hlogs⟩ := releasePlate_owned_run (d := d) (p := p) now hj rfl
            have hrun : (markPlateCleared s now p).run d
                = (clearPlate now p (d.printers p) (some (id, j))).run d := by
              simp [markPlateCleared, hlive, hplate, hbusy, hslot, hj, hs]
            rw [clearPlate, Txn.run_bind_of_ok hrel, Txn.run_bind_of_ok addLog_run] at hrun
            rw [Txn.commit_of_ok hrun] at h
            cases h
            refine .inr ⟨some id, rfl, rfl, ?_, ⟨_, rfl, by rw [← hlogs]; rfl⟩, by simpa using hlive,
              by simpa using hbusy⟩
            rw [Db.floor_insertLog, hf]
            exact .clearOwned (by simpa using hplate) hslot hj (by simpa using hs)

/-- The checks of an idle acknowledgement write nothing. -/
theorem acknowledgeChecks_commit {r : Except Exc Unit} (h : (acknowledgeChecks s p).commit d = (r, d')) :
    d' = d := by
  obtain ⟨a, rfl, hrun⟩ | ⟨e, d₁, rfl, hd, hrun⟩ := Txn.commit_cases h
  · unfold acknowledgeChecks at hrun
    by_cases hlive : s.livePrinterEnabled p = false
    · rw [if_pos hlive] at hrun
      cases hrun
    · rw [if_neg hlive, Txn.run_bind_of_ok getPrinterState_run] at hrun
      simp only [Txn.run_ite, Txn.run_throw, Txn.run_pure] at hrun
      split at hrun
      · cases hrun
      · split at hrun <;> cases hrun
        rfl
  · exact hd

/-- Nor does the log entry that ends it, as far as the floor is concerned. -/
theorem logAcknowledged_commit {r : Except Exc Unit} (h : (logAcknowledged now p).commit d = (r, d')) :
    d'.floor = d.floor := by
  cases h
  rfl

/-! ## Restart reconciliation -/

/-- The moves of `reconcile_interrupted_jobs`. -/
def Act.recovers : Act → Prop
  | .swap _ old new => (old = .analysing ∨ old = .slicing) ∧ new = .pending
  | .settle _ _ new status => new = .attention ∧ status = .error
  | .restore _ _ => True
  | .progress _ => True
  | _ => False

/-- A loop over listed rows: each body meets the row it was listed with, and makes recovery moves. -/
theorem forM_rows_run (body : JobId × Job → Tx PUnit) (Q : Job → Prop)
    (hbody : ∀ d id j, FloorInv d.floor → d.job id = some j → Q j →
      ∃ d', (body (id, j)).run d = (.ok ⟨⟩, d') ∧ Moves Act.recovers d.floor d'.floor ∧
        ∀ k, k ≠ id → d'.job k = d.job k)
    {rows : List (JobId × Job)} (hnd : (rows.map Prod.fst).Nodup) (hI : FloorInv d.floor)
    (hrows : ∀ r ∈ rows, d.job r.1 = some r.2 ∧ Q r.2) :
    ∃ d', (rows.forM body).run d = (.ok ⟨⟩, d') ∧ Moves Act.recovers d.floor d'.floor := by
  obtain ⟨d', hrun, -, hm, -⟩ := Txn.run_forM_ok (f := body)
    (fun rest d' => (rest.map Prod.fst).Nodup ∧ Moves Act.recovers d.floor d'.floor ∧
      ∀ r ∈ rest, d'.job r.1 = some r.2 ∧ Q r.2) (fun row rest d₁ hinv => by
        obtain ⟨hnd, hm, hrows⟩ := hinv
        obtain ⟨id, j⟩ := row
        rw [List.map_cons, List.nodup_cons] at hnd
        obtain ⟨hj, hq⟩ := hrows (id, j) List.mem_cons_self
        obtain ⟨d₂, hrun, hm', hframe⟩ := hbody d₁ id j (hm.inv hI) hj hq
        refine ⟨d₂, hrun, hnd.2, hm.trans hm', fun r hr => ?_⟩
        have hne : r.1 ≠ id := fun heq => hnd.1 (heq ▸ List.mem_map.mpr ⟨r, hr, rfl⟩)
        obtain ⟨hjr, hqr⟩ := hrows r (List.mem_cons_of_mem _ hr)
        exact ⟨(hframe r.1 hne).trans hjr, hqr⟩) rows d ⟨hnd, .refl, hrows⟩
  exact ⟨d', hrun, hm⟩

theorem recoverRetryable_run (now : Time) (hj : d.job id = some j)
    (hs : j.status = .analysing ∨ j.status = .slicing) :
    ∃ d', (recoverRetryable now (id, j)).run d = (.ok ⟨⟩, d') ∧ Moves Act.recovers d.floor d'.floor ∧
      ∀ k, k ≠ id → d'.job k = d.job k := by
  have hedge : .pending ∈ allowedJobTransitions j.status := by
    rcases hs with hs | hs <;> rw [hs] <;> decide
  have hswap := transition_run now (some j) [j.status] .pending none none (by simpa using hedge) hj (by simp)
  have hrun : ∃ e, (recoverRetryable now (id, j)).run d
      = (.ok ⟨⟩, (d.setJob id (j.transitioned now .pending none none)).insertLog e) :=
    ⟨_, by unfold recoverRetryable; simp only; rw [Txn.run_bind_of_ok hswap]; rfl⟩
  obtain ⟨e, hrun⟩ := hrun
  refine ⟨_, hrun, ?_, fun k hk => by simp [hk]⟩
  rw [Db.floor_insertLog, Db.floor_setJob hj]
  exact Moves.one (a := .swap id j.status .pending) ⟨hs, rfl⟩ (.swap hj hedge (by decide))

theorem quarantineInterrupted_run (now : Time) (hI : FloorInv d.floor) (hj : d.job id = some j)
    (hs : j.status = .uploading ∨ j.status = .starting) :
    ∃ d', (quarantineInterrupted now (id, j)).run d = (.ok ⟨⟩, d') ∧ Moves Act.recovers d.floor d'.floor ∧
      ∀ k, k ≠ id → d'.job k = d.job k := by
  have hat : j.status ∈ atPrinter := by rcases hs with hs | hs <;> rw [hs] <;> decide
  have hedge : .attention ∈ allowedJobTransitions j.status := by
    rcases hs with hs | hs <;> rw [hs] <;> decide
  obtain ⟨p, hp, hslot⟩ := hI.holds id j hj hat
  have hswap := fun msg => transition_run now (some j) [j.status] .attention (some msg) none
    (by simpa using hedge) hj (by simp)
  have hrun : ∃ err e, (quarantineInterrupted now (id, j)).run d
      = (.ok ⟨⟩, ((d.setJob id (j.transitioned now .attention (some err) none)).setPrinter p
          ((d.printers p).blocked now id .error)).insertLog e) :=
    ⟨_, _, by
      unfold quarantineInterrupted
      simp only [hp]
      rw [Txn.run_bind_of_ok (hswap _), Txn.run_bind_of_ok loadAndUpdatePrinterState_run]
      rfl⟩
  obtain ⟨err, e, hrun⟩ := hrun
  refine ⟨_, hrun, ?_, fun k hk => by simp [hk]⟩
  rw [Db.floor_insertLog, Db.floor_setPrinter, Db.floor_setJob hj]
  exact Moves.one (a := .settle id p .attention .error) ⟨rfl, rfl⟩
    (.settle j.printProgress hj hat hedge (by decide) hslot)

theorem restorePrinting_run (now : Time) (hI : FloorInv d.floor) (hj : d.job id = some j)
    (hs : j.status = .printing) :
    ∃ d', (restorePrinting now (id, j)).run d = (.ok ⟨⟩, d') ∧ Moves Act.recovers d.floor d'.floor ∧
      ∀ k, k ≠ id → d'.job k = d.job k := by
  obtain ⟨p, hp, hslot⟩ := hI.holds id j hj (by rw [hs]; decide)
  have hrun : (restorePrinting now (id, j)).run d
      = (.ok ⟨⟩, d.setPrinter p ((d.printers p).blocked now id .printing)) := by
    unfold restorePrinting
    simp only [hp]
    rw [Txn.run_bind_of_ok loadAndUpdatePrinterState_run]
    rfl
  refine ⟨_, hrun, ?_, fun k _ => rfl⟩
  rw [Db.floor_setPrinter]
  exact Moves.one (a := .restore id p) trivial (.restore hj hs hslot)

theorem repairProgress_run (hj : d.job id = some j) :
    ∃ d', (repairProgress (id, j)).run d = (.ok ⟨⟩, d') ∧ Moves Act.recovers d.floor d'.floor ∧
      ∀ k, k ≠ id → d'.job k = d.job k := by
  unfold repairProgress
  by_cases hp : j.printProgress ≠ 100
  · simp only [if_pos hp]
    rw [Txn.run_bind_of_ok (updateJobProgress_run hj)]
    refine ⟨_, rfl, ?_, fun k hk => by simp [hk]⟩
    rw [Db.floor_setJob hj]
    exact Moves.one (a := .progress id) trivial (.progress hj)
  · simp only [if_neg hp]
    exact ⟨d, rfl, .refl, fun _ _ => rfl⟩

/-- **Reconciliation always succeeds** from a disciplined floor, and makes recovery moves only. -/
theorem reconcileInterruptedJobs_commit {r : Except Exc PUnit}
    (h : (reconcileInterruptedJobs now).commit d = (r, d')) (hI : FloorInv d.floor) :
    r = .ok ⟨⟩ ∧ Moves Act.recovers d.floor d'.floor := by
  have hlist : ∀ (d : Db) (q : Job → Bool), ∀ r ∈ d.jobsWhere q bySubmission,
      d.job r.1 = some r.2 ∧ q r.2 = true := fun d q r hr => mem_jobsWhere.mp hr
  obtain ⟨d₁, h₁, hm₁⟩ := forM_rows_run (recoverRetryable now)
    (fun j => j.status = .analysing ∨ j.status = .slicing)
    (fun d id j _ hj hs => recoverRetryable_run now hj hs)
    (Db.jobsWhere_nodup d (fun j => j.status ∈ [.analysing, .slicing]) bySubmission) hI
    (fun r hr => by simpa using hlist d _ r hr)
  obtain ⟨d₂, h₂, hm₂⟩ := forM_rows_run (quarantineInterrupted now)
    (fun j => j.status = .uploading ∨ j.status = .starting)
    (fun d id j hI hj hs => quarantineInterrupted_run now hI hj hs)
    (Db.jobsWhere_nodup d₁ (fun j => j.status ∈ [.uploading, .starting]) bySubmission) (hm₁.inv hI)
    (fun r hr => by simpa using hlist d₁ _ r hr)
  obtain ⟨d₃, h₃, hm₃⟩ := forM_rows_run (restorePrinting now)
    (fun j => j.status = .printing)
    (fun d id j hI hj hs => restorePrinting_run now hI hj hs)
    (Db.jobsWhere_nodup d₂ (fun j => j.status = .printing) bySubmission) (hm₂.inv (hm₁.inv hI))
    (fun r hr => by simpa using hlist d₂ _ r hr)
  obtain ⟨d₄, h₄, hm₄⟩ := forM_rows_run repairProgress
    (fun j => j.status = .completed)
    (fun d id j _ hj _ => repairProgress_run hj)
    (Db.jobsWhere_nodup d₃ (fun j => j.status = .completed) bySubmission) (hm₃.inv (hm₂.inv (hm₁.inv hI)))
    (fun r hr => by simpa using hlist d₃ _ r hr)
  have hrun : (reconcileInterruptedJobs now).run d = (.ok ⟨⟩, d₄) := by
    unfold reconcileInterruptedJobs
    rw [Txn.run_bind_of_ok (getJobsInStatuses_run d _), Txn.run_bind_of_ok h₁,
      Txn.run_bind_of_ok (getJobsInStatuses_run d₁ _), Txn.run_bind_of_ok h₂,
      Txn.run_bind_of_ok (getJobsByStatus_run d₂ _), Txn.run_bind_of_ok h₃,
      Txn.run_bind_of_ok (getJobsByStatus_run d₃ _)]
    exact h₄
  rw [Txn.commit_of_ok hrun] at h
  cases h
  exact ⟨rfl, ((hm₁.trans hm₂).trans hm₃).trans hm₄⟩

end BambuBabu
