import BambuBabu.Core.Complexity
import BambuBabu.Core.Slicer
import BambuBabu.Core.PrinterManager

/-!
# `Core.QueueProcessor` — the transactions of `backend/core/queue_processor.py`

Every `with SessionLocal.begin()` block of the queue processor is one transaction program here. What happens
between two blocks of one worker (analysis, slicing, FTPS, MQTT) and the order of the blocks is the worker's
program counter, in `Service.Step`.
-/

namespace BambuBabu

open Storage

/-! ## Restart reconciliation -/

/-- First loop of `reconcile_interrupted_jobs`: safe CPU work goes back to PENDING. -/
def recoverRetryable (now : Time) (row : JobId × Job) : Tx PUnit := do
  let (id, job) := row
  let _ ← transitionJobStatus now (some job) id [job.status] .pending none none
  addLog now "JOB_RECOVERED" s!"Restart recovered {job.status.value} job; analysis/slicing will retry"
    .warning (some id) none none

/-- Second loop: an interrupted handoff is quarantined and blocks its printer. -/
def quarantineInterrupted (now : Time) (row : JobId × Job) : Tx PUnit := do
  let (id, job) := row
  let _ ← transitionJobStatus now (some job) id [job.status] .attention
    (some ("Service restarted during printer handoff. Verify the physical printer " ++
      "before clearing the plate or cancelling this job.")) none
  match job.assignedPrinter with
  | some p =>
    let _ ← loadAndUpdatePrinterState now p fun st =>
      { st with currentJobId := some id, plateCleared := false, status := .error }
    pure ()
  | none => pure ()
  addLog now "JOB_REQUIRES_ATTENTION" s!"Restart interrupted {job.status.value}; dispatch is blocked"
    .error (some id) (job.assignedPrinter.map PrinterID.value) none

/-- Third loop: a printing job gets its printer's slot back. -/
def restorePrinting (now : Time) (row : JobId × Job) : Tx PUnit := do
  let (id, job) := row
  match job.assignedPrinter with
  | some p =>
    let _ ← loadAndUpdatePrinterState now p fun st =>
      { st with currentJobId := some id, plateCleared := false, status := .printing }
    pure ()
  | none => pure ()

/-- Fourth loop: a completed job is at 100 percent. -/
def repairProgress (row : JobId × Job) : Tx PUnit := do
  let (id, job) := row
  if job.printProgress ≠ 100 then
    let _ ← updateJobProgress id job 100
    pure ()
  else pure ()

/-- `reconcile_interrupted_jobs` -/
def reconcileInterruptedJobs (now : Time) : Tx PUnit := do
  let retryable ← getJobsInStatuses [.analysing, .slicing]
  retryable.forM (recoverRetryable now)
  let ambiguous ← getJobsInStatuses [.uploading, .starting]
  ambiguous.forM (quarantineInterrupted now)
  let printing ← getJobsByStatus .printing
  printing.forM (restorePrinting now)
  let completed ← getJobsByStatus .completed
  completed.forM repairProgress

/-! ## Analysis and slicing -/

/-- First block of `_slice_pipeline`; the result is `stl_path`. -/
def startAnalysis (now : Time) (id : JobId) : Tx String := do
  let job ← transitionJobStatus now none id [.pending] .analysing none none
  addLog now "ANALYSIS_STARTED" s!"Analysing {job.originalFilename}" .info (some id) none none
  pure job.stlPath

/-- Second block: reject the job or plan it for a printer. `false` is an early return. -/
def planSlice (now : Time) (id : JobId) (analysis : Analysis)
    (choice : Option PrinterID × Option String) : Tx Bool := do
  match ← getJob id with
  | none => pure false
  | some job =>
    if job.status ≠ .analysing then pure false
    else
      match choice with
      | (_, some rejection) =>
        let _ ← transitionJobStatus now (some job) id [.analysing] .rejected none (some rejection)
        addLog now "JOB_REJECTED" rejection .warning (some id) none none
        pure false
      | (none, none) => throw (.runtimeError "Printer selection returned no printer or rejection")
      | (some p, none) =>
        let job ← updateJobAnalysis id job analysis p
        let _ ← transitionJobStatus now (some job) id [.analysing] .slicing none none
        addLog now "ANALYSIS_DONE"
          s!"Score={fixedPoint 1 analysis.complexityScore}; preferred={p.value}" .info (some id) none
          (some analysis)
        pure true

/-- Third block: store the slice and queue the job. -/
def storeSlice (now : Time) (id : JobId) (p : PrinterID) (slicedPath : String)
    (estimatedMinutes : Option Nat) : Tx Unit := do
  match ← getJob id with
  | none => pure ()
  | some job =>
    if job.status ≠ .slicing then pure ()
    else
      let job ← updateJobSliced id job slicedPath estimatedMinutes
      let _ ← transitionJobStatus now (some job) id [.slicing] .queued none none
      let estimate := orElseText estimatedMinutes "unknown"
      addLog now "JOB_QUEUED" s!"Queued for {p.value}; estimate={estimate} min" .info (some id)
        (some p.value) none

/-- `_fail_job`, once the job has been read; the lost swap is caught. -/
def failLoaded (now : Time) (id : JobId) (message : String) (job : Job) : Tx Unit := do
  if job.status ∈ terminalJobStatuses then pure ()
  else
    -- the status that was just read is the one that is swapped
    let swapped ← trySwap now job id job.status .failed (some message)
    if swapped then addLog now "JOB_FAILED" message .error (some id) none none else pure ()

/-- `_fail_job` -/
def failJob (now : Time) (id : JobId) (message : String) : Tx Unit := do
  match ← getJob id with
  | none => pure ()
  | some job => failLoaded now id message job

/-! ## Fallback re-slicing -/

/-- First block of `_reslice_for_fallback`; `none` is an early return. -/
def checkReslice (id : JobId) : Tx (Option String) := do
  match ← getJob id with
  | none => pure none
  | some job => if job.status ≠ .slicing then pure none else pure (some job.stlPath)

/-- Second block: reassign, store the slice, queue. -/
def storeReslice (now : Time) (id : JobId) (p : PrinterID) (slicedPath : String)
    (estimatedMinutes : Option Nat) : Tx Unit := do
  match ← getJob id with
  | none => pure ()
  | some job =>
    if job.status ≠ .slicing then pure ()
    else
      let job ← updateJobAssignment id job p
      let job ← updateJobSliced id job slicedPath estimatedMinutes
      let _ ← transitionJobStatus now (some job) id [.slicing] .queued none none
      addLog now "JOB_REROUTED" s!"Re-sliced for available {p.value}" .info (some id) (some p.value) none

/-- The prefix `_try_schedule_fallback` looks for. -/
def fallbackFailedPrefix : String := "Fallback slicing failed;"

/-- The exception block: back to the original queue, marked so that fallback is not tried again. -/
def abortReslice (now : Time) (id : JobId) (exc : String) : Tx Unit := do
  match ← getJob id with
  | none => pure ()
  | some job =>
    if job.status = .slicing then
      let message := fallbackFailedPrefix ++ " retained the original printer queue " ++
        s!"without retrying fallback automatically: {exc}"
      let job ← transitionJobStatus now (some job) id [.slicing] .queued (some message) none
      addLog now "FALLBACK_ABORTED" message .warning (some id)
        (job.assignedPrinter.map PrinterID.value) none
    else pure ()

/-- A printer that is idle, cleared and unowned. -/
def PrinterState.available (st : PrinterState) : Bool :=
  decide (st.status = .idle) && st.plateCleared && st.currentJobId.isNone

/-- `None not in bbox.values() and can_fit_on_printer(bbox, target)` -/
def Job.fitsOn (s : Settings) (target : PrinterID) (job : Job) : Bool :=
  match job.bboxX, job.bboxY, job.bboxZ with
  | some x, some y, some z => canFitOnPrinter s ⟨x, y, z⟩ target
  | _, _, _ => false

/-- The `for job in candidates` loop of `_try_schedule_fallback`: the first eligible job is reserved as
    SLICING. `reserved` is `_slicing_jobs`; a lost swap gives its reservation back and goes on. -/
def reserveCandidate (s : Settings) (now : Time) (target : PrinterID) (reserved : JobId → Bool) :
    List (JobId × Job) → Tx (Option JobId)
  | [] => pure none
  | (id, job) :: rest => do
    let retryBarred := job.errorMessage.any fun m => startsWith fallbackFailedPrefix m
    if retryBarred then reserveCandidate s now target reserved rest
    else
      match job.assignedPrinter with
      -- no candidate is unassigned: `!=` is not true of NULL
      | none => throw (.other "'NoneType' object has no attribute 'value'")
      | some source =>
        let sourceState ← getPrinterState source
        let sourceAvailable := s.printerEnabled source && sourceState.any PrinterState.available
        -- the source is looked at here only, and not when the slice is stored
        if sourceAvailable || !job.fitsOn s target || reserved id then
          reserveCandidate s now target reserved rest
        else
          let swapped ← trySwap now job id .queued .slicing none
          if swapped then
            addLog now "FALLBACK_SCHEDULED" s!"{source.value} unavailable; preparing {target.value}" .info
              (some id) (some target.value) none
            pure (some id)
          else reserveCandidate s now target reserved rest

/-- `_try_schedule_fallback` up to its `submit`: the job reserved for the target. -/
def tryScheduleFallback (s : Settings) (now : Time) (target : PrinterID) (reserved : JobId → Bool) :
    Tx (Option JobId) := do
  if s.printerEnabled target = false then pure none
  else
    match ← getPrinterState target with
    | none => pure none
    | some st =>
      if st.available = false then pure none
      else
        let candidates ← Txn.select fun d =>
          d.jobsWhere (fun j => j.status = .queued ∧ j.assignedPrinter.any (· ≠ target)) byEstimate
        reserveCandidate s now target reserved candidates

/-! ## Dispatch and handoff -/

/-- `_try_dispatch` up to its `submit`: the dispatched job and its sliced path. -/
def tryDispatch (s : Settings) (now : Time) (p : PrinterID) : Tx (Option (JobId × Option String)) := do
  if s.printerEnabled p = false then pure none
  else
    match ← getPrinterState p with
    | none => pure none
    | some state =>
      if state.available = false then pure none
      else
        match ← getNextQueuedJobForPrinter p with
        | none => pure none
        | some (id, job) =>
          let swapped ← trySwap now job id .queued .uploading none
          if swapped then
            let _ ← updatePrinterState now p state fun st => { st with currentJobId := some id }
            addLog now "UPLOADING" s!"Uploading to {p.value}" .info (some id) (some p.value) none
            -- the path is the one of the row that was read before the swap
            pure (some (id, job.slicedPath))
          else pure none

/-- The block after `upload_file` in `_upload_start_and_confirm`. -/
def requestStart (now : Time) (id : JobId) (p : PrinterID) : Tx Unit := do
  let _ ← transitionJobStatus now none id [.uploading] .starting none none
  addLog now "PRINT_START_REQUESTED" s!"Requesting start on {p.value}" .info (some id) (some p.value) none

/-- The block after `start_print_and_confirm` returned, once the job has been read. -/
def confirmLoaded (now : Time) (id : JobId) (p : PrinterID) (job : Job) : Tx Unit := do
  if job.status = .starting then
    let _ ← transitionJobStatus now (some job) id [.starting] .printing none none
    addLog now "PRINT_CONFIRMED" s!"Printer confirmed start on {p.value}" .info (some id) (some p.value)
      none
    let _ ← loadAndUpdatePrinterState now p fun st => { st with plateCleared := false }
    pure ()
  -- PRINTING: a report has confirmed the start before the worker did
  else if job.status ≠ .printing then pure ()
  else
    let _ ← loadAndUpdatePrinterState now p fun st => { st with plateCleared := false }
    pure ()

/-- The block after `start_print_and_confirm` returned. -/
def confirmStart (now : Time) (id : JobId) (p : PrinterID) : Tx Unit := do
  match ← getJob id with
  | none => pure ()
  | some job => confirmLoaded now id p job

/-- The block of `except (PrintStartUnconfirmed, PrintStartRejected)`, once the job has been read. -/
def quarantineLoaded (now : Time) (id : JobId) (p : PrinterID) (exc : Exc) (job : Job) : Tx Unit := do
  if job.status = .starting then
    let _ ← transitionJobStatus now (some job) id [.starting] .attention (some exc.str) none
    let _ ← loadAndUpdatePrinterState now p fun st =>
      { st with status := .error, plateCleared := false, currentJobId := some id }
    addLog now "PRINT_START_UNCONFIRMED" exc.str .error (some id) (some p.value) none
  else pure ()

/-- The block of `except (PrintStartUnconfirmed, PrintStartRejected)`. -/
def quarantineStart (now : Time) (id : JobId) (p : PrinterID) (exc : Exc) : Tx Unit := do
  match ← getJob id with
  | none => pure ()
  | some job => quarantineLoaded now id p exc job

/-- The second block of the generic `except Exception`: clear only when no ambiguous start remains. -/
def releaseFailed (now : Time) (id : JobId) (p : PrinterID) : Tx Unit := do
  let state ← getPrinterState p
  let job ← getJob id
  match state, job with
  | some state, some job =>
    -- a job that an ambiguous start has quarantined keeps its printer
    if state.currentJobId = some id ∧ job.status = .failed then
      let _ ← updatePrinterState now p state fun st =>
        { st with currentJobId := none, plateCleared := true, status := .idle }
      pure ()
    else pure ()
  | _, _ => pure ()

end BambuBabu
