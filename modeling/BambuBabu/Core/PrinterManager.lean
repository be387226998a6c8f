import BambuBabu.Core.Printer

/-!
# `Core.PrinterManager` — durable status callbacks of `backend/core/printer_manager.py`

`onStatusUpdate` is the transaction every live snapshot ends in. Its three branches on the job that owns
the slot are definitions of their own, as they are methods or blocks of their own in the source.
-/

namespace BambuBabu

open Storage

/-- `status_map.get(snapshot["status"], PrinterStatus.OFFLINE)` -/
def statusMap : LiveStatus → PrinterStatus
  | .idle => .idle
  | .printing => .printing
  | .paused => .paused
  | .error => .error
  | .offline => .offline
  | .finished => .idle

/-- The lifecycle email to send after the commit. -/
inductive Notification where
  | complete (jobId : JobId) (p : PrinterID)
  | failed (jobId : JobId) (p : PrinterID)
  deriving DecidableEq, Repr

/-- The statuses a terminal report acts on. -/
def awaitingReport : List JobStatus := [.starting, .printing, .attention]

/-- `if job and snapshot["status"] == "printing"`: confirm or recover the job, then store the progress. A
    lost swap is caught and leaves the loaded row as it was. -/
def reportPrinting (now : Time) (p : PrinterID) (snap : Snapshot) (id : JobId) (job : Job) : Tx Job := do
  let job ←
    if job.status = .starting ∨ job.status = .attention then
      tryCatch
        (do
          let moved ← transitionJobStatus now (some job) id [job.status] .printing none none
          let event := if job.status = .starting then "PRINT_CONFIRMED" else "PRINT_RECOVERED"
          addLog now event s!"Printer confirmed {snap.gcodeState.value} on {p.value}" .info (some id)
            (some p.value) none
          pure moved)
        fun e => match e with
          -- the row stays as it was loaded, and the later branches look at that
          | .jobTransitionError _ => pure job
          | e => throw e
    else pure job
  updateJobProgress id job snap.progress

/-- `if job and gcode_state == "IDLE" and job.status == PRINTING`: IDLE without FINISH is ambiguous. -/
def reportIdle (now : Time) (p : PrinterID) (state : PrinterState) (id : JobId) (job : Job) :
    Tx (PrinterState × Job) := do
  let job ← transitionJobStatus now (some job) id [.printing] .attention
    (some ("Printer became IDLE without a FINISH report. Inspect the printer " ++
      "and plate before resolving this job.")) none
  let state ← updatePrinterState now p state fun st =>
    { st with status := .error, plateCleared := false, currentJobId := some id }
  addLog now "PRINT_COMPLETION_UNCONFIRMED"
    "Printer reported IDLE without FINISH; dispatch remains blocked" .error (some id) (some p.value) none
  pure (state, job)

/-- `_handle_print_finished`; `current_job_id` is kept until physical clearance. -/
def handlePrintFinished (now : Time) (p : PrinterID) (state : PrinterState) (id : JobId) (job : Job) :
    Tx Unit := do
  let job ← transitionJobStatus now (some job) id [job.status] .completed none none
  let _ ← updateJobProgress id job 100
  let _ ← updatePrinterState now p state fun st =>
    -- the slot stays taken until somebody has cleared the plate
    { st with status := .idle, plateCleared := false, currentJobId := some id }
  addLog now "PRINT_FINISHED" s!"Print completed on {p.value}; plate clearance required" .info (some id)
    (some p.value) none

/-- `_handle_print_failed` -/
def handlePrintFailed (now : Time) (p : PrinterID) (state : PrinterState) (id : JobId) (job : Job) :
    Tx Unit := do
  let _ ← transitionJobStatus now (some job) id [job.status] .failed
    (some "Printer reported FAILED via MQTT") none
  let _ ← updatePrinterState now p state fun st =>
    { st with status := .error, plateCleared := false, currentJobId := some id }
  addLog now "PRINT_FAILED" s!"Print failed on {p.value}; inspection required" .error (some id)
    (some p.value) none

/-- The last two branches: FINISH completes, FAILED fails. -/
def reportTerminal (now : Time) (p : PrinterID) (snap : Snapshot) (state : PrinterState) (id : JobId)
    (job : Job) : Tx (Option Notification) := do
  if snap.gcodeState = .finish ∧ job.status ∈ awaitingReport then
    handlePrintFinished now p state id job
    pure (some (.complete id p))
  else if snap.gcodeState = .failed ∧ job.status ∈ awaitingReport then
    handlePrintFailed now p state id job
    pure (some (.failed id p))
  else pure none

/-- The first branch of the callback for the job that owns the slot. -/
def confirmOwner (now : Time) (p : PrinterID) (snap : Snapshot) (id : JobId) (job : Job) : Tx Job :=
  if snap.status = .printing then reportPrinting now p snap id job else pure job

/-- The second branch. -/
def quarantineOwner (now : Time) (p : PrinterID) (snap : Snapshot) (state : PrinterState) (id : JobId)
    (job : Job) : Tx (PrinterState × Job) :=
  if snap.gcodeState = .idle ∧ job.status = .printing then reportIdle now p state id job
  else pure (state, job)

/-- The branches of the callback for the job that owns the slot. -/
def reportToOwner (now : Time) (p : PrinterID) (snap : Snapshot) (state : PrinterState) (id : JobId)
    (job : Job) : Tx (Option Notification) := do
  let job ← confirmOwner now p snap id job
  let (state, job) ← quarantineOwner now p snap state id job
  reportTerminal now p snap state id job

/-- The part of `_on_status_update` after the telemetry, which concerns the owner of the slot. -/
def reportToSlot (now : Time) (p : PrinterID) (snap : Snapshot) (state : PrinterState) :
    Tx (Option Notification) := do
  match state.currentJobId with
  | none => pure none
  | some id =>
    match ← getJob id with
    | none => pure none
    | some job => reportToOwner now p snap state id job

/-- `_on_status_update`: the telemetry, then the job that owns the slot. -/
def onStatusUpdate (now : Time) (p : PrinterID) (snap : Snapshot) : Tx (Option Notification) := do
  match ← getPrinterState p with
  | none => pure none
  | some state =>
    let state ← updatePrinterState now p state fun st =>
      { st with
        status := statusMap snap.status
        printProgress := snap.progress
        nozzleTemp := some snap.nozzleTemp
        bedTemp := some snap.bedTemp }
    reportToSlot now p snap state

end BambuBabu
