import BambuBabu.Core.PrinterManager

/-!
# `Api.Printers` — the write endpoints of `backend/api/printers.py`

An unknown printer id is answered with 400 before anything is read, so the model starts at a `PrinterID`.
-/

namespace BambuBabu

open Storage

/-- The error message of a quarantined job whose plate was cleared. -/
def attentionResolved : String :=
  "Admin inspected the ambiguous printer state and cleared the plate; " ++
    "the interrupted job was not automatically retried."

/-- Clearing the plate resolves a quarantined job to FAILED. -/
def resolveAttention (now : Time) (id : JobId) (job : Job) : Tx Job := do
  if job.status = .attention then
    transitionJobStatus now (some job) id [.attention] .failed (some attentionResolved) none
  else pure job

/-- The row updates of `mark_plate_cleared`, after its checks. -/
def releasePlate (now : Time) (p : PrinterID) (state : PrinterState) :
    Option (JobId × Job) → Tx PrinterState
  | some (id, job) => do
    let job ← resolveAttention now id job
    let state ← setPlateCleared p state
    let _ ← updateJobPlateCleared now id job
    updatePrinterState now p state fun st => { st with currentJobId := none }
  | none => do
    let state ← setPlateCleared p state
    updatePrinterState now p state fun st => { st with currentJobId := none }

/-- The writes of `mark_plate_cleared` and its answer. -/
def clearPlate (now : Time) (p : PrinterID) (state : PrinterState) (current : Option (JobId × Job)) :
    Tx String := do
  let _ ← releasePlate now p state current
  addLog now "PLATE_CLEARED" s!"Plate cleared on {p.value} by admin" .info none (some p.value) none
  pure s!"Plate cleared on {p.value}. Next job will start shortly."

/-- The answer of a request that found the plate already clear. -/
def alreadyCleared : String := "Plate was already marked as cleared"

/-- `mark_plate_cleared` -/
def markPlateCleared (s : Settings) (now : Time) (p : PrinterID) : Tx String := do
  if s.livePrinterEnabled p = false then
    throw (.httpException 409 "Printer is disabled in this deployment")
  else
    match ← getPrinterState p with
    | none => throw (.httpException 404 "Printer state not found")
    | some state =>
      -- a set flag ends the request, whoever owns the slot
      if state.plateCleared then pure alreadyCleared
      else if state.status = .printing ∨ state.status = .paused then
        throw (.httpException 409 "Cannot clear the plate while the printer is active")
      else
        match state.currentJobId with
        | none => clearPlate now p state none
        | some id =>
          match ← getJob id with
          -- a slot that names no job is cleared like an empty one
          | none => clearPlate now p state none
          | some job =>
            if job.status = .printing ∨ job.status = .starting then
              throw (.httpException 409 "Cannot clear the plate while the job is active")
            else clearPlate now p state (some (id, job))

/-- The checks `acknowledge_physically_idle` makes before it asks the live client. -/
def acknowledgeChecks (s : Settings) (p : PrinterID) : Tx Unit := do
  if s.livePrinterEnabled p = false then
    throw (.httpException 409 "Printer is disabled in this deployment")
  else
    match ← getPrinterState p with
    | none => throw (.httpException 404 "Printer state not found")
    | some state =>
      if state.currentJobId.isSome then
        throw (.httpException 409 "Cannot acknowledge idle while a job owns the printer")
      else if state.plateCleared = false then
        throw (.httpException 409 "Physically clear and confirm the plate first")
      else pure ()

/-- The log entry `acknowledge_physically_idle` commits after the live client has answered. -/
def logAcknowledged (now : Time) (p : PrinterID) : Tx Unit :=
  addLog now "PRINTER_IDLE_ACKNOWLEDGED"
    s!"Admin physically inspected {p.value} and acknowledged stale FAILED state" .info none (some p.value)
    none

end BambuBabu
