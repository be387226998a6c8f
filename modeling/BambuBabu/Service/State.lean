import BambuBabu.Api.Jobs
import BambuBabu.Api.Printers
import BambuBabu.Core.QueueProcessor

/-!
# `Service.State` — the running service

The state of the whole system between two transactions: the committed database, the live clients, and where
every thread is. A thread's position names the block it executes next and holds the local variables that the
rest of its function still reads.

`history` is not part of the program. It records, newest first, the calls and commits that statements about
runs refer to.
-/

namespace BambuBabu

/-- A call of the service to the outside, or a commit, that has happened. -/
inductive Occurrence where
  /-- `slice_stl(stl_path, p, SLICED_DIR)` returned `path`. -/
  | sliced (stlPath : String) (p : PrinterID) (path : String)
  /-- `upload_file(path, ...)` was called on printer `p` for the job. -/
  | uploaded (id : JobId) (p : PrinterID) (path : String)
  /-- The job's `project_file` command was passed to `client.publish` of printer `p`. -/
  | published (id : JobId) (p : PrinterID)
  /-- The live client of `p` applied a report; `gcodeState` is its `gcode_state` key, if it had one. -/
  | reported (p : PrinterID) (gcodeState : Option GcodeState)
  /-- `_on_status_update` committed for a snapshot. -/
  | processed (p : PrinterID) (snap : Snapshot)
  /-- The job's QUEUED → UPLOADING committed, while the live client of `p` was in this state. -/
  | dispatched (id : JobId) (p : PrinterID) (gcodeState : GcodeState)
  deriving DecidableEq

/-- A call of `_on_status_update` that is still to run, or a request that is still to make one. -/
inductive Callback where
  | report (snap : Snapshot)
  | disconnected (snap : Snapshot)
  /-- `acknowledge-idle` has passed its checks and is about to ask the live client. -/
  | acknowledging
  /-- The live client has answered it. -/
  | acknowledged (snap : Snapshot)
  /-- Its log entry is still to be committed. -/
  | acknowledgeLog
  deriving DecidableEq

/-- Whether the printer's MQTT network thread is inside the call. -/
def Callback.onNetworkThread : Callback → Bool
  | report _ => true
  | disconnected _ => true
  | acknowledging => false
  | acknowledged _ => false
  | acknowledgeLog => false

/-- Where a slicing worker is: `_slice_pipeline` up to `failing`, then `_reslice_for_fallback`. -/
inductive SliceTask where
  | start
  | analyse (stlPath : String)
  | plan (stlPath : String) (analysis : Analysis)
  | slice (stlPath : String) (p : PrinterID)
  | store (p : PrinterID) (path : String) (estimatedMinutes : Option Nat)
  | failing (message : String)
  | recheck (p : PrinterID)
  | reslice (stlPath : String) (p : PrinterID)
  | restore (p : PrinterID) (path : String) (estimatedMinutes : Option Nat)
  | aborting (exc : String)
  /-- In the `finally` block. -/
  | finished
  deriving DecidableEq

/-- Where a dispatch worker is in `_upload_start_and_confirm`. -/
inductive HandoffPc where
  | begin
  /-- Inside `upload_file`. -/
  | transfer
  /-- Before the block that commits STARTING. -/
  | request
  /-- Inside `start_print_and_confirm`, before its first critical section. -/
  | check
  /-- Before `_publish`. -/
  | publish (baseline : Nat)
  /-- Inside `_publish`, after `client.publish` was called. -/
  | published (baseline : Nat)
  /-- Waiting for a report. -/
  | await (baseline : Nat)
  /-- Before the block that commits PRINTING. -/
  | confirm
  /-- In `except (PrintStartUnconfirmed, PrintStartRejected)`. -/
  | ambiguous (exc : Exc)
  /-- In `except Exception`, before `_fail_job`. -/
  | failing (exc : Exc)
  /-- In `except Exception`, after `_fail_job`. -/
  | releasing
  deriving DecidableEq

/-- A dispatch worker with its arguments. -/
structure Handoff where
  id : JobId
  printer : PrinterID
  slicedPath : Option String
  pc : HandoffPc
  deriving DecidableEq

/-- Where the queue loop is in `_tick`. -/
inductive LoopPc where
  | sleeping
  | submitting (pending : List JobId)
  | dispatching (rest : List PrinterID)
  | fallback (p : PrinterID) (rest : List PrinterID)
  deriving DecidableEq

/-- The process: not running, started but not reconciled yet, or serving. -/
inductive Phase where
  | down | booting | running
  deriving DecidableEq

structure Service where
  settings : Settings
  phase : Phase
  clock : Time
  db : Db
  live : PrinterID → BambuPrinter
  pending : List (PrinterID × Callback)
  /-- `_slicing_jobs` with the worker that each reservation belongs to. -/
  slices : JobId → Option SliceTask
  handoffs : List Handoff
  loop : LoopPc
  history : List Occurrence

namespace Service

/-- A machine that has never run the service: `init_db` has seeded the database. -/
def fresh (cfg : Settings) (now : Time) : Service where
  settings := cfg
  phase := .down
  clock := now
  db := Db.seeded
  live := fun _ => {}
  pending := []
  slices := fun _ => none
  handoffs := []
  loop := .sleeping
  history := []

variable (s : Service)

/-- `job_id in self._slicing_jobs` -/
def reserved (id : JobId) : Bool := (s.slices id).isSome

/-- Move a slicing worker on; `none` gives the reservation back. -/
def setSlice (id : JobId) (task : Option SliceTask) : Service :=
  { s with slices := Function.update s.slices id task }

theorem setSlice_self (id : JobId) (task : Option SliceTask) : (s.setSlice id task).slices id = task :=
  Function.update_self ..

/-- Move a dispatch worker on. -/
def setHandoff (i : Nat) (h : Handoff) (pc : HandoffPc) : Service :=
  { s with handoffs := s.handoffs.set i { h with pc := pc } }

/-- A dispatch worker returns. -/
def endHandoff (i : Nat) : Service := { s with handoffs := s.handoffs.eraseIdx i }

/-- Store what a transaction committed. -/
def commitDb (d : Db) : Service := { s with db := d }

/-- Change the state of a live client. -/
def setLive (p : PrinterID) (c : BambuPrinter) : Service := { s with live := Function.update s.live p c }

/-- Queue a callback. -/
def addCallback (p : PrinterID) (c : Callback) : Service := { s with pending := s.pending ++ [(p, c)] }

/-- Record an occurrence. -/
def record (o : Occurrence) : Service := { s with history := o :: s.history }

/-- What a crash leaves: the database, and the record of what happened. -/
def crashed : Service :=
  { s with phase := .down, live := fun _ => {}, pending := [], slices := fun _ => none, handoffs := [],
           loop := .sleeping }

/-- Whether the network thread of printer `p` is waiting for its next packet. -/
def networkIdle (p : PrinterID) : Bool := s.pending.all fun c => c.1 ≠ p || !c.2.onNetworkThread

end Service

end BambuBabu
