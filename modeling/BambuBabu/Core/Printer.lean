import BambuBabu.Core.Config
import BambuBabu.Core.Text
import BambuBabu.Db.Crud

/-!
# `Core.Printer` — the live client of `backend/core/printer.py`

`BambuPrinter` is the in-memory state one MQTT client keeps under its condition lock; each operation here is
one critical section of the source, as a function of that state. The start handshake
(`start_print_and_confirm`) is cut where it leaves the lock: the idle check (`startCheck`), the publish
(`publishGate`, `publishOutcome`, `startPublished`) and the wait (`startWait`).
-/

namespace BambuBabu

/-- The `gcode_state` strings the code tells apart. -/
inductive GcodeState where
  | idle | prepare | running | pause | failed | finish | offline
  | other (text : String)
  deriving DecidableEq, Repr

def GcodeState.value : GcodeState → String
  | idle => "IDLE"
  | prepare => "PREPARE"
  | running => "RUNNING"
  | pause => "PAUSE"
  | failed => "FAILED"
  | finish => "FINISH"
  | offline => "OFFLINE"
  | other text => text

/-- The live `status` strings (`finished` is a key of the manager's table only). -/
inductive LiveStatus where
  | idle | printing | paused | error | offline | finished
  deriving DecidableEq, Repr

def LiveStatus.value : LiveStatus → String
  | idle => "idle"
  | printing => "printing"
  | paused => "paused"
  | error => "error"
  | offline => "offline"
  | finished => "finished"

/-- `f"{PrinterID.P1S}"` -/
def PrinterID.repr : PrinterID → String
  | p1s => "PrinterID.P1S"
  | a1Mini => "PrinterID.A1_MINI"

structure BambuPrinter where
  status : LiveStatus := .offline
  gcodeState : GcodeState := .offline
  progress : Int := 0
  nozzleTemp : ℚ := 0
  bedTemp : ℚ := 0
  lastSeen : Option Time := none
  /-- Whether `_client` is set. -/
  client : Bool := false
  connected : Bool := false
  reportVersion : Nat := 0
  failedReportAcknowledged : Bool := false
  deriving DecidableEq

/-- `_snapshot_unlocked` -/
structure Snapshot where
  status : LiveStatus
  gcodeState : GcodeState
  progress : Int
  nozzleTemp : ℚ
  bedTemp : ℚ
  connected : Bool
  lastSeen : Option Time
  deriving DecidableEq

/-- A well-formed `print` object: the keys that are present. -/
structure Report where
  gcodeState : Option GcodeState := none
  mcPercent : Option Int := none
  nozzleTemper : Option ℚ := none
  bedTemper : Option ℚ := none
  deriving DecidableEq

/-- `state_map` of `_handle_print`. -/
def stateMap : GcodeState → Option LiveStatus
  | .idle => some .idle
  | .prepare => some .printing
  | .running => some .printing
  | .pause => some .paused
  | .failed => some .error
  | .finish => some .idle
  | .offline => none
  | .other _ => none

namespace BambuPrinter

variable (c : BambuPrinter)

def snapshot : Snapshot where
  status := c.status
  gcodeState := c.gcodeState
  progress := c.progress
  nozzleTemp := c.nozzleTemp
  bedTemp := c.bedTemp
  connected := c.connected
  lastSeen := c.lastSeen

/-! ## Reports and connection callbacks -/

/-- `_handle_print`: apply a report; the caller then passes the snapshot to `on_status_update`. -/
def handlePrint (now : Time) (report : Report) : BambuPrinter :=
  let reportedState := report.gcodeState.getD c.gcodeState
  -- the firmware may go on reporting a FAILED that the operator has acknowledged
  let suppressed := reportedState = .failed ∧ c.failedReportAcknowledged = true
  let gcodeState := if suppressed then .idle else reportedState
  let acknowledged :=
    if ¬ suppressed ∧ report.gcodeState.isSome ∧ reportedState ≠ .failed then false
    else c.failedReportAcknowledged
  { c with
    failedReportAcknowledged := acknowledged
    lastSeen := some now
    gcodeState := gcodeState
    status := (stateMap gcodeState).getD c.status
    progress := report.mcPercent.getD c.progress
    nozzleTemp := report.nozzleTemper.getD c.nozzleTemp
    bedTemp := report.bedTemper.getD c.bedTemp
    reportVersion := c.reportVersion + 1 }

/-- `_connect_mqtt` up to the registration of the new client. -/
def connectMqtt : BambuPrinter := { c with client := true, connected := false }

/-- The exception branch of `_connect_mqtt`. -/
def connectFailed : BambuPrinter := { c with client := false, connected := false, status := .offline }

/-- `_on_connect` of the current client. -/
def onConnect (rc : Nat) : BambuPrinter :=
  if rc ≠ 0 then { c with connected := false, status := .offline } else { c with connected := true }

/-- `_on_disconnect` of the current client; the snapshot goes to `on_status_update`. -/
def onDisconnect : BambuPrinter := { c with connected := false, status := .offline }

/-- `acknowledge_physically_idle` -/
def acknowledgePhysicallyIdle (p : PrinterID) : Except Exc BambuPrinter :=
  if c.connected = false then .error (.runtimeError s!"{p.repr} MQTT is not connected")
  else if c.status ≠ .error ∨ c.gcodeState ≠ .failed then
    .error (.runtimeError (s!"{p.repr} is not in FAILED state " ++
      s!"(status={c.status.value}, gcode_state={c.gcodeState.value})"))
  else .ok { c with failedReportAcknowledged := true, status := .idle, gcodeState := .idle }

/-! ## The start handshake -/

/-- The first critical section of `start_print_and_confirm`: the baseline report version. -/
def startCheck (p : PrinterID) : Except Exc (Nat × BambuPrinter) :=
  if c.connected = false then .error (.runtimeError s!"{p.repr} MQTT is not connected")
  else if c.status ≠ .idle then
    .error (.runtimeError (s!"{p.repr} is not idle (status={c.status.value}, " ++
      s!"gcode_state={c.gcodeState.value})"))
  else .ok (c.reportVersion, { c with failedReportAcknowledged := false })

/-- `_publish` up to its `client.publish` call. -/
def publishGate (p : PrinterID) : Except Exc Unit :=
  if c.client = false ∨ c.connected = false then
    .error (.runtimeError s!"{p.repr} MQTT is not connected")
  else .ok ()

/-- One round of the wait of `start_print_and_confirm`; `none` waits on. -/
def startWait (s : Settings) (baseline : Nat) (timedOut : Bool) : Option (Except Exc Unit) :=
  -- only a report that came after the baseline shows that the printer has started
  if c.reportVersion > baseline ∧
      (c.gcodeState = .prepare ∨ c.gcodeState = .running ∨ c.status = .printing) then
    some (.ok ())
  else if c.gcodeState = .failed ∨ c.status = .error then
    some (.error (.printStartRejected "Printer reported FAILED while starting"))
  else if timedOut then
    some (.error (.printStartUnconfirmed
      s!"Printer did not report PREPARE/RUNNING within {s.startConfirmTimeout}s"))
  else none

end BambuPrinter

/-- How Paho answers a QoS 1 `client.publish` call: a return code other than success, an exception of
    `wait_for_publish`/`is_published`, no acknowledgement in time, or an acknowledgement. -/
inductive PublishOutcome where
  | rejected (rc : Nat)
  | waitRaised (e : Exc)
  | unacknowledged
  | acknowledged
  deriving DecidableEq, Repr

/-- `_publish` from its `client.publish` call on. -/
def publishOutcome : PublishOutcome → Except Exc Unit
  | .rejected rc => .error (.runtimeError s!"MQTT publish rejected with rc={rc}")
  | .waitRaised e => .error e
  | .unacknowledged => .error (.runtimeError "MQTT publish was not acknowledged by the broker")
  | .acknowledged => .ok ()

/-- The `except RuntimeError` around `_publish` in `start_print_and_confirm`. -/
def classifyPublish (e : Exc) : Exc :=
  if e.isRuntimeError ∧ contains "not acknowledged" e.str then
    .printStartUnconfirmed ("MQTT start command may have reached the printer, but its QoS 1 " ++
      "acknowledgement was not received")
  else e

/-- What `start_print_and_confirm` makes of Paho's answer. -/
def startPublished (o : PublishOutcome) : Except Exc Unit :=
  (publishOutcome o).mapError classifyPublish

/-- The `except (PrintStartUnconfirmed, PrintStartRejected)` clause of the dispatch worker. -/
def Exc.isAmbiguousStart : Exc → Bool
  | .printStartUnconfirmed _ => true
  | .printStartRejected _ => true
  | _ => false

example : startPublished .unacknowledged = .error (.printStartUnconfirmed
    ("MQTT start command may have reached the printer, but its QoS 1 " ++
      "acknowledgement was not received")) := by decide +kernel

/-! ## What the critical sections leave alone -/

namespace BambuPrinter

variable {c c' : BambuPrinter}

theorem acknowledge_ok {p : PrinterID} (h : c.acknowledgePhysicallyIdle p = .ok c') :
    c.connected = true ∧ c.status = .error ∧ c.gcodeState = .failed ∧
      c' = { c with failedReportAcknowledged := true, status := .idle, gcodeState := .idle } := by
  unfold acknowledgePhysicallyIdle at h
  split at h
  · cases h
  · next hc =>
      split at h
      · cases h
      · next hs =>
          push Not at hs
          exact ⟨by simpa using hc, hs.1, hs.2, (Except.ok.inj h).symm⟩

theorem startCheck_ok {p : PrinterID} {baseline : Nat} (h : c.startCheck p = .ok (baseline, c')) :
    c.connected = true ∧ c.status = .idle ∧ baseline = c.reportVersion ∧
      c' = { c with failedReportAcknowledged := false } := by
  unfold startCheck at h
  split at h
  · cases h
  · next hc =>
      split at h
      · cases h
      · next hs =>
          obtain ⟨rfl, rfl⟩ := Prod.mk.inj (Except.ok.inj h)
          exact ⟨by simpa using hc, not_not.mp hs, rfl, rfl⟩

/-- The wait returns normally only on a report that is newer than the baseline and shows a start. -/
theorem startWait_ok {s : Settings} {baseline : Nat} {timedOut : Bool}
    (h : c.startWait s baseline timedOut = some (.ok ())) :
    c.reportVersion > baseline ∧
      (c.gcodeState = .prepare ∨ c.gcodeState = .running ∨ c.status = .printing) := by
  unfold startWait at h
  split at h
  · next hc => exact hc
  · split at h
    · cases h
    · split at h <;> cases h

/-- The wait ends with one of the two ambiguous-start errors, or normally. -/
theorem startWait_error {s : Settings} {baseline : Nat} {timedOut : Bool} {e : Exc}
    (h : c.startWait s baseline timedOut = some (.error e)) : e.isAmbiguousStart = true := by
  unfold startWait at h
  split at h
  · cases h
  · split at h
    · cases h; rfl
    · split at h
      · cases h; rfl
      · cases h

end BambuPrinter

end BambuBabu
