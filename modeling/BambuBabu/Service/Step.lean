import BambuBabu.Runs.Machine
import BambuBabu.Service.State

/-!
# `Service.Step` — one step of the service

`step` executes one event: a committed transaction together with the thread-local code up to the thread's
next shared action, a critical section of a live client, or something that happens outside (a packet, the
result of an external call, a crash). It returns `none` for an event that cannot happen in the state.

The executors may run any number of workers at once here, a superset of what the configured pool sizes allow,
and statements never fail for reasons outside the program.
-/

namespace BambuBabu

open Storage

/-! ## Events -/

/-- What happens at a live client. -/
inductive LiveEvent where
  | connectMqtt
  | connectFailed
  | onConnect (rc : Nat)
  | onDisconnect
  | message (report : Report)

/-- How a slicing worker goes on: `next`, or the result of the external call it is in. -/
inductive SliceEvent where
  | next
  | analysed (result : Except String Analysis)
  | sliced (result : SliceOutcome)

/-- How a dispatch worker goes on. -/
inductive HandoffEvent where
  | next
  | transferred (failure : Option String)
  | answered (outcome : PublishOutcome)
  | awaited (timedOut : Bool)

inductive Event where
  | boot (cfg : Settings)
  | reconcile
  | crash
  | clock (now : Time)
  | offlineCancel (id : JobId)
  | upload (id : JobId) (form : UploadForm)
  | cancel (id : JobId)
  | plateCleared (p : PrinterID)
  | acknowledgeIdle (p : PrinterID)
  | live (p : PrinterID) (e : LiveEvent)
  | callback (i : Nat)
  | tick
  | slice (id : JobId) (e : SliceEvent)
  | handoff (i : Nat) (e : HandoffEvent)

namespace Service

variable (s : Service)

/-! ## The threads -/

/-- An event of the live client of a printer; `none` when the network thread is busy or there is no
    client. -/
def liveStep (p : PrinterID) : LiveEvent → Option Service
  | .connectMqtt => if s.networkIdle p then some (s.setLive p (s.live p).connectMqtt) else none
  | .connectFailed => some (s.setLive p (s.live p).connectFailed)
  | .onConnect rc =>
      if (s.live p).client && s.networkIdle p then some (s.setLive p ((s.live p).onConnect rc)) else none
  | .onDisconnect =>
      if (s.live p).client && s.networkIdle p then
        let c := (s.live p).onDisconnect
        some ((s.setLive p c).addCallback p (.disconnected c.snapshot))
      else none
  | .message report =>
      if (s.live p).client && s.networkIdle p then
        let c := (s.live p).handlePrint s.clock report
        -- the callback gets the snapshot outside the lock of the client, so its transaction is a step of its own
        some (((s.setLive p c).addCallback p (.report c.snapshot)).record (.reported p report.gcodeState))
      else none

/-- Run `_on_status_update` for a snapshot. -/
def processSnapshot (p : PrinterID) (snap : Snapshot) : Service :=
  (s.commitDb ((onStatusUpdate s.clock p snap).commit s.db).2).record (.processed p snap)

/-- The callback at position `i` goes on. -/
def callbackStep (i : Nat) : Option Service :=
  match s.pending[i]? with
  | none => none
  | some (p, c) =>
    let rest : Service := { s with pending := s.pending.eraseIdx i }
    match c with
    | .report snap => some (rest.processSnapshot p snap)
    | .disconnected snap => some (rest.processSnapshot p snap)
    | .acknowledging =>
        match (s.live p).acknowledgePhysicallyIdle p with
        -- refused: the request ends with 409 and nothing has changed
        | .error _ => some rest
        | .ok c' => some ((rest.setLive p c').addCallback p (.acknowledged c'.snapshot))
    | .acknowledged snap => some ((rest.processSnapshot p snap).addCallback p .acknowledgeLog)
    | .acknowledgeLog => some (rest.commitDb ((logAcknowledged s.clock p).commit s.db).2)

/-- `acknowledge-idle` up to the call of the live client. -/
def acknowledgeIdle (p : PrinterID) : Service :=
  match (acknowledgeChecks s.settings p).commit s.db with
  | (.ok _, d) => (s.commitDb d).addCallback p .acknowledging
  | (.error _, d) => s.commitDb d

/-- `_submit_slice` -/
def submitSlice (id : JobId) (task : SliceTask) : Service :=
  if s.reserved id then s else s.setSlice id (some task)

/-- The printers `_tick` goes through. -/
def tickPrinters (cfg : Settings) : List PrinterID :=
  [PrinterID.a1Mini, PrinterID.p1s].filter cfg.livePrinterEnabled

/-- The queue loop goes on. An exception ends the tick. -/
def tickStep : Service :=
  match s.loop with
  | .sleeping =>
      -- the ids are read in one transaction; each job is submitted after it, whatever has become of the job
      let pendingIds := (s.db.jobsWhere (fun j => j.status = .pending) bySubmission).map Prod.fst
      { s with loop := .submitting pendingIds }
  | .submitting (id :: rest) => { s.submitSlice id .start with loop := .submitting rest }
  | .submitting [] => { s with loop := .dispatching (tickPrinters s.settings) }
  | .dispatching [] => { s with loop := .sleeping }
  | .dispatching (p :: rest) =>
      match (tryDispatch s.settings s.clock p).commit s.db with
      | (.ok (some (id, path)), d) =>
          { (s.commitDb d).record (.dispatched id p (s.live p).gcodeState) with
            handoffs := s.handoffs ++ [⟨id, p, path, .begin⟩]
            loop := .dispatching rest }
      -- `_try_dispatch` is false: the loop looks for a fallback for the same printer
      | (.ok none, d) => { s.commitDb d with loop := .fallback p rest }
      | (.error _, d) => { s.commitDb d with loop := .sleeping }
  | .fallback p rest =>
      match (tryScheduleFallback s.settings s.clock p s.reserved).commit s.db with
      | (.ok (some id), d) =>
          { (s.commitDb d).setSlice id (some (.recheck p)) with loop := .dispatching rest }
      | (.ok none, d) => { s.commitDb d with loop := .dispatching rest }
      | (.error _, d) => { s.commitDb d with loop := .sleeping }

/-- `except JobTransitionError: return`, `except Exception: _fail_job` -/
def pipelineError (e : Exc) : SliceTask :=
  match e with
  | .jobTransitionError _ => .finished
  | e => .failing s!"Analysis/slicing error: {e.str}"

/-- `except JobTransitionError: return`, `except Exception` of the fallback worker. -/
def resliceError (e : Exc) : SliceTask :=
  match e with
  | .jobTransitionError _ => .finished
  | e => .aborting e.str

/-- The slicing worker of job `id`, which is at `task`, goes on. -/
def sliceStep (id : JobId) (task : SliceTask) (e : SliceEvent) : Option Service :=
  match task, e with
  | .start, .next =>
      match (startAnalysis s.clock id).commit s.db with
      | (.ok stl, d) => some ((s.commitDb d).setSlice id (some (.analyse stl)))
      | (.error e, d) => some ((s.commitDb d).setSlice id (some (pipelineError e)))
  | .analyse stl, .analysed (.ok a) => some (s.setSlice id (some (.plan stl a)))
  | .analyse _, .analysed (.error m) =>
      some (s.setSlice id (some (.failing s!"Analysis/slicing error: {m}")))
  | .plan stl a, .next =>
      let choice := selectPrinter s.settings a
      match (planSlice s.clock id a choice).commit s.db, choice.1 with
      | (.ok true, d), some p => some ((s.commitDb d).setSlice id (some (.slice stl p)))
      -- rejected, or not ANALYSING any more
      | (.ok _, d), _ => some ((s.commitDb d).setSlice id (some .finished))
      | (.error e, d), _ => some ((s.commitDb d).setSlice id (some (pipelineError e)))
  | .slice stl p, .sliced o =>
      match sliceStl s.settings stl p o with
      | .ok (path, est) => some ((s.setSlice id (some (.store p path est))).record (.sliced stl p path))
      | .error m => some (s.setSlice id (some (.failing s!"Analysis/slicing error: {m}")))
  | .store p path est, .next =>
      match (storeSlice s.clock id p path est).commit s.db with
      | (.ok _, d) => some ((s.commitDb d).setSlice id (some .finished))
      | (.error e, d) => some ((s.commitDb d).setSlice id (some (pipelineError e)))
  | .failing m, .next =>
      some ((s.commitDb ((failJob s.clock id m).commit s.db).2).setSlice id (some .finished))
  | .recheck p, .next =>
      match (checkReslice id).commit s.db with
      | (.ok (some stl), d) => some ((s.commitDb d).setSlice id (some (.reslice stl p)))
      | (.ok none, d) => some ((s.commitDb d).setSlice id (some .finished))
      | (.error e, d) => some ((s.commitDb d).setSlice id (some (resliceError e)))
  | .reslice stl p, .sliced o =>
      match sliceStl s.settings stl p o with
      | .ok (path, est) =>
          some ((s.setSlice id (some (.restore p path est))).record (.sliced stl p path))
      | .error m => some (s.setSlice id (some (.aborting m)))
  | .restore p path est, .next =>
      match (storeReslice s.clock id p path est).commit s.db with
      | (.ok _, d) => some ((s.commitDb d).setSlice id (some .finished))
      | (.error e, d) => some ((s.commitDb d).setSlice id (some (resliceError e)))
  | .aborting m, .next =>
      some ((s.commitDb ((abortReslice s.clock id m).commit s.db).2).setSlice id (some .finished))
  | .finished, .next => some (s.setSlice id none)
  | _, _ => none

/-- The checks before `upload_file`: the path that is uploaded. -/
def uploadArgument (cfg : Settings) (h : Handoff) : Except Exc String :=
  if cfg.livePrinterEnabled h.printer = false then
    .error (.runtimeError s!"Printer integration is disabled or unavailable: {h.printer.value}")
  else
    match h.slicedPath with
    | none => .error (.runtimeError "Job has no sliced file")
    | some path => if path = "" then .error (.runtimeError "Job has no sliced file") else .ok path

/-- Where an exception of the start handshake leads. -/
def startError (e : Exc) : HandoffPc := if e.isAmbiguousStart then .ambiguous e else .failing e

/-- The dispatch worker at position `i`, which is `h`, goes on. -/
def handoffStep (i : Nat) (h : Handoff) (e : HandoffEvent) : Option Service :=
  match h.pc, e with
  | .begin, .next =>
      match uploadArgument s.settings h with
      | .ok path => some ((s.setHandoff i h .transfer).record (.uploaded h.id h.printer path))
      | .error e => some (s.setHandoff i h (.failing e))
  | .transfer, .transferred none => some (s.setHandoff i h .request)
  | .transfer, .transferred (some m) => some (s.setHandoff i h (.failing (.runtimeError m)))
  | .request, .next =>
      match (requestStart s.clock h.id h.printer).commit s.db with
      | (.ok _, d) => some ((s.commitDb d).setHandoff i h .check)
      | (.error e, d) => some ((s.commitDb d).setHandoff i h (.failing e))
  | .check, .next =>
      match (s.live h.printer).startCheck h.printer with
      | .ok (baseline, c) => some ((s.setLive h.printer c).setHandoff i h (.publish baseline))
      | .error e => some (s.setHandoff i h (startError e))
  | .publish baseline, .next =>
      match (s.live h.printer).publishGate h.printer with
      -- from here on the printer may start, whatever Paho answers
      | .ok _ => some ((s.setHandoff i h (.published baseline)).record (.published h.id h.printer))
      | .error e => some (s.setHandoff i h (startError (classifyPublish e)))
  | .published baseline, .answered o =>
      match startPublished o with
      | .ok _ => some (s.setHandoff i h (.await baseline))
      | .error e => some (s.setHandoff i h (startError e))
  | .await baseline, .awaited timedOut =>
      match (s.live h.printer).startWait s.settings baseline timedOut with
      | none => none
      | some (.ok _) => some (s.setHandoff i h .confirm)
      | some (.error e) => some (s.setHandoff i h (startError e))
  | .confirm, .next =>
      match (confirmStart s.clock h.id h.printer).commit s.db with
      | (.ok _, d) => some ((s.commitDb d).endHandoff i)
      | (.error e, d) => some ((s.commitDb d).setHandoff i h (.failing e))
  | .ambiguous e, .next =>
      some ((s.commitDb ((quarantineStart s.clock h.id h.printer e).commit s.db).2).endHandoff i)
  | .failing e, .next =>
      some ((s.commitDb ((failJob s.clock h.id s!"Printer handoff failed: {e.str}").commit s.db).2).setHandoff
        i h .releasing)
  | .releasing, .next =>
      some ((s.commitDb ((releaseFailed s.clock h.id h.printer).commit s.db).2).endHandoff i)
  | _, _ => none

/-! ## The step function -/

/-- The event, in the phases it can happen in. Requests are served once the service is running; printers
    report as soon as the clients exist. -/
def step (s : Service) (e : Event) : Option Service :=
  match s.phase, e with
  | _, .clock now => some { s with clock := now }
  | .down, .boot cfg =>
      match cfg.validateRuntime with
      | .error _ => none
      | .ok _ => some { s.crashed with settings := cfg, phase := .booting }
  | .down, .offlineCancel id => some (s.commitDb ((cancelPendingJob s.clock id).commit s.db).2)
  | .down, _ => none
  | _, .crash => some s.crashed
  | .booting, .reconcile =>
      match (reconcileInterruptedJobs s.clock).commit s.db with
      | (.ok _, d) => some { s.commitDb d with phase := .running }
      -- an exception of the start-up ends the process
      | (.error _, _) => some s.crashed
  | _, .live p e => if s.settings.livePrinterEnabled p then s.liveStep p e else none
  | _, .callback i => s.callbackStep i
  | .booting, _ => none
  | .running, .upload id form =>
      some (s.commitDb ((commitUpload s.settings s.clock id form).commit s.db).2)
  | .running, .cancel id => some (s.commitDb ((cancelJob s.clock id).commit s.db).2)
  | .running, .plateCleared p => some (s.commitDb ((markPlateCleared s.settings s.clock p).commit s.db).2)
  | .running, .acknowledgeIdle p => some (s.acknowledgeIdle p)
  | .running, .tick => some s.tickStep
  | .running, .slice id e =>
      match s.slices id with
      | none => none
      | some task => s.sliceStep id task e
  | .running, .handoff i e =>
      match s.handoffs[i]? with
      | none => none
      | some h => s.handoffStep i h e
  | .running, _ => none

variable {s} {s' : Service}

/-- A crash leaves what it leaves, in any phase. -/
theorem step_crash (h : s.step .crash = some s') : s' = s.crashed := by
  unfold step at h
  cases hphase : s.phase <;> simp only [hphase] at h <;> cases h
  all_goals rfl

/-- A start needs settings that pass the checks, and leaves nothing but the database. -/
theorem step_boot {cfg : Settings} (h : s.step (.boot cfg) = some s') :
    cfg.validateRuntime = .ok () ∧ s' = { s.crashed with settings := cfg, phase := .booting } := by
  unfold step at h
  cases hphase : s.phase <;> simp only [hphase] at h
  · split at h <;> cases h
    next hok => exact ⟨hok, rfl⟩
  all_goals cases h

/-- A slicing worker moves by its own steps, -/
theorem step_slice {id : JobId} {task : SliceTask} {e : SliceEvent} (hstep : s.step (.slice id e) = some s')
    (htask : s.slices id = some task) : s.sliceStep id task e = some s' := by
  unfold step at hstep
  cases hphase : s.phase <;> simp only [hphase, htask] at hstep
  · cases hstep
  · cases hstep
  · exact hstep

/-- and so does a dispatch worker. -/
theorem step_handoff {i : Nat} {h : Handoff} {e : HandoffEvent} (hstep : s.step (.handoff i e) = some s')
    (hh : s.handoffs[i]? = some h) : s.handoffStep i h e = some s' := by
  unfold step at hstep
  cases hphase : s.phase <;> simp only [hphase, hh] at hstep
  · cases hstep
  · cases hstep
  · exact hstep

/-! ## What stays -/

theorem liveStep_settings {p : PrinterID} {e : LiveEvent} (h : s.liveStep p e = some s') :
    s'.settings = s.settings := by
  cases e with
  | connectFailed =>
      cases h
      rfl
  | connectMqtt | onConnect | onDisconnect | message =>
      simp only [liveStep] at h
      split at h <;> cases h
      rfl

theorem callbackStep_settings {i : Nat} (h : s.callbackStep i = some s') : s'.settings = s.settings := by
  unfold callbackStep at h
  split at h
  · cases h
  · next p c _ =>
      cases c with
      | acknowledging =>
          simp only at h
          split at h <;> cases h <;> rfl
      | report | disconnected | acknowledged | acknowledgeLog =>
          cases h
          rfl

theorem tickStep_settings : s.tickStep.settings = s.settings := by
  unfold tickStep submitSlice
  split
  · rfl
  · split <;> rfl
  · rfl
  · rfl
  · split <;> rfl
  · split <;> rfl

theorem acknowledgeIdle_settings {p : PrinterID} : (s.acknowledgeIdle p).settings = s.settings := by
  unfold acknowledgeIdle
  split <;> rfl

theorem sliceStep_settings {id : JobId} {task : SliceTask} {e : SliceEvent}
    (h : s.sliceStep id task e = some s') : s'.settings = s.settings := by
  unfold sliceStep at h
  split at h <;> (try dsimp only at h) <;> (try split at h) <;> cases h <;> rfl

theorem handoffStep_settings {i : Nat} {w : Handoff} {e : HandoffEvent} (h : s.handoffStep i w e = some s') :
    s'.settings = s.settings := by
  unfold handoffStep at h
  split at h <;> (try split at h) <;> cases h <;> rfl

/-- **Only a start changes the settings.** -/
theorem step_settings {e : Event} (h : s.step e = some s') :
    s'.settings = s.settings ∨ e = .boot s'.settings := by
  unfold step at h
  split at h
  · cases h
    exact .inl rfl
  · split at h <;> cases h
    exact .inr rfl
  all_goals refine .inl ?_
  · cases h
    rfl
  · cases h
  · cases h
    rfl
  · split at h <;> cases h <;> rfl
  · split at h
    · exact liveStep_settings h
    · cases h
  · exact callbackStep_settings h
  · cases h
  · cases h
    rfl
  · cases h
    rfl
  · cases h
    rfl
  · cases h
    exact acknowledgeIdle_settings
  · cases h
    exact tickStep_settings
  · split at h
    · cases h
    · exact sliceStep_settings h
  · split at h
    · cases h
    · exact handoffStep_settings h
  · cases h

end Service

/-- The service as a transition system. -/
def service : Runs.Machine Service Event where
  init s := ∃ cfg now, s = Service.fresh cfg now
  step := Service.step

theorem service_init (cfg : Settings) (now : Time) : service.init (Service.fresh cfg now) := ⟨cfg, now, rfl⟩

/-! ## Scripts

Event lists that concrete runs are composed of, for a deployment with a P1S only. -/

namespace Script

/-- A deployment with one enabled printer. -/
def p1sOnly : Settings where
  uploadDir := "data/uploads"
  slicedDir := "data/sliced"
  printersEnabled := true
  p1sEnabled := true
  p1sMax := ⟨256, 256, 256, by decide, by decide, by decide⟩
  a1MiniEnabled := false
  a1MiniMax := ⟨180, 180, 180, by decide, by decide, by decide⟩
  mockSlicer := false
  startConfirmTimeout := "120"
  complexityThreshold := 50
  threshold_nonneg := by decide
  threshold_le := by decide

/-- Start the service and connect the printer. -/
def online : List Event :=
  [.boot p1sOnly, .reconcile, .live .p1s .connectMqtt, .live .p1s (.onConnect 0)]

/-- The printer reports, and the callback commits. -/
def report (r : Report) : List Event := [.live .p1s (.message r), .callback 0]

/-- The same for a report of a `gcode_state`. -/
def reportState (g : GcodeState) : List Event := report { gcodeState := some g }

def upload (id : JobId) : Event := .upload id ⟨"Ada", "ada@example.org", none, "part.stl"⟩

/-- A tick that submits the pending job `id`, up to its dispatch phase, and the job's slicing worker. -/
def slice (id : JobId) : List Event :=
  [.tick, .tick, .tick, .slice id .next, .slice id (.analysed (.ok ⟨12, 1, 0, ⟨10, 10, 10⟩, 1⟩)),
    .slice id .next, .slice id (.sliced (.sliced (some 30))), .slice id .next, .slice id .next]

/-- The dispatch phase of that tick. -/
def dispatch : List Event := [.tick, .tick]

/-- The dispatch worker uploads the file and commits STARTING. -/
def transfer : List Event := [.handoff 0 .next, .handoff 0 (.transferred none), .handoff 0 .next]

/-- The dispatch worker checks that the printer is idle and publishes. -/
def publish : List Event := [.handoff 0 .next, .handoff 0 .next]

end Script

end BambuBabu
