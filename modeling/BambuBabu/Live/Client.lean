import BambuBabu.Core.Printer
import BambuBabu.Runs.Machine

/-!
# `Live.Client` — the life of one live client

The critical sections of `BambuPrinter` as the steps of a machine. Nothing orders them: a section runs whenever
its thread gets the condition lock, so every interleaving of the callbacks, the reconnect loop, acknowledgements
and start calls is a run. The log holds the sections that have run, newest first. A call that raises before its
first assignment changes nothing and is no event.

* `Coherent` — what an idle client may show as `gcode_state`, in every state of every run;
* `Shows` — a status is shown by `status`, or by the kept `gcode_state`: only a report that carries such a
  `gcode_state` makes a client show it (`BambuPrinter.not_shows_step`).
-/

namespace BambuBabu

open Runs

inductive PrinterEvent where
  /-- The first section of `_connect_mqtt`. -/
  | dropClient
  /-- Its second section. -/
  | registerClient
  /-- The section of its `except` clause; `current` is whether `_client` is still the new client. -/
  | connectRaised (current : Bool)
  /-- The last section of `_on_connect`. -/
  | onConnect (rc : Nat)
  | onDisconnect
  /-- The section of `disconnect()`. -/
  | disconnect
  | report (now : Time) (report : Report)
  /-- `acknowledge_physically_idle` succeeds. -/
  | acknowledge (p : PrinterID)
  /-- `start_print_and_confirm` passes its connected-and-idle check. -/
  | start (p : PrinterID)
  deriving DecidableEq

namespace BambuPrinter

variable (c : BambuPrinter)

def dropClient : BambuPrinter := { c with client := false, connected := false }

def registerClient : BambuPrinter := { c with client := true }

def connectRaised (current : Bool) : BambuPrinter :=
  { c with client := if current then false else c.client, connected := false, status := .offline }

/-- `disconnect` after `loop_stop`. -/
def disconnect : BambuPrinter := { c with connected := false, status := .offline }

def step : PrinterEvent → Option BambuPrinter
  | .dropClient => some c.dropClient
  | .registerClient => some c.registerClient
  | .connectRaised current => some (c.connectRaised current)
  | .onConnect rc => some (c.onConnect rc)
  | .onDisconnect => some c.onDisconnect
  | .disconnect => some c.disconnect
  | .report now r => some (c.handlePrint now r)
  | .acknowledge p => (c.acknowledgePhysicallyIdle p).toOption
  | .start p => (c.startCheck p).toOption.map Prod.snd

/-- `_connect_mqtt` is its two sections in a row. -/
theorem connectMqtt_eq : c.connectMqtt = c.dropClient.registerClient := rfl

theorem connectFailed_eq : c.connectFailed = c.connectRaised true := rfl

end BambuPrinter

/-- A client and the sections it has run, newest first. -/
structure Watched where
  client : BambuPrinter := {}
  log : List PrinterEvent := []
  deriving DecidableEq

def liveClient : Machine Watched PrinterEvent where
  init w := w = {}
  step w e := (w.client.step e).map fun c => ⟨c, e :: w.log⟩

/-! ## What a section does -/

variable {c c' : BambuPrinter} {e : PrinterEvent} {w w' : Watched}

theorem liveClient_step (h : liveClient.step w e = some w') :
    w.client.step e = some w'.client ∧ w'.log = e :: w.log := by
  obtain ⟨c, hc, rfl⟩ := Option.map_eq_some_iff.mp h
  exact ⟨hc, rfl⟩

/-- The `gcode_state` a report is taken to carry: its own, or the kept one. -/
def BambuPrinter.reportedState (c : BambuPrinter) (r : Report) : GcodeState := r.gcodeState.getD c.gcodeState

/-- FAILED is suppressed after an acknowledgement. -/
def BambuPrinter.suppresses (c : BambuPrinter) (r : Report) : Prop :=
  c.reportedState r = .failed ∧ c.failedReportAcknowledged = true

instance (c : BambuPrinter) (r : Report) : Decidable (c.suppresses r) := inferInstanceAs (Decidable (_ ∧ _))

theorem handlePrint_gcodeState (now : Time) (r : Report) :
    (c.handlePrint now r).gcodeState = if c.suppresses r then .idle else c.reportedState r := rfl

theorem handlePrint_status (now : Time) (r : Report) :
    (c.handlePrint now r).status = (stateMap (c.handlePrint now r).gcodeState).getD c.status := rfl

theorem BambuPrinter.step_acknowledge {p : PrinterID} (h : c.step (.acknowledge p) = some c') :
    c.connected = true ∧ c.status = .error ∧ c.gcodeState = .failed ∧
      c' = { c with failedReportAcknowledged := true, status := .idle, gcodeState := .idle } := by
  cases ha : c.acknowledgePhysicallyIdle p with
  | error x => simp [BambuPrinter.step, ha, Except.toOption] at h
  | ok a =>
      have hc : a = c' := by simpa [BambuPrinter.step, ha, Except.toOption] using h
      subst hc
      exact acknowledge_ok ha

theorem BambuPrinter.step_start {p : PrinterID} (h : c.step (.start p) = some c') :
    c.connected = true ∧ c.status = .idle ∧ c' = { c with failedReportAcknowledged := false } := by
  cases hs : c.startCheck p with
  | error x => simp [BambuPrinter.step, hs, Except.toOption] at h
  | ok a =>
      obtain ⟨b, d⟩ := a
      have hd : d = c' := by simpa [BambuPrinter.step, hs, Except.toOption] using h
      subst hd
      obtain ⟨hcon, hidle, -, hc⟩ := startCheck_ok hs
      exact ⟨hcon, hidle, hc⟩

/-- What a section other than a report or an acknowledgement leaves alone. -/
structure Rests (c c' : BambuPrinter) : Prop where
  gcodeState : c'.gcodeState = c.gcodeState
  version : c'.reportVersion = c.reportVersion
  status : c'.status = c.status ∨ c'.status = .offline
  flag : c'.failedReportAcknowledged = true → c.failedReportAcknowledged = true

/-- **What one section can do**: apply a report, acknowledge a failure, or leave the reported fields alone. -/
theorem BambuPrinter.step_cases (h : c.step e = some c') :
    (∃ now r, e = .report now r ∧ c' = c.handlePrint now r) ∨
    (∃ p, e = .acknowledge p ∧
      c' = { c with failedReportAcknowledged := true, status := .idle, gcodeState := .idle }) ∨
    ((∀ now r, e ≠ .report now r) ∧ (∀ p, e ≠ .acknowledge p) ∧ Rests c c') := by
  cases e with
  | report now r =>
      cases h
      exact .inl ⟨now, r, rfl, rfl⟩
  | acknowledge p =>
      obtain ⟨-, -, -, hc⟩ := step_acknowledge h
      exact .inr (.inl ⟨p, rfl, hc⟩)
  | start p =>
      obtain ⟨-, -, rfl⟩ := step_start h
      exact .inr (.inr ⟨nofun, nofun, rfl, rfl, .inl rfl, nofun⟩)
  | onConnect rc =>
      cases h
      refine .inr (.inr ⟨nofun, nofun, ?_⟩)
      unfold onConnect
      split
      · exact ⟨rfl, rfl, .inr rfl, id⟩
      · exact ⟨rfl, rfl, .inl rfl, id⟩
  | dropClient => cases h; exact .inr (.inr ⟨nofun, nofun, rfl, rfl, .inl rfl, id⟩)
  | registerClient => cases h; exact .inr (.inr ⟨nofun, nofun, rfl, rfl, .inl rfl, id⟩)
  | connectRaised current => cases h; exact .inr (.inr ⟨nofun, nofun, rfl, rfl, .inr rfl, id⟩)
  | onDisconnect => cases h; exact .inr (.inr ⟨nofun, nofun, rfl, rfl, .inr rfl, id⟩)
  | disconnect => cases h; exact .inr (.inr ⟨nofun, nofun, rfl, rfl, .inr rfl, id⟩)

/-- Only an accepted connection connects a client. -/
theorem BambuPrinter.connected_step (h : c.step e = some c') (hcon : c'.connected = true) :
    e = .onConnect 0 ∨ (c.connected = true ∧ ∀ rc, e ≠ .onConnect rc) := by
  cases e with
  | onConnect rc =>
      cases h
      unfold onConnect at hcon
      split at hcon
      · cases hcon
      · next hrc => exact .inl (by rw [not_not.mp hrc])
  | report now r => cases h; exact .inr ⟨hcon, nofun⟩
  | registerClient => cases h; exact .inr ⟨hcon, nofun⟩
  | acknowledge p => exact .inr ⟨(step_acknowledge h).1, nofun⟩
  | start p => exact .inr ⟨(step_start h).1, nofun⟩
  | dropClient | connectRaised | onDisconnect | disconnect =>
      cases h
      cases hcon

/-! ## Status and `gcode_state` -/

/-- An idle client keeps no `gcode_state` that stands for another status. -/
def Coherent (c : BambuPrinter) : Prop :=
  c.status = .idle → ∀ st, stateMap c.gcodeState = some st → st = .idle

/-- A report leaves every client coherent. -/
theorem coherent_handlePrint (now : Time) (r : Report) : Coherent (c.handlePrint now r) := by
  intro hidle st hst
  -- whatever is known of the new `gcode_state` decides the new status
  rw [handlePrint_status, hst] at hidle
  exact hidle

theorem Coherent.step (h : Coherent c) (hstep : c.step e = some c') : Coherent c' := by
  rcases BambuPrinter.step_cases hstep with ⟨now, r, -, rfl⟩ | ⟨p, -, rfl⟩ | ⟨-, -, hrest⟩
  · exact coherent_handlePrint now r
  · intro _ st hst
    cases hst
    rfl
  · intro hidle st hst
    rcases hrest.status with hsame | hoff
    · exact h (hsame ▸ hidle) st (hrest.gcodeState ▸ hst)
    · rw [hoff] at hidle
      cases hidle

/-- **Every client is coherent in every state of every run.** -/
theorem coherent_of_reach (h : liveClient.Reach always w) : Coherent w.client := by
  refine Machine.Reach.invariant (I := fun w => Coherent w.client) ?_ ?_ h
  · rintro w rfl hidle
    cases hidle
  · intro w e w' _ hI _ hstep
    exact hI.step (liveClient_step hstep).1

/-- The client shows `st` as its status, or keeps a `gcode_state` that stands for it. -/
def Shows (c : BambuPrinter) (st : LiveStatus) : Prop := c.status = st ∨ stateMap c.gcodeState = some st

/-- A report that carries a `gcode_state` that stands for `st`. -/
def Report.carries (r : Report) (st : LiveStatus) : Prop := ∃ g, r.gcodeState = some g ∧ stateMap g = some st

theorem Coherent.not_shows {st : LiveStatus} (h : Coherent c) (hidle : c.status = .idle) (hst : st ≠ .idle) :
    ¬ Shows c st := by
  rintro (hs | hg)
  · exact hst (hs.symm.trans hidle)
  · exact hst (h hidle st hg)

theorem not_shows_handlePrint {st : LiveStatus} {r : Report} (h : ¬ Shows c st) (hst : st ≠ .idle)
    (hr : ¬ r.carries st) (now : Time) : ¬ Shows (c.handlePrint now r) st := by
  have hg : stateMap (c.handlePrint now r).gcodeState ≠ some st := by
    rw [handlePrint_gcodeState]
    split
    · -- a suppressed FAILED shows as IDLE
      exact fun hs => hst (Option.some.inj hs).symm
    · intro hs
      unfold BambuPrinter.reportedState at hs
      cases hrep : r.gcodeState with
      | none => exact h (.inr (by rwa [hrep] at hs))
      | some g => exact hr ⟨g, hrep, by rwa [hrep] at hs⟩
  rintro (hs | hs)
  · rw [handlePrint_status] at hs
    cases hm : stateMap (c.handlePrint now r).gcodeState with
    | none => exact h (.inl (by rwa [hm] at hs))
    | some s => exact hg (by rw [hm] at hs ⊢; exact congrArg some hs)
  · exact hg hs

/-- **Only a report that carries it makes a client show a status** other than idle and offline. -/
theorem BambuPrinter.not_shows_step {st : LiveStatus} (h : ¬ Shows c st) (hidle : st ≠ .idle)
    (hoff : st ≠ .offline) (hr : ∀ now r, e = .report now r → ¬ r.carries st) (hstep : c.step e = some c') :
    ¬ Shows c' st := by
  rcases step_cases hstep with ⟨now, r, rfl, rfl⟩ | ⟨p, -, rfl⟩ | ⟨-, -, hrest⟩
  · exact not_shows_handlePrint h hidle (hr now r rfl) now
  · rintro (hs | hs)
    · exact hidle hs.symm
    · exact hidle (Option.some.inj hs).symm
  · rintro (hs | hs)
    · rcases hrest.status with hsame | hgone
      · exact h (.inl (hsame ▸ hs))
      · exact hoff (hs.symm.trans hgone)
    · exact h (.inr (hrest.gcodeState ▸ hs))

end BambuBabu
