import BambuBabu.Live.Client

/-!
# `Live.StartCall` — a start call among the other sections of a client

`start_print_and_confirm` leaves the lock between its idle check, its publish and every round of its wait. The
machine runs one call; between any two of its steps the client may run any section, the checks of other start
calls included (their publish and their waits do not touch the client).

`atBaseline`, `published` and `reports` are not part of the program: the client the call found, whether it has
called `client.publish`, and the reports applied since.
-/

namespace BambuBabu

open Runs

inductive StartPhase where
  | notCalled
  | checked (baseline : Nat)
  /-- Inside `client.publish` or the wait for its acknowledgement. -/
  | publishing (baseline : Nat)
  | waiting (baseline : Nat)
  | returned (snap : Snapshot)
  | raised (e : Exc)
  deriving DecidableEq

/-- The baseline of a call that is running. -/
def StartPhase.baseline : StartPhase → Option Nat
  | notCalled => none
  | checked b => some b
  | publishing b => some b
  | waiting b => some b
  | returned _ => none
  | raised _ => none

structure StartCall where
  client : BambuPrinter := {}
  phase : StartPhase := .notCalled
  atBaseline : BambuPrinter := {}
  published : Bool := false
  reports : List Report := []
  deriving DecidableEq

inductive StartEvent where
  /-- Another thread runs a section. -/
  | other (e : PrinterEvent)
  | check (p : PrinterID)
  | publish (p : PrinterID)
  | answered (outcome : PublishOutcome)
  | awaited (timedOut : Bool)

/-- Paho raises none of the exceptions this module defines. -/
def PublishOutcome.ofPaho : PublishOutcome → Bool
  | rejected _ => true
  | waitRaised e => !e.isAmbiguousStart
  | unacknowledged => true
  | acknowledged => true

/-- The report a section applies. -/
def PrinterEvent.applied : PrinterEvent → List Report
  | .report _ r => [r]
  | _ => []

namespace StartCall

variable (s : StartCall)

/-- The first section: the call finds the client as it is now. -/
def check (p : PrinterID) : StartCall :=
  match s.client.startCheck p with
  | .error e => { s with phase := .raised e, atBaseline := s.client, reports := [] }
  | .ok (b, c) => { s with client := c, phase := .checked b, atBaseline := s.client, reports := [] }

/-- `_publish` up to its `client.publish` call. -/
def publish (b : Nat) (p : PrinterID) : StartCall :=
  match s.client.publishGate p with
  | .error e => { s with phase := .raised (classifyPublish e) }
  | .ok _ => { s with phase := .publishing b, published := true }

/-- Paho's answer. -/
def answer (b : Nat) (outcome : PublishOutcome) : StartCall :=
  match startPublished outcome with
  | .error e => { s with phase := .raised e }
  | .ok _ => { s with phase := .waiting b }

/-- One round of the wait. -/
def await (cfg : Settings) (b : Nat) (timedOut : Bool) : StartCall :=
  match s.client.startWait cfg b timedOut with
  | none => s
  | some (.ok _) => { s with phase := .returned s.client.snapshot }
  | some (.error e) => { s with phase := .raised e }

def step (cfg : Settings) : StartEvent → Option StartCall
  | .other e => (s.client.step e).map fun c => { s with client := c, reports := e.applied ++ s.reports }
  | .check p => if s.phase = .notCalled then some (s.check p) else none
  | .publish p =>
      match s.phase with
      | .checked b => some (s.publish b p)
      | _ => none
  | .answered outcome =>
      match s.phase with
      | .publishing b => if outcome.ofPaho then some (s.answer b outcome) else none
      | _ => none
  | .awaited timedOut =>
      match s.phase with
      | .waiting b => some (s.await cfg b timedOut)
      | _ => none

end StartCall

/-- A client from its construction on, and one start call. -/
def startCall (cfg : Settings) : Machine StartCall StartEvent where
  init s := s = {}
  step s e := s.step cfg e

/-! ## What a step can do -/

/-- The steps of the call by what they do to its phase. -/
inductive StartTrans (cfg : Settings) (s : StartCall) : StartCall → Prop where
  | other {e : PrinterEvent} {c : BambuPrinter} (hc : s.client.step e = some c) :
      StartTrans cfg s { s with client := c, reports := e.applied ++ s.reports }
  | refused {p : PrinterID} {e : Exc} (hphase : s.phase = .notCalled) (hcheck : s.client.startCheck p = .error e) :
      StartTrans cfg s { s with phase := .raised e, atBaseline := s.client, reports := [] }
  | checked {p : PrinterID} {b : Nat} {c : BambuPrinter} (hphase : s.phase = .notCalled)
      (hcheck : s.client.startCheck p = .ok (b, c)) :
      StartTrans cfg s { s with client := c, phase := .checked b, atBaseline := s.client, reports := [] }
  | gated {b : Nat} {p : PrinterID} {e : Exc} (hphase : s.phase = .checked b)
      (hgate : s.client.publishGate p = .error e) : StartTrans cfg s { s with phase := .raised (classifyPublish e) }
  | publish {b : Nat} (hphase : s.phase = .checked b) :
      StartTrans cfg s { s with phase := .publishing b, published := true }
  | failed {b : Nat} {o : PublishOutcome} {e : Exc} (hphase : s.phase = .publishing b) (ho : o.ofPaho = true)
      (herr : startPublished o = .error e) : StartTrans cfg s { s with phase := .raised e }
  | acknowledged {b : Nat} (hphase : s.phase = .publishing b) : StartTrans cfg s { s with phase := .waiting b }
  | await {b : Nat} (hphase : s.phase = .waiting b) : StartTrans cfg s s
  | confirmed {b : Nat} {timedOut : Bool} (hphase : s.phase = .waiting b)
      (hok : s.client.startWait cfg b timedOut = some (.ok ())) :
      StartTrans cfg s { s with phase := .returned s.client.snapshot }
  | ended {b : Nat} {timedOut : Bool} {e : Exc} (hphase : s.phase = .waiting b)
      (herr : s.client.startWait cfg b timedOut = some (.error e)) : StartTrans cfg s { s with phase := .raised e }

variable {cfg : Settings} {s s' : StartCall} {e : StartEvent}

theorem startCall_trans (h : (startCall cfg).step s e = some s') : StartTrans cfg s s' := by
  have hstep : s.step cfg e = some s' := h
  cases e with
  | other e =>
      obtain ⟨c, hc, rfl⟩ := Option.map_eq_some_iff.mp hstep
      exact .other hc
  | check p =>
      simp only [StartCall.step] at hstep
      split at hstep <;> cases hstep
      next hphase =>
        unfold StartCall.check
        split
        · next hcheck => exact .refused hphase hcheck
        · next hcheck => exact .checked hphase hcheck
  | publish p =>
      simp only [StartCall.step] at hstep
      split at hstep <;> cases hstep
      next b hphase =>
        unfold StartCall.publish
        split
        · next hgate => exact .gated hphase hgate
        · exact .publish hphase
  | answered o =>
      simp only [StartCall.step] at hstep
      split at hstep
      · next b hphase =>
          split at hstep <;> cases hstep
          next ho =>
            unfold StartCall.answer
            split
            · next herr => exact .failed hphase ho herr
            · exact .acknowledged hphase
      · cases hstep
  | awaited timedOut =>
      simp only [StartCall.step] at hstep
      split at hstep <;> cases hstep
      next b hphase =>
        unfold StartCall.await
        split
        · exact .await hphase
        · next hok => exact .confirmed hphase hok
        · next herr => exact .ended hphase herr

end BambuBabu
