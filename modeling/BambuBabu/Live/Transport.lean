import BambuBabu.Live.Client

/-!
# `Live.Transport` — the MQTT clients of one printer and their callbacks

`_connect_mqtt` replaces the Paho client, and Paho runs the callbacks of every client on a thread of its own. A
client is known by the number of clients created before it. A callback in flight is named by its client and the
section it runs next; sections of any callbacks and any `_connect_mqtt` calls interleave freely.

The printer of this machine lives the life of `Live.Client` (`liveClient_of_transport`). Messages are well-formed
reports here; what becomes of any others is in `Live.Messages`.
-/

namespace BambuBabu

open Runs

/-- The section a callback runs next. -/
inductive CallbackPc where
  /-- `_on_connect`: its identity check. -/
  | connecting (rc : Nat)
  /-- `_on_connect` past the check: its write. -/
  | accepted (rc : Nat)
  | onDisconnect
  /-- `_on_message` of a well-formed report. -/
  | message (report : Report)
  deriving DecidableEq

/-- Whether Paho calls back into this section. -/
def CallbackPc.entry : CallbackPc → Bool
  | accepted _ => false
  | _ => true

structure Transport where
  printer : BambuPrinter := {}
  /-- `_client` -/
  current : Option Nat := none
  created : Nat := 0
  callbacks : List (Nat × CallbackPc) := []
  /-- The `_connect_mqtt` calls in flight: the client that is connecting, once it is registered. -/
  connects : List (Option Nat) := []
  /-- The snapshots handed to `on_status_update`, newest first. -/
  updates : List Snapshot := []
  deriving DecidableEq

inductive TransportEvent where
  /-- A call of `_connect_mqtt` runs its first section. -/
  | replace
  /-- The call at position `i` creates its client and registers it. -/
  | register (i : Nat)
  /-- Its `connect` and `loop_start` return, -/
  | connectReturned (i : Nat)
  /-- or raise. -/
  | connectRaised (i : Nat)
  /-- `disconnect()` runs its section. -/
  | disconnect
  /-- Paho calls back for client `k`. -/
  | called (k : Nat) (pc : CallbackPc)
  /-- The callback at position `i` runs its next section. -/
  | run (i : Nat) (now : Time)
  | acknowledge (p : PrinterID)
  | start (p : PrinterID)
  deriving DecidableEq

namespace Transport

variable (t : Transport)

/-- The next section of the callback at position `i`, which is client `k`'s and at `pc`. -/
def runSection (i k : Nat) (now : Time) : CallbackPc → Transport
  | .connecting rc =>
      if t.current = some k then { t with callbacks := t.callbacks.set i (k, .accepted rc) }
      else { t with callbacks := t.callbacks.eraseIdx i }
  | .accepted rc => { t with printer := t.printer.onConnect rc, callbacks := t.callbacks.eraseIdx i }
  | .onDisconnect =>
      if t.current = some k then
        { t with
          printer := t.printer.onDisconnect
          callbacks := t.callbacks.eraseIdx i
          updates := t.printer.onDisconnect.snapshot :: t.updates }
      else { t with callbacks := t.callbacks.eraseIdx i }
  | .message r =>
      { t with
        printer := t.printer.handlePrint now r
        callbacks := t.callbacks.eraseIdx i
        updates := (t.printer.handlePrint now r).snapshot :: t.updates }

def step : TransportEvent → Option Transport
  | .replace =>
      some { t with printer := t.printer.dropClient, current := none, connects := t.connects ++ [none] }
  | .register i =>
      match t.connects[i]? with
      | some none =>
          some { t with
            printer := t.printer.registerClient
            current := some t.created
            created := t.created + 1
            connects := t.connects.set i (some t.created) }
      | _ => none
  | .connectReturned i =>
      match t.connects[i]? with
      | some (some _) => some { t with connects := t.connects.eraseIdx i }
      | _ => none
  | .connectRaised i =>
      match t.connects[i]? with
      | some (some k) =>
          some { t with
            printer := t.printer.connectRaised (t.current = some k)
            current := if t.current = some k then none else t.current
            connects := t.connects.eraseIdx i }
      | _ => none
  | .disconnect => some { t with printer := t.printer.disconnect }
  | .called k pc =>
      if k < t.created ∧ pc.entry = true then some { t with callbacks := t.callbacks ++ [(k, pc)] }
      else none
  | .run i now => (t.callbacks[i]?).map fun cb => t.runSection i cb.1 now cb.2
  | .acknowledge p =>
      (t.printer.step (.acknowledge p)).map fun c => { t with printer := c, updates := c.snapshot :: t.updates }
  | .start p => (t.printer.step (.start p)).map fun c => { t with printer := c }

end Transport

def transport : Machine Transport TransportEvent where
  init t := t = {}
  step := Transport.step

/-! ## The printer lives its life -/

variable {t t' : Transport} {e : TransportEvent}

/-- A step of a transport is at most one section of its printer. -/
theorem transport_printer (h : transport.step t e = some t') :
    t'.printer = t.printer ∨ ∃ e', t.printer.step e' = some t'.printer := by
  have hstep : t.step e = some t' := h
  cases e with
  | replace => cases hstep; exact .inr ⟨.dropClient, rfl⟩
  | disconnect => cases hstep; exact .inr ⟨.disconnect, rfl⟩
  | register i =>
      simp only [Transport.step] at hstep
      split at hstep <;> cases hstep
      exact .inr ⟨.registerClient, rfl⟩
  | connectReturned i =>
      simp only [Transport.step] at hstep
      split at hstep <;> cases hstep
      exact .inl rfl
  | connectRaised i =>
      simp only [Transport.step] at hstep
      split at hstep <;> cases hstep
      exact .inr ⟨.connectRaised _, rfl⟩
  | called k pc =>
      simp only [Transport.step] at hstep
      split at hstep <;> cases hstep
      exact .inl rfl
  | run i now =>
      obtain ⟨⟨k, pc⟩, -, rfl⟩ := Option.map_eq_some_iff.mp hstep
      cases pc with
      | connecting rc =>
          simp only [Transport.runSection]
          split <;> exact .inl rfl
      | accepted rc => exact .inr ⟨.onConnect rc, rfl⟩
      | onDisconnect =>
          -- the identity check stands in the same section as the writes
          simp only [Transport.runSection]
          split
          · exact .inr ⟨.onDisconnect, rfl⟩
          · exact .inl rfl
      | message r => exact .inr ⟨.report now r, rfl⟩
  | acknowledge p =>
      obtain ⟨c, hc, rfl⟩ := Option.map_eq_some_iff.mp hstep
      exact .inr ⟨.acknowledge p, hc⟩
  | start p =>
      obtain ⟨c, hc, rfl⟩ := Option.map_eq_some_iff.mp hstep
      exact .inr ⟨.start p, hc⟩

/-- **Refinement**: whatever its clients and callbacks do, the printer is in a state of a run of `liveClient`. -/
theorem liveClient_of_transport (h : transport.Reach always t) :
    ∃ log, liveClient.Reach always ⟨t.printer, log⟩ := by
  obtain ⟨t₀, rfl, hp⟩ := h
  have hsim : ∃ w, liveClient.Path always {} w ∧ t.printer = w.client := by
    refine Machine.Path.simulate (R := fun (t : Transport) (w : Watched) => t.printer = w.client) ?_ hp rfl
    intro t e t' w hR _ hstep
    rcases transport_printer hstep with hsame | ⟨e', he'⟩
    · exact .inl (hsame.trans hR)
    · rw [hR] at he'
      exact .inr ⟨e', ⟨t'.printer, e' :: w.log⟩, trivial, Option.map_eq_some_iff.mpr ⟨_, he', rfl⟩, rfl⟩
  obtain ⟨w, hw, hR⟩ := hsim
  exact ⟨w.log, {}, rfl, hR ▸ hw⟩

/-- A section of a callback leaves `_client` alone. -/
theorem runSection_client {i k : Nat} {now : Time} {pc : CallbackPc} :
    (t.runSection i k now pc).printer.client = t.printer.client ∧
      (t.runSection i k now pc).current = t.current := by
  cases pc with
  | connecting rc =>
      simp only [Transport.runSection]
      split <;> exact ⟨rfl, rfl⟩
  | accepted rc =>
      show (t.printer.onConnect rc).client = _ ∧ t.current = _
      unfold BambuPrinter.onConnect
      split <;> exact ⟨rfl, rfl⟩
  | onDisconnect =>
      simp only [Transport.runSection]
      split <;> exact ⟨rfl, rfl⟩
  | message r => exact ⟨rfl, rfl⟩

/-- `_client` is set exactly while there is a current client. -/
theorem transport_client (h : transport.Reach always t) : t.printer.client = t.current.isSome := by
  refine Machine.Reach.invariant (I := fun t => t.printer.client = t.current.isSome) ?_ ?_ h
  · rintro t rfl
    rfl
  · intro t e t' _ hI _ hstep
    have hstep : t.step e = some t' := hstep
    cases e with
    | replace | disconnect => cases hstep; first | rfl | exact hI
    | register i =>
        simp only [Transport.step] at hstep
        split at hstep <;> cases hstep
        rfl
    | connectReturned i =>
        simp only [Transport.step] at hstep
        split at hstep <;> cases hstep
        exact hI
    | connectRaised i =>
        simp only [Transport.step] at hstep
        split at hstep <;> cases hstep
        next k _ =>
          -- only the current client is given up
          by_cases hk : t.current = some k
          · simp [BambuPrinter.connectRaised, hk]
          · simp [BambuPrinter.connectRaised, hk, hI]
    | called k pc =>
        simp only [Transport.step] at hstep
        split at hstep <;> cases hstep
        exact hI
    | run i now =>
        obtain ⟨⟨k, pc⟩, -, rfl⟩ := Option.map_eq_some_iff.mp hstep
        obtain ⟨hclient, hcurrent⟩ :=
          (runSection_client : (t.runSection i k now pc).printer.client = _ ∧ _)
        show (t.runSection i k now pc).printer.client = (t.runSection i k now pc).current.isSome
        rw [hclient, hcurrent]
        exact hI
    | acknowledge p =>
        obtain ⟨c, hc, rfl⟩ := Option.map_eq_some_iff.mp hstep
        obtain ⟨-, -, -, rfl⟩ := BambuPrinter.step_acknowledge hc
        exact hI
    | start p =>
        obtain ⟨c, hc, rfl⟩ := Option.map_eq_some_iff.mp hstep
        obtain ⟨-, -, rfl⟩ := BambuPrinter.step_start hc
        exact hI

end BambuBabu
