import BambuBabu.Live.Transport

/-!
# `Correctness.ReplacedClient` — the callbacks of a client that has been replaced

`_on_disconnect` checks the client's identity in the section in which it writes. `_on_connect` checks it in one
section and writes in another, and `_on_message` never checks it. So a replaced client can still mark the printer
as connected, or apply a report, and these are the only sections in which it can (`ignored_iff`).
-/

namespace BambuBabu

open Runs

variable {t t' : Transport} {e : TransportEvent}

/-- What a callback of a replaced client must leave alone; and it hands no snapshot on. -/
structure Untouched (t t' : Transport) : Prop where
  connected : t'.printer.connected = t.printer.connected
  status : t'.printer.status = t.printer.status
  gcodeState : t'.printer.gcodeState = t.printer.gcodeState
  version : t'.printer.reportVersion = t.printer.reportVersion
  updates : t'.updates = t.updates

/-- The section at position `i` is that of a client other than the current one. -/
def Stale (t : Transport) (i : Nat) (pc : CallbackPc) : Prop :=
  ∃ k, t.callbacks[i]? = some (k, pc) ∧ t.current ≠ some k

/-- The step is no section of a replaced client, or it changes nothing. -/
def IgnoresReplaced (t : Transport) (e : TransportEvent) : Prop :=
  ∀ t', transport.step t e = some t' → ∀ i now pc, e = .run i now → Stale t i pc → Untouched t t'

/-- What the section writes is there already. -/
def CallbackPc.idempotent (c : BambuPrinter) : CallbackPc → Prop
  | .connecting _ => True
  | .accepted rc => if rc = 0 then c.connected = true else c.connected = false ∧ c.status = .offline
  | .onDisconnect => True
  | .message _ => False

/-- The step is no write of an accepted connection, and no report, of a replaced client; except that the write
    may repeat what the printer shows. -/
def replacedCheck (t : Transport) (e : TransportEvent) : Prop :=
  ∀ i now pc, e = .run i now → Stale t i pc → pc.idempotent t.printer

/-- **A section of a replaced client changes nothing exactly if it is one of these.** -/
theorem untouched_iff {i k : Nat} {now : Time} {pc : CallbackPc} (hk : t.current ≠ some k) :
    Untouched t (t.runSection i k now pc) ↔ pc.idempotent t.printer := by
  cases pc with
  | connecting rc =>
      simp only [Transport.runSection, if_neg hk]
      exact iff_of_true ⟨rfl, rfl, rfl, rfl, rfl⟩ trivial
  | onDisconnect =>
      simp only [Transport.runSection, if_neg hk]
      exact iff_of_true ⟨rfl, rfl, rfl, rfl, rfl⟩ trivial
  | message r =>
      refine iff_of_false (fun h => ?_) id
      -- a report is counted whatever it says
      have hv : t.printer.reportVersion + 1 = t.printer.reportVersion := h.version
      omega
  | accepted rc =>
      by_cases hrc : rc = 0
      · subst hrc
        constructor
        · intro h
          exact h.connected.symm
        · intro hcon
          exact ⟨hcon.symm, rfl, rfl, rfl, rfl⟩
      · have hoff : t.printer.onConnect rc = { t.printer with connected := false, status := .offline } :=
          if_pos hrc
        show Untouched t { t with printer := t.printer.onConnect rc, callbacks := t.callbacks.eraseIdx i } ↔
          if rc = 0 then _ else _
        rw [hoff, if_neg hrc]
        constructor
        · intro h
          exact ⟨h.connected.symm, h.status.symm⟩
        · rintro ⟨hcon, hst⟩
          exact ⟨hcon.symm, hst.symm, rfl, rfl, rfl⟩

theorem ignored_iff (hstep : transport.step t e = some t') : IgnoresReplaced t e ↔ replacedCheck t e := by
  constructor
  · rintro h i now pc rfl hstale
    obtain ⟨k, hcb, hk⟩ := hstale
    have ht' : t.runSection i k now pc = t' := by
      have hrun : t.step (.run i now) = some t' := hstep
      simpa [Transport.step, hcb] using hrun
    have hun := h t' hstep i now pc rfl ⟨k, hcb, hk⟩
    rw [← ht'] at hun
    exact (untouched_iff hk).mp hun
  · rintro h t'' hstep' i now pc rfl ⟨k, hcb, hk⟩
    have ht'' : t.runSection i k now pc = t'' := by
      have hrun : t.step (.run i now) = some t'' := hstep'
      simpa [Transport.step, hcb] using hrun
    rw [← ht'']
    exact (untouched_iff hk).mpr (h i now pc rfl ⟨k, hcb, hk⟩)

/-- **Callbacks of a replaced client change nothing**, in a run exactly as long as none of them writes an
    accepted connection or applies a report. Their messages are well-formed reports here; a malformed message, which
    may apply a part of one and raise (`onMessage`), is left out, also for a replaced client. -/
theorem replaced_client_ignored (es : List TransportEvent) (t : Transport) :
    transport.Follows IgnoresReplaced {} es t ↔ transport.Follows replacedCheck {} es t :=
  Machine.Follows.congr (.init rfl) fun _ _ _ _ hstep => ignored_iff hstep

/-- A connection is accepted, and its client is replaced before it writes. -/
def staleConnect : List TransportEvent :=
  [.replace, .register 0, .connectReturned 0, .called 0 (.connecting 0), .run 0 1, .replace]

/-- **The stale write**: the printer is connected while it has no client. -/
theorem stale_connection : ¬ ∀ es t, transport.Follows always {} es t →
    transport.Follows IgnoresReplaced {} es t := by
  intro hclaim
  have hbefore : transport.run Machine.anyStep {} staleConnect =
      some { created := 1, callbacks := [(0, .accepted 0)], connects := [none] } := rfl
  have hrun := Machine.follows_of_run Machine.always_of_anyStep hbefore
  obtain ⟨t, hpre, hignored, -⟩ := (hclaim _ _ (hrun.snoc (e := .run 0 2) trivial rfl)).last
  cases hpre.det hrun
  have hun := hignored _ rfl 0 2 (.accepted 0) rfl ⟨0, rfl, by decide⟩
  cases hun.connected

end BambuBabu
