import BambuBabu.Service.Views

/-!
# `Correctness.DispatchGate` — dispatch follows the last report

`_try_dispatch` looks at the durable status of the printer. The callback writes that column from every
snapshot, but it is not its only writer: the release after a failed handoff sets it to IDLE whatever the
printer reported in the meantime, and so does the handler of a FINISH snapshot, which may come from a client
that has just lost its connection.

* `gate_broken` — the failing run: a printer that went offline during a handoff is dispatched to again.
* `Gated` — the invariant in runs where neither happens.
* `dispatch_gate` — **the theorem**: in such runs every dispatch follows a report of an idle printer.
-/

namespace BambuBabu

open Storage Runs

/-- The last snapshot of `p` that was processed maps to IDLE. -/
def lastIdle (p : PrinterID) (history : List Occurrence) : Prop :=
  ∃ snap, lastProcessed p history = some snap ∧ statusMap snap.status = .idle

/-- The dispatch gate: a dispatch follows a report of an idle printer. -/
def DispatchGate : Prop :=
  ∀ s e s' p, service.Reach always s → service.step s e = some s' → DispatchesOn p s s' → lastIdle p s.history

/-- The release after a failed handoff frees no slot unless the last snapshot of the printer maps to IDLE,
    and no snapshot completes a job by its FINISH unless its status maps to IDLE. -/
structure noBlindIdle (s : Service) (e : Event) : Prop where
  release : ∀ i e' h j, e = .handoff i e' → s.handoffs[i]? = some h → h.pc = .releasing →
    (s.db.printers h.printer).currentJobId = some h.id → s.db.job h.id = some j → j.status = .failed →
    lastIdle h.printer s.history
  finish : ∀ i p c snap id j, e = .callback i → s.pending[i]? = some (p, c) → c.payload = some snap →
    (s.db.printers p).currentJobId = some id → s.db.job id = some j → j.status ∈ awaitingReport →
    snap.gcodeState = .finish → statusMap snap.status = .idle

/-- The upload of the file fails after the printer went offline; the release makes the printer look idle, and
    the next job is dispatched to it. -/
theorem gate_broken : ¬ DispatchGate := by
  intro hclaim
  obtain ⟨s, hr, hs⟩ := Machine.reach_of_run (M := service) Machine.always_of_anyStep
    (Script.online ++ Script.reportState .idle ++ [Script.upload "a"] ++ Script.slice "a" ++
      Script.dispatch ++ [Script.upload "b"] ++ Script.slice "b" ++
      [.tick, .tick, .tick, .handoff 0 .next, .live .p1s .onDisconnect, .callback 0,
        .handoff 0 (.transferred (some "FTPS upload failed")), .handoff 0 .next, .handoff 0 .next,
        .tick, .tick])
    (fun s => (lastProcessed .p1s s.history).map Snapshot.status = some .offline ∧
      (s.db.job "b").map Job.status = some .queued ∧ (service.step s .tick).any (fun s' =>
        (s'.db.job "b").map (fun j => (j.status, j.assignedPrinter)) = some (.uploading, some .p1s)))
    (service_init Script.p1sOnly 0) (by decide +kernel)
  obtain ⟨hlast, hqueued, hrest⟩ := of_decide_eq_true hs
  obtain ⟨s', hs', hdisp⟩ := (Option.any_eq_true _ _).mp hrest
  obtain ⟨snap, hsnap, hoffline⟩ := Option.map_eq_some_iff.mp hlast
  obtain ⟨j, hj, hjs⟩ := Option.map_eq_some_iff.mp hqueued
  obtain ⟨j', hj', hjs'⟩ := Option.map_eq_some_iff.mp (of_decide_eq_true hdisp)
  obtain ⟨hup, hp⟩ := Prod.mk.inj hjs'
  obtain ⟨snap', hsnap', hidle⟩ := hclaim s .tick s' .p1s hr hs' ⟨"b", j, j', hj, hj', hjs, hup, hp⟩
  cases Option.some.inj (hsnap.symm.trans hsnap')
  rw [hoffline] at hidle
  cases hidle

/-- A printer row that shows IDLE was last reported idle. -/
def Gated (s : Service) : Prop := ∀ p, (s.db.printers p).status = .idle → lastIdle p s.history

variable {s s' : Service} {e : Event}

/-- **Every step but those two keeps the gate.** -/
theorem Gated.step (hG : Gated s) (ht : Trans s e s') (hok : noBlindIdle s e) : Gated s' := by
  intro p hidle
  -- a step that processes no snapshot of the printer and keeps its status
  have hkept : (s'.db.printers p).status = (s.db.printers p).status →
      (∀ snap, s'.history ≠ .processed p snap :: s.history) → lastIdle p s'.history := fun hst hquiet => by
    unfold lastIdle
    rw [ht.history.lastProcessed hquiet]
    exact hG p (hst ▸ hidle)
  -- a snapshot that is processed is the last one
  have hlast : ∀ {snap : Snapshot}, s'.history = .processed p snap :: s.history →
      statusMap snap.status = .idle → lastIdle p s'.history := fun {snap} hist hmap =>
    ⟨snap, by rw [hist, lastProcessed_processed], hmap⟩
  cases ht.printer p with
  | kept h hquiet => exact hkept (by rw [h]) hquiet
  | reported _ _ _ hist _ _ hst => exact hlast hist (hst.symm.trans hidle)
  | @settled i c snap id j new he hi hc hist hown hj hset =>
      rw [hidle] at hset
      obtain ⟨hfinish, hwait⟩ := snap.settled_idle hset
      exact hlast hist (hok.finish i p c snap id j he hi hc hown hj hwait hfinish)
  | dispatched he _ _ _ _ _ hst => exact hkept hst (ht.history.quiet (by rw [he]; simp))
  | blocked he _ _ _ _ _ hst => exact hkept hst (ht.history.quiet (by rw [he]; simp))
  | cleared he _ _ _ hst => exact hkept hst (ht.history.quiet (by rw [he]; simp))
  | quarantined _ _ _ _ _ _ hst => rw [hst] at hidle; cases hidle
  | recovered _ _ _ hst => rw [hidle] at hst; exact absurd hst (by decide)
  | @released i h e' j he hh hp hpc hown hj hs =>
      subst hp
      have hlast := hok.release i e' h j he hh hpc hown hj hs
      unfold lastIdle at hlast ⊢
      rw [ht.history.lastProcessed (ht.history.quiet (by rw [he]; simp))]
      exact hlast

theorem gated_of_reach (h : service.Reach noBlindIdle s) : Gated s :=
  h.invariant
    (fun s hinit => by
      obtain ⟨cfg, now, rfl⟩ := hinit
      intro p hidle
      cases hidle)
    fun _ _ _ hr hG hok hstep => hG.step (trans_of_reach hr hstep) hok

/-- **The dispatch gate holds** in every run without a blind reset to IDLE. -/
theorem dispatch_gate {p : PrinterID} (hr : service.Reach noBlindIdle s) (hstep : service.step s e = some s')
    (hdisp : DispatchesOn p s s') : lastIdle p s.history := by
  have hidle : (s.db.printers p).status = .idle := (hdisp.free (trans_of_reach hr hstep)).2.1
  exact gated_of_reach hr p hidle

/-- The check that no worker releases its printer and no report is FINISH. -/
def noRelease (s : Service) (e : Event) : Bool :=
  match e with
  | .handoff i _ => match s.handoffs[i]? with
    | some h => h.pc ≠ .releasing
    | none => true
  | .callback i => match s.pending[i]? with
    | some (_, c) => match c.payload with
      | some snap => snap.gcodeState ≠ .finish
      | none => true
    | none => true
  | _ => true

theorem noRelease_ok (s : Service) (e : Event) (h : noRelease s e = true) : noBlindIdle s e where
  release := by
    rintro i e' k j rfl hk hpc -
    simp [noRelease, hk, hpc] at h
  finish := by
    rintro i p c snap id j rfl hi hc - - - hfinish
    simp [noRelease, hi, hc, hfinish] at h

/-- A job is dispatched to an idle printer. -/
theorem dispatch_gate_open : ∃ s s' : Service, DispatchesOn .p1s s s' ∧ lastIdle .p1s s.history := by
  obtain ⟨s, hr, hs⟩ := Machine.reach_of_run (M := service) noRelease_ok
    (Script.online ++ Script.reportState .idle ++ [Script.upload "a"] ++ Script.slice "a")
    (fun s => (s.db.job "a").map Job.status = some .queued ∧ (service.step s .tick).any (fun s' =>
        (s'.db.job "a").map (fun j => (j.status, j.assignedPrinter)) = some (.uploading, some .p1s)))
    (service_init Script.p1sOnly 0) (by decide +kernel)
  obtain ⟨hqueued, hrest⟩ := of_decide_eq_true hs
  obtain ⟨s', hs', hdisp⟩ := (Option.any_eq_true _ _).mp hrest
  obtain ⟨j, hj, hjs⟩ := Option.map_eq_some_iff.mp hqueued
  obtain ⟨j', hj', hjs'⟩ := Option.map_eq_some_iff.mp (of_decide_eq_true hdisp)
  obtain ⟨hup, hp⟩ := Prod.mk.inj hjs'
  have hdispatches : DispatchesOn .p1s s s' := ⟨"a", j, j', hj, hj', hjs, hup, hp⟩
  exact ⟨s, s', hdispatches, dispatch_gate hr hs' hdispatches⟩

end BambuBabu
