import BambuBabu.Live.StartCall
import BambuBabu.Service.Threads

/-!
# `Correctness.StartConfirmation` — a start is confirmed by a new report, and rejected by one

The wait of `start_print_and_confirm` reads the kept `status` and `gcode_state`, not the report that woke it. It
is sound because the idle check found a coherent client: that one shows neither a print nor a failure
(`Coherent.not_shows`), and only a report that carries the state changes this (`not_shows_step`).
-/

namespace BambuBabu

open Runs

/-! ## The two answers -/

theorem stateMap_printing {g : GcodeState} : stateMap g = some .printing ↔ g = .prepare ∨ g = .running := by
  cases g <;> simp [stateMap]

theorem stateMap_error {g : GcodeState} : stateMap g = some .error ↔ g = .failed := by
  cases g <;> simp [stateMap]

/-- Shown by one of the reports since the baseline. -/
def StartCall.reported (s : StartCall) (st : LiveStatus) : Prop := ∃ r ∈ s.reports, r.carries st

theorem reported_printing {s : StartCall} (h : s.reported .printing) :
    ∃ r ∈ s.reports, r.gcodeState = some .prepare ∨ r.gcodeState = some .running := by
  obtain ⟨r, hr, g, hg, hm⟩ := h
  refine ⟨r, hr, ?_⟩
  rcases stateMap_printing.mp hm with rfl | rfl
  · exact .inl hg
  · exact .inr hg

theorem reported_error {s : StartCall} (h : s.reported .error) :
    ∃ r ∈ s.reports, r.gcodeState = some .failed := by
  obtain ⟨r, hr, g, hg, hm⟩ := h
  rw [stateMap_error.mp hm] at hg
  exact ⟨r, hr, hg⟩

variable {c c' : BambuPrinter} {cfg : Settings} {p : PrinterID} {b : Nat} {timedOut : Bool}

theorem shows_printing_of_wait (h : c.startWait cfg b timedOut = some (.ok ())) : Shows c .printing := by
  obtain ⟨-, hg | hg | hs⟩ := BambuPrinter.startWait_ok h
  · exact .inr (stateMap_printing.mpr (.inl hg))
  · exact .inr (stateMap_printing.mpr (.inr hg))
  · exact .inl hs

theorem shows_error_of_wait {m : String}
    (h : c.startWait cfg b timedOut = some (.error (.printStartRejected m))) : Shows c .error := by
  unfold BambuPrinter.startWait at h
  split at h
  · cases h
  · split at h
    · next hfail =>
        rcases hfail with hg | hs
        · exact .inr (stateMap_error.mpr hg)
        · exact .inl hs
    · split at h <;> cases h

/-! ## The other exceptions -/

theorem startCheck_error {e : Exc} (h : c.startCheck p = .error e) : ∃ m, e = .runtimeError m := by
  unfold BambuPrinter.startCheck at h
  split at h
  · cases h
    exact ⟨_, rfl⟩
  · split at h
    · cases h
      exact ⟨_, rfl⟩
    · cases h

theorem publishGate_error {e : Exc} (h : c.publishGate p = .error e) : ∃ m, e = .runtimeError m := by
  unfold BambuPrinter.publishGate at h
  split at h
  · cases h
    exact ⟨_, rfl⟩
  · cases h

/-- Classifying an exception of `_publish` makes no rejection of it. -/
theorem classifyPublish_rejected {e : Exc} {m : String} (h : classifyPublish e = .printStartRejected m) :
    e = .printStartRejected m := by
  unfold classifyPublish at h
  split at h
  · cases h
  · exact h

theorem startPublished_ne_rejected {o : PublishOutcome} {m : String} (ho : o.ofPaho = true) :
    startPublished o ≠ .error (.printStartRejected m) := by
  intro h
  cases o with
  | rejected rc => cases classifyPublish_rejected (Except.error.inj h)
  | waitRaised e =>
      have he : e = .printStartRejected m := classifyPublish_rejected (Except.error.inj h)
      subst he
      cases ho
  | unacknowledged =>
      have hmsg : startPublished .unacknowledged = .error (classifyPublish
          (.runtimeError "MQTT publish was not acknowledged by the broker")) := rfl
      cases classifyPublish_rejected (Except.error.inj (hmsg.symm.trans h))
  | acknowledged => cases h

/-! ## The invariant of a call -/

structure ConfirmedByReport (s : StartCall) : Prop where
  coherent : Coherent s.client
  /-- While the call runs, the client shows a print or a failure only if a report has. -/
  fresh : ∀ b st, s.phase.baseline = some b → st ≠ .idle → st ≠ .offline → Shows s.client st → s.reported st
  returned : ∀ snap, s.phase = .returned snap → s.reported .printing
  rejected : ∀ m, s.phase = .raised (.printStartRejected m) → s.reported .error
  passed : s.phase.baseline.isSome ∨ s.published = true →
    s.atBaseline.connected = true ∧ s.atBaseline.status = .idle
  uncalled : s.phase = .notCalled → s.published = false

/-- A call that ends: a confirmation or a rejection needs its report. -/
theorem ConfirmedByReport.finish {s : StartCall} {ph : StartPhase} (h : ConfirmedByReport s)
    (hcalled : ph ≠ .notCalled) (hend : ph.baseline = none)
    (hret : ∀ snap, ph = .returned snap → s.reported .printing)
    (hrej : ∀ m, ph = .raised (.printStartRejected m) → s.reported .error)
    (hrun : s.phase.baseline.isSome) : ConfirmedByReport { s with phase := ph } where
  coherent := h.coherent
  fresh := by
    intro b st hb
    rw [hend] at hb
    cases hb
  returned := hret
  rejected := hrej
  passed := fun _ => h.passed (.inl hrun)
  uncalled := fun hn => absurd hn hcalled

/-- It may end with any other exception. -/
theorem ConfirmedByReport.raise {s : StartCall} {e : Exc} (h : ConfirmedByReport s)
    (hne : ∀ m, e ≠ .printStartRejected m) (hrun : s.phase.baseline.isSome) :
    ConfirmedByReport { s with phase := .raised e } := by
  refine h.finish (fun hn => by cases hn) rfl (fun snap hsnap => by cases hsnap) ?_ hrun
  intro m hm
  cases hm
  exact absurd rfl (hne m)

/-- A call that goes on. -/
theorem ConfirmedByReport.advance {s : StartCall} {b : Nat} {ph : StartPhase} {pub : Bool}
    (h : ConfirmedByReport s) (hb : s.phase.baseline = some b) (hph : ph.baseline = some b) :
    ConfirmedByReport { s with phase := ph, published := pub } where
  coherent := h.coherent
  fresh := fun _ st _ hidle hoff hs => h.fresh b st hb hidle hoff hs
  returned := by
    rintro snap rfl
    cases hph
  rejected := by
    rintro m rfl
    cases hph
  passed := fun _ => h.passed (.inl (by rw [hb]; rfl))
  uncalled := by
    rintro rfl
    cases hph

variable {s s' : StartCall}

/-- Another thread's section: what it makes the client show, it has reported. -/
theorem ConfirmedByReport.other {e : PrinterEvent} (h : ConfirmedByReport s) (hc : s.client.step e = some c') :
    ConfirmedByReport { s with client := c', reports := e.applied ++ s.reports } := by
  have hmore : ∀ st, s.reported st → StartCall.reported
      { s with client := c', reports := e.applied ++ s.reports } st := by
    rintro st ⟨r, hr, hcar⟩
    exact ⟨r, List.mem_append_right _ hr, hcar⟩
  refine ⟨h.coherent.step hc, ?_, ?_, ?_, h.passed, h.uncalled⟩
  · intro b st hb hidle hoff hs
    by_contra hno
    -- no report so far shows `st`, so the client did not, and this section is no such report either
    have hbefore : ¬ Shows s.client st := fun hshow => hno (hmore st (h.fresh b st hb hidle hoff hshow))
    refine BambuPrinter.not_shows_step hbefore hidle hoff ?_ hc hs
    rintro now r rfl hcar
    exact hno ⟨r, List.mem_append_left _ (List.mem_singleton.mpr rfl), hcar⟩
  · exact fun snap hsnap => hmore _ (h.returned snap hsnap)
  · exact fun m hm => hmore _ (h.rejected m hm)

/-- **One step keeps the invariant.** -/
theorem ConfirmedByReport.step (h : ConfirmedByReport s) (ht : StartTrans cfg s s') : ConfirmedByReport s' := by
  cases ht with
  | other hc => exact h.other hc
  | refused hphase hcheck =>
      obtain ⟨m, rfl⟩ := startCheck_error hcheck
      refine ⟨h.coherent, ?_, ?_, ?_, ?_, ?_⟩
      · intro b st hb
        cases hb
      · intro snap hsnap
        cases hsnap
      · intro m' hm
        cases hm
      · rintro (hb | hpub)
        · cases hb
        · rw [h.uncalled hphase] at hpub
          cases hpub
      · intro hn
        cases hn
  | checked hphase hcheck =>
      obtain ⟨hcon, hidle, -, rfl⟩ := BambuPrinter.startCheck_ok hcheck
      have hcoh : Coherent { s.client with failedReportAcknowledged := false } := h.coherent
      refine ⟨hcoh, ?_, ?_, ?_, fun _ => ⟨hcon, hidle⟩, ?_⟩
      · -- the check found the client idle, and a coherent idle client shows nothing else
        intro b st _ hst _ hs
        exact absurd hs (hcoh.not_shows hidle hst)
      · intro snap hsnap
        cases hsnap
      · intro m hm
        cases hm
      · intro hn
        cases hn
  | gated hphase hgate =>
      obtain ⟨m, rfl⟩ := publishGate_error hgate
      exact h.raise (fun m' hm => by cases classifyPublish_rejected hm) (by rw [hphase]; rfl)
  | publish hphase => exact h.advance (by rw [hphase]; rfl) rfl
  | failed hphase ho herr =>
      exact h.raise (fun m hm => startPublished_ne_rejected ho (hm ▸ herr)) (by rw [hphase]; rfl)
  | acknowledged hphase => exact h.advance (by rw [hphase]; rfl) rfl
  | await hphase => exact h
  | @confirmed b timedOut hphase hok =>
      have hrun : s.phase.baseline = some b := by rw [hphase]; rfl
      have hstart : s.reported .printing :=
        h.fresh b _ hrun (by decide) (by decide) (shows_printing_of_wait hok)
      exact h.finish (fun hn => by cases hn) rfl (fun _ _ => hstart) (fun m hm => by cases hm)
        (by rw [hrun]; rfl)
  | @ended b timedOut e hphase herr =>
      have hrun : s.phase.baseline = some b := by rw [hphase]; rfl
      refine h.finish (fun hn => by cases hn) rfl (fun snap hsnap => by cases hsnap) ?_ (by rw [hrun]; rfl)
      intro m hm
      cases hm
      exact h.fresh b _ hrun (by decide) (by decide) (shows_error_of_wait herr)

theorem confirmedByReport_init : ConfirmedByReport {} where
  coherent := by
    intro hidle
    cases hidle
  fresh := by
    intro b st hb
    cases hb
  returned := by
    intro snap hsnap
    cases hsnap
  rejected := by
    intro m hm
    cases hm
  passed := by
    rintro (hb | hpub)
    · cases hb
    · cases hpub
  uncalled := fun _ => rfl

theorem confirmedByReport_of_reach (h : (startCall cfg).Reach always s) : ConfirmedByReport s := by
  refine Machine.Reach.invariant ?_ ?_ h
  · rintro s rfl
    exact confirmedByReport_init
  · intro s e s' _ hI _ hstep
    exact hI.step (startCall_trans hstep)

/-- **Start confirmation is sound.** -/
theorem start_confirmation_sound (h : (startCall cfg).Reach always s) :
    (∀ snap, s.phase = .returned snap →
      ∃ r ∈ s.reports, r.gcodeState = some .prepare ∨ r.gcodeState = some .running) ∧
    (∀ m, s.phase = .raised (.printStartRejected m) → ∃ r ∈ s.reports, r.gcodeState = some .failed) ∧
    (¬ (s.atBaseline.connected = true ∧ s.atBaseline.status = .idle) → s.published = false) := by
  have hI := confirmedByReport_of_reach h
  refine ⟨?_, ?_, ?_⟩
  · intro snap hsnap
    exact reported_printing (hI.returned snap hsnap)
  · intro m hm
    exact reported_error (hI.rejected m hm)
  · intro hno
    by_contra hpub
    exact hno (hI.passed (.inr (by simpa using hpub)))

theorem start_confirmation_sound_running : ∃ s, (startCall Script.p1sOnly).Reach always s ∧
    (∃ snap, s.phase = .returned snap) ∧
    ∃ r ∈ s.reports, r.gcodeState = some .prepare ∨ r.gcodeState = some .running := by
  obtain ⟨s, hr, hs⟩ := Machine.reach_of_run (M := startCall Script.p1sOnly) Machine.always_of_anyStep
    [.other .registerClient, .other (.onConnect 0), .other (.report 0 { gcodeState := some .idle }), .check .p1s,
      .publish .p1s, .answered .acknowledged, .other (.report 1 { gcodeState := some .running }), .awaited false]
    (fun s : StartCall => s.phase = .returned s.client.snapshot) (s := {}) rfl (by decide +kernel)
  have hphase : s.phase = .returned s.client.snapshot := of_decide_eq_true hs
  exact ⟨s, hr, ⟨_, hphase⟩, (start_confirmation_sound hr).1 _ hphase⟩

end BambuBabu
