import BambuBabu.Live.Client

/-!
# `Correctness.FailedWindow` — when a FAILED report is suppressed

`_failed_report_acknowledged` is a hidden flag that three operations write. `WindowOpen` says what it is for, in
terms of what has happened to the client: an acknowledgement opens the window, and the first later report of
another `gcode_state` or start call closes it. The flag is the window (`flag_iff_window`), so a FAILED report is
suppressed exactly inside it.
-/

namespace BambuBabu

open Runs

/-! ## The window -/

def PrinterEvent.acknowledges : PrinterEvent → Bool
  | .acknowledge _ => true
  | _ => false

/-- A report of a `gcode_state` other than FAILED, or a start call that passes its check. -/
def PrinterEvent.closesWindow : PrinterEvent → Bool
  | .report _ r => r.gcodeState.any fun g => g ≠ .failed
  | .start _ => true
  | _ => false

/-- A report without `gcode_state`, or the end of a connection. -/
def PrinterEvent.neutral : PrinterEvent → Bool
  | .report _ r => r.gcodeState.isNone
  | .onDisconnect => true
  | .disconnect => true
  | _ => false

/-- Some acknowledgement has succeeded, and nothing since the last one closes the window. -/
def WindowOpen (log : List PrinterEvent) : Prop :=
  ∃ since p before, log = since ++ .acknowledge p :: before ∧
    ∀ e ∈ since, e.acknowledges = false ∧ e.closesWindow = false

variable {c c' : BambuPrinter} {e : PrinterEvent} {log : List PrinterEvent} {w w' : Watched}

theorem windowOpen_cons : WindowOpen (e :: log) ↔
    e.acknowledges = true ∨ (e.closesWindow = false ∧ WindowOpen log) := by
  constructor
  · rintro ⟨since, p, before, hlog, hsince⟩
    cases since with
    | nil =>
        obtain ⟨rfl, -⟩ := List.cons.inj hlog
        exact .inl rfl
    | cons a since =>
        obtain ⟨rfl, hrest⟩ := List.cons.inj hlog
        have ha := hsince e (List.mem_cons_self ..)
        exact .inr ⟨ha.2, since, p, before, hrest, fun x hx => hsince x (List.mem_cons_of_mem _ hx)⟩
  · rintro (hack | ⟨hclose, since, p, before, rfl, hsince⟩)
    · cases e with
      | acknowledge p => exact ⟨[], p, log, rfl, fun x hx => by cases hx⟩
      | _ => cases hack
    · cases hack : e.acknowledges with
      | true =>
          cases e with
          | acknowledge q => exact ⟨[], q, _, rfl, fun x hx => by cases hx⟩
          | _ => cases hack
      | false =>
          refine ⟨e :: since, p, before, rfl, ?_⟩
          intro x hx
          rcases List.mem_cons.mp hx with rfl | hmem
          · exact ⟨hack, hclose⟩
          · exact hsince x hmem

theorem windowOpen_neutral (h : e.neutral = true) : WindowOpen (e :: log) ↔ WindowOpen log := by
  have hfacts : e.acknowledges = false ∧ e.closesWindow = false := by
    cases e with
    | report now r =>
        have hnone : r.gcodeState = none := Option.isNone_iff_eq_none.mp h
        exact ⟨rfl, by simp [PrinterEvent.closesWindow, hnone]⟩
    | onDisconnect => exact ⟨rfl, rfl⟩
    | disconnect => exact ⟨rfl, rfl⟩
    | _ => cases h
  rw [windowOpen_cons, hfacts.1, hfacts.2]
  simp

/-! ## The flag -/

/-- A report clears the flag if it closes the window. -/
theorem handlePrint_flag (now : Time) (r : Report) :
    (c.handlePrint now r).failedReportAcknowledged =
      (!(PrinterEvent.report now r).closesWindow && c.failedReportAcknowledged) := by
  unfold BambuPrinter.handlePrint PrinterEvent.closesWindow
  cases hrep : r.gcodeState with
  | none => simp [hrep]
  | some g =>
      by_cases hg : g = .failed
      · simp [hrep, hg]
      · simp [hrep, hg]

/-- **What one section does to the flag.** -/
theorem BambuPrinter.flag_step (h : c.step e = some c') :
    c'.failedReportAcknowledged = true ↔
      e.acknowledges = true ∨ (e.closesWindow = false ∧ c.failedReportAcknowledged = true) := by
  cases e with
  | report now r =>
      cases h
      rw [handlePrint_flag]
      simp [PrinterEvent.acknowledges]
  | acknowledge p =>
      obtain ⟨-, -, -, rfl⟩ := step_acknowledge h
      simp [PrinterEvent.acknowledges]
  | start p =>
      obtain ⟨-, -, rfl⟩ := step_start h
      simp [PrinterEvent.acknowledges, PrinterEvent.closesWindow]
  | onConnect rc =>
      cases h
      unfold onConnect
      split <;> simp [PrinterEvent.acknowledges, PrinterEvent.closesWindow]
  | dropClient | registerClient | connectRaised | onDisconnect | disconnect =>
      cases h
      simp [PrinterEvent.acknowledges, PrinterEvent.closesWindow, dropClient, registerClient, connectRaised,
        onDisconnect, disconnect]

/-- **The flag is the window.** -/
theorem flag_iff_window (h : liveClient.Reach always w) :
    w.client.failedReportAcknowledged = true ↔ WindowOpen w.log := by
  refine Machine.Reach.invariant
    (I := fun w => w.client.failedReportAcknowledged = true ↔ WindowOpen w.log) ?_ ?_ h
  · rintro w rfl
    constructor
    · intro hflag
      cases hflag
    · rintro ⟨since, p, before, hlog, -⟩
      cases since <;> cases hlog
  · intro w e w' _ hI _ hstep
    obtain ⟨hc, hlog⟩ := liveClient_step hstep
    rw [hlog, windowOpen_cons, ← hI]
    exact BambuPrinter.flag_step hc

/-! ## FAILED reports -/

variable {r : Report}

/-- What a FAILED report makes of a client. -/
theorem handlePrint_failed (now : Time) (hr : r.gcodeState = some .failed) :
    (c.failedReportAcknowledged = true ∧ (c.handlePrint now r).status = .idle ∧
      (c.handlePrint now r).gcodeState = .idle) ∨
    (c.failedReportAcknowledged = false ∧ (c.handlePrint now r).status = .error ∧
      (c.handlePrint now r).gcodeState = .failed) := by
  cases hflag : c.failedReportAcknowledged with
  | true => exact .inl ⟨rfl, by simp [BambuPrinter.handlePrint, hr, hflag, stateMap]⟩
  | false => exact .inr ⟨rfl, by simp [BambuPrinter.handlePrint, hr, hflag, stateMap]⟩

/-- **A FAILED report is suppressed exactly inside the window**, and partial reports and disconnects leave the
    window as it is. -/
theorem failed_suppressed_iff_window {now : Time} (h : liveClient.Reach always w)
    (hr : r.gcodeState = some .failed) (hstep : liveClient.step w (.report now r) = some w') :
    (w'.client.status = .idle ∧ w'.client.gcodeState = .idle ↔ WindowOpen w.log) ∧
    (¬ WindowOpen w.log → w'.client.status = .error ∧ w'.client.gcodeState = .failed) ∧
    ∀ e w'', e.neutral = true → liveClient.step w e = some w'' →
      (WindowOpen w''.log ↔ WindowOpen w.log) := by
  have hflag := flag_iff_window h
  obtain ⟨hc, -⟩ := liveClient_step hstep
  have hc' : w.client.handlePrint now r = w'.client := Option.some.inj hc
  refine ⟨?_, ?_, ?_⟩
  · rw [← hflag, ← hc']
    rcases handlePrint_failed (c := w.client) now hr with ⟨ht, hsup⟩ | ⟨hf, hs, -⟩
    · exact ⟨fun _ => ht, fun _ => hsup⟩
    · rw [hf, hs]
      constructor
      · rintro ⟨hs', -⟩
        cases hs'
      · intro hf'
        cases hf'
  · intro hclosed
    rcases handlePrint_failed (c := w.client) now hr with ⟨ht, -⟩ | ⟨-, herr⟩
    · exact absurd (hflag.mp ht) hclosed
    · exact hc' ▸ herr
  · intro e w'' hn hw
    rw [(liveClient_step hw).2]
    exact windowOpen_neutral hn

/-- An acknowledged failure, a partial report, a disconnect, a reconnect, and the old FAILED again. -/
theorem failed_suppressed_after_reconnect : ∃ w w', liveClient.Reach always w ∧
    liveClient.step w (.report 9 { gcodeState := some .failed }) = some w' ∧ WindowOpen w.log ∧
    w'.client.status = .idle ∧ w'.client.gcodeState = .idle := by
  obtain ⟨w, hr, hw⟩ := Machine.reach_of_run (M := liveClient) Machine.always_of_anyStep
    [.registerClient, .onConnect 0, .report 1 { gcodeState := some .failed }, .acknowledge .p1s,
      .report 2 { nozzleTemper := some 30 }, .onDisconnect, .onConnect 0]
    (fun w => w.client.failedReportAcknowledged) (s := {}) rfl (by decide +kernel)
  have hopen : WindowOpen w.log := (flag_iff_window hr).mp hw
  have hstep : liveClient.step w (.report 9 { gcodeState := some .failed }) = some
      ⟨w.client.handlePrint 9 { gcodeState := some .failed }, .report 9 { gcodeState := some .failed } :: w.log⟩ :=
    rfl
  exact ⟨w, _, hr, hstep, hopen, (failed_suppressed_iff_window hr rfl hstep).1.mpr hopen⟩

end BambuBabu
