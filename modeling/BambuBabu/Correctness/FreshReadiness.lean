import BambuBabu.Live.Client

/-!
# `Correctness.FreshReadiness` — where an idle status comes from

`_on_disconnect` takes back the status and keeps the `gcode_state` it came from; a report without `gcode_state`
computes the status from the kept one. So after a reconnect a partial report makes a client idle again that
nobody has heard of since. `_connect_mqtt` does not even take back the status: a client that is replaced while it
is idle is idle as soon as the new connection is up. `readyCheck` excludes these two steps, and they are the only
ones (`readyFresh_iff`).
-/

namespace BambuBabu

open Runs

/-! ## What the client has heard since it connected -/

/-- A report that carries a `gcode_state`, or an acknowledgement. -/
def PrinterEvent.informs : PrinterEvent → Bool
  | .report _ r => r.gcodeState.isSome
  | .acknowledge _ => true
  | _ => false

/-- Since the latest connection was established, something has informed the client. -/
def Informed (log : List PrinterEvent) : Prop :=
  ∃ since before, log = since ++ .onConnect 0 :: before ∧ .onConnect 0 ∉ since ∧
    ∃ e ∈ since, e.informs = true

/-- A client that is connected and idle has been informed on this connection. -/
def ReadyFresh (w : Watched) : Prop :=
  w.client.connected = true → w.client.status = .idle → Informed w.log

variable {c c' : BambuPrinter} {e : PrinterEvent} {log : List PrinterEvent} {w w' : Watched}

theorem not_informed_connect : ¬ Informed (.onConnect 0 :: log) := by
  rintro ⟨since, before, hlog, hno, a, ha, -⟩
  cases since with
  | nil => cases ha
  | cons x since =>
      obtain ⟨rfl, -⟩ := List.cons.inj hlog
      exact hno (List.mem_cons_self ..)

theorem informed_cons (he : e ≠ .onConnect 0) (hinf : e.informs = false) :
    Informed (e :: log) ↔ Informed log := by
  constructor
  · rintro ⟨since, before, hlog, hno, a, ha, hia⟩
    cases since with
    | nil => cases ha
    | cons x since =>
        obtain ⟨rfl, hrest⟩ := List.cons.inj hlog
        rcases List.mem_cons.mp ha with rfl | hmem
        · rw [hinf] at hia
          cases hia
        · exact ⟨since, before, hrest, fun hm => hno (List.mem_cons_of_mem _ hm), a, hmem, hia⟩
  · rintro ⟨since, before, rfl, hno, a, ha, hia⟩
    refine ⟨e :: since, before, rfl, ?_, a, List.mem_cons_of_mem _ ha, hia⟩
    intro hm
    rcases List.mem_cons.mp hm with heq | hmem
    · exact he heq.symm
    · exact hno hmem

/-- What informs a client that has connected once informs it on its latest connection. -/
theorem informed_of_informs (hinf : e.informs = true) (hcon : PrinterEvent.onConnect 0 ∈ log) : Informed (e :: log) := by
  have hsplit : ∃ since before, log = since ++ .onConnect 0 :: before ∧ .onConnect 0 ∉ since := by
    induction log with
    | nil => cases hcon
    | cons x log ih =>
        by_cases hx : .onConnect 0 = x
        · exact ⟨[], log, by rw [hx]; rfl, List.not_mem_nil⟩
        · obtain ⟨since, before, hlog, hno⟩ := ih ((List.mem_cons.mp hcon).resolve_left hx)
          refine ⟨x :: since, before, by rw [hlog]; rfl, ?_⟩
          intro hm
          rcases List.mem_cons.mp hm with heq | hmem
          · exact hx heq
          · exact hno hmem
  obtain ⟨since, before, rfl, hno⟩ := hsplit
  refine ⟨e :: since, before, rfl, ?_, e, List.mem_cons_self .., hinf⟩
  intro hm
  rcases List.mem_cons.mp hm with heq | hmem
  · rw [← heq] at hinf
    cases hinf
  · exact hno hmem

/-! ## Two facts about every client -/

/-- A connected client has connected, and an acknowledged failure is not shown. -/
structure Acquainted (w : Watched) : Prop where
  connected : w.client.connected = true → .onConnect 0 ∈ w.log
  acknowledged : w.client.failedReportAcknowledged = true → w.client.gcodeState ≠ .failed

theorem handlePrint_acknowledged {now : Time} {r : Report}
    (hflag : (c.handlePrint now r).failedReportAcknowledged = true) :
    (c.handlePrint now r).gcodeState ≠ .failed := by
  rw [handlePrint_gcodeState]
  split
  · decide
  · next hsup =>
      intro hfail
      have hold : c.failedReportAcknowledged = true := by
        simp only [BambuPrinter.handlePrint] at hflag
        split at hflag
        · cases hflag
        · exact hflag
      exact hsup ⟨hfail, hold⟩

theorem Acquainted.step (h : Acquainted w) (hstep : liveClient.step w e = some w') : Acquainted w' := by
  obtain ⟨hc, hlog⟩ := liveClient_step hstep
  refine ⟨fun hcon => ?_, fun hflag => ?_⟩
  · rw [hlog]
    rcases BambuPrinter.connected_step hc hcon with rfl | ⟨hold, -⟩
    · exact List.mem_cons_self ..
    · exact List.mem_cons_of_mem _ (h.connected hold)
  · rcases BambuPrinter.step_cases hc with ⟨now, r, -, hw⟩ | ⟨p, -, hw⟩ | ⟨-, -, hrest⟩
    · rw [hw] at hflag ⊢
      exact handlePrint_acknowledged hflag
    · rw [hw]
      exact fun hfail => by cases hfail
    · rw [hrest.gcodeState]
      exact h.acknowledged (hrest.flag hflag)

theorem acquainted_of_reach (h : liveClient.Reach always w) : Acquainted w := by
  refine Machine.Reach.invariant ?_ ?_ h
  · rintro w rfl
    exact ⟨fun hcon => (by cases hcon), fun hflag => (by cases hflag)⟩
  · intro w e w' _ hI _ hstep
    exact hI.step hstep

/-! ## The two steps that make a client ready without news -/

/-- The step establishes no connection of an idle client, and applies no report without `gcode_state` on a
    connection on which nothing has informed the client while its kept `gcode_state` is IDLE or FINISH. -/
def readyCheck (w : Watched) : PrinterEvent → Prop
  | .onConnect 0 => w.client.status ≠ .idle
  | .report _ r => r.gcodeState = none → w.client.connected = true → ¬ Informed w.log →
      w.client.gcodeState ≠ .idle ∧ w.client.gcodeState ≠ .finish
  | _ => True

/-- A partial report makes an uninformed connected client idle exactly if the kept `gcode_state` does. -/
theorem partial_report_idle {now : Time} {r : Report} (hA : Acquainted w) (hr : r.gcodeState = none)
    (hidle : w.client.status ≠ .idle) :
    (w.client.handlePrint now r).status = .idle ↔
      w.client.gcodeState = .idle ∨ w.client.gcodeState = .finish := by
  have hrep : w.client.reportedState r = w.client.gcodeState := by
    unfold BambuPrinter.reportedState
    rw [hr]
    rfl
  have hsup : ¬ w.client.suppresses r := fun hs => hA.acknowledged hs.2 (hrep ▸ hs.1)
  rw [handlePrint_status, handlePrint_gcodeState, if_neg hsup, hrep]
  cases w.client.gcodeState <;> simp [stateMap, hidle]

/-- **One step keeps readiness fresh exactly if it passes the check.** -/
theorem readyFresh_iff (hr : liveClient.Reach always w) (hF : ReadyFresh w)
    (hstep : liveClient.step w e = some w') : ReadyFresh w' ↔ readyCheck w e := by
  have hA := acquainted_of_reach hr
  obtain ⟨hc, hlog⟩ := liveClient_step hstep
  -- a step that neither connects nor informs nor makes the client idle cannot break freshness
  have calm : e ≠ .onConnect 0 → e.informs = false → (w'.client.status = .idle → w.client.status = .idle) →
      ReadyFresh w' := by
    intro he hinf hst hcon hidle
    rw [hlog, informed_cons he hinf]
    rcases BambuPrinter.connected_step hc hcon with heq | ⟨hold, -⟩
    · exact absurd heq he
    · exact hF hold (hst hidle)
  have news : e.informs = true → ReadyFresh w' := by
    intro hinf hcon _
    rw [hlog]
    rcases BambuPrinter.connected_step hc hcon with rfl | ⟨hold, -⟩
    · cases hinf
    · exact informed_of_informs hinf (hA.connected hold)
  cases e with
  | report now r =>
      have hw : w.client.handlePrint now r = w'.client := Option.some.inj hc
      cases hrep : r.gcodeState with
      | some g =>
          refine iff_of_true (news (by simp [PrinterEvent.informs, hrep])) fun hnone => ?_
          rw [hrep] at hnone
          cases hnone
      | none =>
          have hinf : (PrinterEvent.report now r).informs = false := by simp [PrinterEvent.informs, hrep]
          have hcon : w'.client.connected = w.client.connected := by rw [← hw]; rfl
          have hlog' : Informed w'.log ↔ Informed w.log := hlog ▸ informed_cons (by simp) hinf
          show (w'.client.connected = true → w'.client.status = .idle → Informed w'.log) ↔
            (_ → w.client.connected = true → ¬ Informed w.log → _)
          rw [hcon, hlog', ← hw]
          constructor
          · intro hfresh _ hcon hno
            have hidle : w.client.status ≠ .idle := fun hi => hno (hF hcon hi)
            exact not_or.mp fun hg => hno (hfresh hcon ((partial_report_idle hA hrep hidle).mpr hg))
          · intro hcheck hcon hst
            by_contra hno
            have hidle : w.client.status ≠ .idle := fun hi => hno (hF hcon hi)
            exact not_or.mpr (hcheck hrep hcon hno) ((partial_report_idle hA hrep hidle).mp hst)
  | onConnect rc =>
      have hw : w.client.onConnect rc = w'.client := Option.some.inj hc
      cases rc with
      | zero =>
          have hno : ¬ Informed w'.log := hlog ▸ not_informed_connect
          have hst : w'.client.status = w.client.status := by rw [← hw]; rfl
          have hcon : w'.client.connected = true := by rw [← hw]; rfl
          constructor
          · intro hfresh hidle
            exact hno (hfresh hcon (hst.trans hidle))
          · intro hne _ hidle
            exact absurd (hst.symm.trans hidle) hne
      | succ n =>
          refine iff_of_true (fun hcon => ?_) trivial
          rw [← hw] at hcon
          cases hcon
  | acknowledge p => exact iff_of_true (news rfl) trivial
  | start p =>
      obtain ⟨-, hidle, -⟩ := BambuPrinter.step_start hc
      exact iff_of_true (calm (by simp) rfl fun _ => hidle) trivial
  | dropClient | registerClient =>
      have hw := Option.some.inj hc
      refine iff_of_true (calm (by simp) rfl fun hidle => ?_) trivial
      rw [← hw] at hidle
      exact hidle
  | connectRaised | onDisconnect | disconnect =>
      have hw := Option.some.inj hc
      refine iff_of_true (calm (by simp) rfl fun hidle => ?_) trivial
      rw [← hw] at hidle
      cases hidle

/-! ## Runs -/

/-- After the step a client that is ready is ready on news; and if the step applies a report without
    `gcode_state` on a connection that has brought none, it makes no client idle. -/
def KeepsReadiness (w : Watched) (e : PrinterEvent) : Prop :=
  ∀ w', liveClient.step w e = some w' → ReadyFresh w' ∧
    ∀ now r, e = .report now r → r.gcodeState = none → w.client.connected = true → ¬ Informed w.log →
      w.client.status ≠ .idle → w'.client.status ≠ .idle

theorem keepsReadiness_iff (hr : liveClient.Reach always w) (hF : ReadyFresh w)
    (hstep : liveClient.step w e = some w') : KeepsReadiness w e ↔ readyCheck w e := by
  rw [← readyFresh_iff hr hF hstep]
  constructor
  · intro hkeep
    exact (hkeep w' hstep).1
  · intro hfresh w'' hstep'
    cases Option.some.inj (hstep.symm.trans hstep')
    refine ⟨hfresh, ?_⟩
    rintro now r rfl hrep hcon hno _ hidle
    -- the step leaves the client connected and brings no news, so idle would need old news
    obtain ⟨hc, hlog⟩ := liveClient_step hstep
    have hw : w.client.handlePrint now r = w'.client := Option.some.inj hc
    have hinf : (PrinterEvent.report now r).informs = false := by simp [PrinterEvent.informs, hrep]
    have hcon' : w'.client.connected = true := by rw [← hw]; exact hcon
    exact hno ((informed_cons (by simp) hinf).mp (hlog ▸ hfresh hcon' hidle))

/-- **Readiness comes from a fresh report**, in a run exactly as long as no connection is established while the
    client is idle and no partial report revives an idle `gcode_state`. -/
theorem readiness_from_fresh_report (es : List PrinterEvent) (w : Watched) :
    liveClient.Follows KeepsReadiness {} es w ↔ liveClient.Follows readyCheck {} es w := by
  refine Machine.Follows.congr_of_inv (I := ReadyFresh) (.init rfl) ?_ ?_ ?_
  · intro hcon
    cases hcon
  · intro w e w' hr hF hstep
    exact keepsReadiness_iff hr hF hstep
  · intro w e w' _ _ hstep hkeep
    exact (hkeep w' hstep).1

/-- **The revival**: the printer reports IDLE, the connection is lost and comes back, and a temperature report
    makes the client ready. -/
theorem revived_readiness : ¬ ∀ es w, liveClient.Follows always {} es w →
    liveClient.Follows KeepsReadiness {} es w := by
  intro hclaim
  have hbefore : liveClient.run Machine.anyStep {}
      [.registerClient, .onConnect 0, .report 1 { gcodeState := some .idle }, .onDisconnect, .onConnect 0] =
        some ⟨{ gcodeState := .idle, lastSeen := some 1, client := true, connected := true, reportVersion := 1 },
          [.onConnect 0, .onDisconnect, .report 1 { gcodeState := some .idle }, .onConnect 0, .registerClient]⟩ :=
    rfl
  have hrun := Machine.follows_of_run Machine.always_of_anyStep hbefore
  obtain ⟨w, hpre, hkeep, -⟩ :=
    (hclaim _ _ (hrun.snoc (e := .report 2 { nozzleTemper := some 25 }) trivial rfl)).last
  cases hpre.det hrun
  refine (hkeep _ rfl).2 2 _ rfl rfl rfl not_informed_connect ?_ rfl
  decide

end BambuBabu
