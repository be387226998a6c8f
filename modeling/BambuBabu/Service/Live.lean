import BambuBabu.Service.Views

/-!
# `Service.Live` — what a client that shows FINISH can report

The live client keeps its `gcode_state` across partial reports, disconnects and reconnects. While it shows
FINISH, or has been restarted and knows nothing, it is `Quiet`: it shows no print, and neither does any of its
callbacks still to run (`Calm`). Only a report that carries another `gcode_state` ends that (`Trans.calm`).
-/

namespace BambuBabu

open Storage Runs

/-! ## One client -/

/-- The client shows FINISH, or nothing yet. -/
def Quiet (c : BambuPrinter) : Prop :=
  (c.gcodeState = .finish ∧ c.status ∈ [.idle, .offline]) ∨ (c.gcodeState = .offline ∧ c.status = .offline)

/-- A report that carries no `gcode_state`, or FINISH. -/
def Report.quiet (r : Report) : Prop := ∀ g, r.gcodeState = some g → g = .finish

variable {c c' : BambuPrinter}

theorem Quiet.status_ne (h : Quiet c) : c.status ≠ .printing := by
  intro hc
  rcases h with ⟨-, hst⟩ | ⟨-, hst⟩ <;> rw [hc] at hst
  · exact absurd hst (by decide)
  · cases hst

/-- A quiet client that goes offline is quiet. -/
theorem Quiet.offline (h : Quiet c) (hg : c'.gcodeState = c.gcodeState) (hs : c'.status = .offline) :
    Quiet c' := by
  rcases h with ⟨hfin, -⟩ | ⟨hoff, -⟩
  · exact .inl ⟨hg.trans hfin, by rw [hs]; decide⟩
  · exact .inr ⟨hg.trans hoff, hs⟩

/-- A client whose state is as before is quiet if it was. -/
theorem Quiet.same (h : Quiet c) (hg : c'.gcodeState = c.gcodeState) (hs : c'.status = c.status) :
    Quiet c' := by
  unfold Quiet
  rw [hg, hs]
  exact h

/-- FINISH makes a client idle. -/
theorem BambuPrinter.handlePrint_finish {r : Report} (now : Time) (c : BambuPrinter)
    (h : r.gcodeState.getD c.gcodeState = .finish) :
    (c.handlePrint now r).gcodeState = .finish ∧ (c.handlePrint now r).status = .idle := by
  simp [handlePrint, h, stateMap]

/-- Only FINISH does: a suppressed FAILED shows as IDLE. -/
theorem BambuPrinter.reported_finish {r : Report} {now : Time}
    (h : (c.handlePrint now r).gcodeState = .finish) : r.gcodeState.getD c.gcodeState = .finish := by
  simp only [handlePrint] at h
  split at h
  · cases h
  · exact h

/-- A quiet report keeps a quiet client quiet. -/
theorem Quiet.handlePrint {r : Report} (h : Quiet c) (now : Time) (hr : r.quiet) :
    Quiet (c.handlePrint now r) := by
  have hfinish : r.gcodeState.getD c.gcodeState = .finish → Quiet (c.handlePrint now r) := fun hfin => by
    obtain ⟨hg, hs⟩ := c.handlePrint_finish now hfin
    exact .inl ⟨hg, by rw [hs]; decide⟩
  cases hg : r.gcodeState with
  | some g => exact hfinish (by rw [hg, hr g hg]; rfl)
  | none =>
      rcases h with ⟨hfin, -⟩ | ⟨hoff, hst⟩
      · exact hfinish (by rw [hg]; exact hfin)
      · exact .inr ⟨by simp [BambuPrinter.handlePrint, hg, hoff],
          by simp [BambuPrinter.handlePrint, hg, hoff, hst, stateMap]⟩

/-- An idle acknowledgement is refused by a quiet client. -/
theorem Quiet.acknowledge {p : PrinterID} (h : Quiet c) : c.acknowledgePhysicallyIdle p ≠ .ok c' := by
  intro hok
  obtain ⟨-, -, hg, -⟩ := BambuPrinter.acknowledge_ok hok
  rcases h with ⟨hfin, -⟩ | ⟨hoff, -⟩
  · rw [hfin] at hg; cases hg
  · rw [hoff] at hg; cases hg

/-- A start is never confirmed by a quiet client. -/
theorem Quiet.startWait {cfg : Settings} {b : Nat} {timedOut : Bool} (h : Quiet c) :
    c.startWait cfg b timedOut ≠ some (.ok ()) := by
  intro hok
  obtain ⟨-, hg | hg | hs⟩ := BambuPrinter.startWait_ok hok
  · rcases h with ⟨hfin, -⟩ | ⟨hoff, -⟩
    · rw [hfin] at hg; cases hg
    · rw [hoff] at hg; cases hg
  · rcases h with ⟨hfin, -⟩ | ⟨hoff, -⟩
    · rw [hfin] at hg; cases hg
    · rw [hoff] at hg; cases hg
  · exact h.status_ne hs

/-! ## A client and its callbacks -/

/-- Neither the client of `p` nor any of its callbacks shows a print. -/
structure Calm (p : PrinterID) (s : Service) : Prop where
  live : Quiet (s.live p)
  pending : ∀ c snap, (p, c) ∈ s.pending → c.payload = some snap → snap.status ≠ .printing

variable {s s' : Service} {e : Event} {p : PrinterID}

/-- A callback that is queued shows what the client shows. -/
theorem Calm.queue {cb : Callback} (hC : Calm p s) (q : PrinterID)
    (hcb : q = p → ∀ snap, cb.payload = some snap → snap.status ≠ .printing) :
    Calm p (s.addCallback q cb) where
  live := hC.live
  pending c snap hmem hpay := by
    rcases List.mem_append.mp hmem with hold | hnew
    · exact hC.pending c snap hold hpay
    · cases List.mem_singleton.mp hnew
      exact hcb rfl snap hpay

/-- Another client may do anything; this one must stay quiet. -/
theorem Calm.setLive (hC : Calm p s) (q : PrinterID) (c : BambuPrinter) (hc : q = p → Quiet c) :
    Calm p (s.setLive q c) where
  live := by
    show Quiet (Function.update s.live q c p)
    by_cases hq : p = q
    · subst hq
      rw [Function.update_self]
      exact hc rfl
    · rw [Function.update_of_ne hq]
      exact hC.live
  pending := hC.pending

/-- Steps of the live clients. -/
theorem Calm.liveStep {q : PrinterID} {ev : LiveEvent} (hC : Calm p s) (hstep : s.liveStep q ev = some s')
    (hquiet : ∀ r, Event.live q ev = .live p (.message r) → r.quiet) : Calm p s' := by
  cases ev with
  | connectMqtt =>
      simp only [Service.liveStep] at hstep
      split at hstep <;> cases hstep
      exact hC.setLive q _ fun hq => hq ▸ hC.live.same rfl rfl
  | connectFailed =>
      cases hstep
      exact hC.setLive q _ fun hq => hq ▸ hC.live.offline rfl rfl
  | onConnect rc =>
      simp only [Service.liveStep] at hstep
      split at hstep <;> cases hstep
      refine hC.setLive q _ fun hq => ?_
      subst hq
      unfold BambuPrinter.onConnect
      split
      · exact hC.live.offline rfl rfl
      · exact hC.live.same rfl rfl
  | onDisconnect =>
      simp only [Service.liveStep] at hstep
      split at hstep <;> cases hstep
      refine (hC.setLive q _ fun hq => hq ▸ hC.live.offline rfl rfl).queue q fun _ snap hpay => ?_
      cases hpay
      exact fun hc => by cases hc
  | message r =>
      simp only [Service.liveStep] at hstep
      split at hstep <;> cases hstep
      have hlive : q = p → Quiet ((s.live q).handlePrint s.clock r) := fun hq => by
        subst hq
        exact hC.live.handlePrint s.clock (hquiet r rfl)
      have hqueue : Calm p ((s.setLive q ((s.live q).handlePrint s.clock r)).addCallback q
          (.report ((s.live q).handlePrint s.clock r).snapshot)) :=
        (hC.setLive q _ hlive).queue q fun hq snap hpay => by
          cases hpay
          exact (hlive hq).status_ne
      exact ⟨hqueue.live, hqueue.pending⟩

/-- **Only a report that carries another `gcode_state` ends the calm.** -/
theorem Trans.calm (ht : Trans s e s') (hC : Calm p s)
    (hquiet : ∀ r, e = .live p (.message r) → r.quiet) : Calm p s' := by
  have forget : ∀ {n : Nat} {c : Callback}, (p, c) ∈ s.pending.eraseIdx n → (p, c) ∈ s.pending :=
    fun h => List.mem_of_mem_eraseIdx h
  cases ht with
  | same => exact hC
  | boot => exact ⟨.inr ⟨rfl, rfl⟩, fun _ _ hmem => (by cases hmem)⟩
  | crash => exact ⟨.inr ⟨rfl, rfl⟩, fun _ _ hmem => (by cases hmem)⟩
  | clock | reconcile | cancel | upload | clear => exact ⟨hC.live, hC.pending⟩
  | acknowledge => exact hC.queue _ fun _ snap hpay => (by cases hpay)
  | live _ hstep => exact hC.liveStep hstep fun r hr => hquiet r hr
  | callback _ ht =>
      cases ht with
      | @processed d q c snap =>
          refine ⟨hC.live, fun c' snap' hmem hpay => ?_⟩
          rcases List.mem_append.mp hmem with hold | hnew
          · exact hC.pending c' snap' (forget hold) hpay
          -- the log entry of an acknowledgement is all that a callback may queue, and it has no snapshot
          · cases c with
            | acknowledged => cases List.mem_singleton.mp hnew; cases hpay
            | _ => cases hnew
      | @acknowledge q c' hi hok =>
          -- only a client that shows FAILED can be acknowledged
          have hne : q ≠ p := fun hq => hC.live.acknowledge (hq ▸ hok)
          have hset := hC.setLive q c' fun hq => absurd hq hne
          refine ⟨hset.live, fun c snap hmem hpay => ?_⟩
          rcases List.mem_append.mp hmem with hold | hnew
          · exact hC.pending c snap (forget hold) hpay
          · cases List.mem_singleton.mp hnew
            exact absurd rfl hne
      | refused => exact ⟨hC.live, fun c snap hmem => hC.pending c snap (forget hmem)⟩
      | logged => exact ⟨hC.live, fun c snap hmem => hC.pending c snap (forget hmem)⟩
  | tick _ ht => cases ht <;> exact ⟨hC.live, hC.pending⟩
  | slice _ _ ht => cases ht <;> exact ⟨hC.live, hC.pending⟩
  | @handoff i h _ _ _ _ ht =>
      cases ht with
      | @check b c hpc hok =>
          obtain ⟨-, -, -, hc⟩ := BambuPrinter.startCheck_ok hok
          have hset := hC.setLive h.printer c fun hq =>
            hC.live.same (by rw [hc, ← hq]) (by rw [hc, ← hq])
          exact ⟨hset.live, hset.pending⟩
      | _ => exact ⟨hC.live, hC.pending⟩

/-! ## Every client that shows FINISH is calm -/

/-- A client that shows FINISH is calm, and an idle acknowledgement shows an idle printer. -/
structure Showing (s : Service) : Prop where
  finish : ∀ p, (s.live p).gcodeState = .finish → Calm p s
  acknowledged : ∀ p snap, (p, .acknowledged snap) ∈ s.pending → snap.status = .idle

/-- FINISH comes from a report only. -/
theorem Trans.finish_kept (ht : Trans s e s') (hno : ∀ r, e ≠ .live p (.message r))
    (hfin : (s'.live p).gcodeState = .finish) : (s.live p).gcodeState = .finish := by
  have set : ∀ q c, (q = p → c.gcodeState = .finish → (s.live p).gcodeState = .finish) →
      (Function.update s.live q c p).gcodeState = .finish → (s.live p).gcodeState = .finish := by
    intro q c hc hupd
    by_cases hq : p = q
    · subst hq
      rw [Function.update_self] at hupd
      exact hc rfl hupd
    · rwa [Function.update_of_ne hq] at hupd
  cases ht with
  | same | clock | reconcile | cancel | upload | clear | acknowledge => exact hfin
  | boot | crash => cases hfin
  | @live q ev _ _ hstep =>
      cases ev with
      | connectMqtt =>
          simp only [Service.liveStep] at hstep
          split at hstep <;> cases hstep
          exact set q _ (fun hq hc => by subst hq; exact hc) hfin
      | connectFailed =>
          cases hstep
          exact set q _ (fun hq hc => by subst hq; exact hc) hfin
      | onConnect rc =>
          simp only [Service.liveStep] at hstep
          split at hstep <;> cases hstep
          refine set q _ (fun hq hc => ?_) hfin
          subst hq
          unfold BambuPrinter.onConnect at hc
          split at hc <;> exact hc
      | onDisconnect =>
          simp only [Service.liveStep] at hstep
          split at hstep <;> cases hstep
          exact set q _ (fun hq hc => by subst hq; exact hc) hfin
      | message r =>
          simp only [Service.liveStep] at hstep
          split at hstep <;> cases hstep
          exact set q _ (fun hq _ => absurd (by rw [hq]) (hno r)) hfin
  | callback _ ht =>
      cases ht with
      | acknowledge _ hok =>
          obtain ⟨-, -, -, hc⟩ := BambuPrinter.acknowledge_ok hok
          exact set _ _ (fun _ hg => by rw [hc] at hg; cases hg) hfin
      | _ => exact hfin
  | tick _ ht => cases ht <;> exact hfin
  | slice _ _ ht => cases ht <;> exact hfin
  | handoff _ _ ht =>
      cases ht with
      | check _ hok =>
          obtain ⟨-, -, -, hc⟩ := BambuPrinter.startCheck_ok hok
          exact set _ _ (fun hq hg => by rw [hc] at hg; exact hq ▸ hg) hfin
      | _ => exact hfin

/-- A report that leaves the client at FINISH leaves it calm: its network thread was idle, so the callbacks
    still to run are those of idle acknowledgements. -/
theorem Showing.reported {r : Report} (hS : Showing s) (hstep : s.liveStep p (.message r) = some s')
    (hfin : (s'.live p).gcodeState = .finish) : Calm p s' := by
  simp only [Service.liveStep] at hstep
  split at hstep <;> cases hstep
  next hready =>
  have hidle : s.networkIdle p = true := (Bool.and_eq_true_iff.mp hready).2
  have hlive : (Function.update s.live p ((s.live p).handlePrint s.clock r) p)
      = (s.live p).handlePrint s.clock r := Function.update_self ..
  have hshown : ((s.live p).handlePrint s.clock r).gcodeState = .finish := hlive ▸ hfin
  obtain ⟨hg, hst⟩ := (s.live p).handlePrint_finish s.clock (BambuPrinter.reported_finish hshown)
  refine ⟨.inl ⟨hfin, ?_⟩, fun c snap hmem hpay => ?_⟩
  · show (Function.update s.live p _ p).status ∈ _
    rw [hlive, hst]
    decide
  · rcases List.mem_append.mp hmem with hold | hnew
    · have hthread := List.all_eq_true.mp hidle (p, c) hold
      cases c with
      | acknowledged snap' =>
          cases hpay
          rw [hS.acknowledged p snap hold]
          exact fun hc => by cases hc
      | acknowledging => cases hpay
      | acknowledgeLog => cases hpay
      | report => simp [Callback.onNetworkThread] at hthread
      | disconnected => simp [Callback.onNetworkThread] at hthread
    · cases List.mem_singleton.mp hnew
      cases hpay
      show ((s.live p).handlePrint s.clock r).status ≠ .printing
      rw [hst]
      exact fun hc => by cases hc

theorem Showing.step (hS : Showing s) (ht : Trans s e s') : Showing s' where
  finish p hfin := by
    -- a report shows what it says; any other step shows what was shown
    by_cases hmsg : ∃ r, e = .live p (.message r)
    · obtain ⟨r, rfl⟩ := hmsg
      cases ht with
      | same he => exact absurd rfl (he p (.message r))
      | cancel he => rcases he with he | he <;> cases he
      | live _ hstep => exact hS.reported hstep hfin
    · rw [not_exists] at hmsg
      exact ht.calm (hS.finish p (ht.finish_kept hmsg hfin)) fun r hr => absurd hr (hmsg r)
  acknowledged p snap hmem := by
    cases ht with
    | same | clock | reconcile | cancel | upload | clear => exact hS.acknowledged p snap hmem
    | boot | crash => cases hmem
    | acknowledge =>
        rcases List.mem_append.mp hmem with hold | hnew
        · exact hS.acknowledged p snap hold
        · cases List.mem_singleton.mp hnew
    | @live q ev _ _ hstep =>
        cases ev with
        | connectFailed => cases hstep; exact hS.acknowledged p snap hmem
        | connectMqtt | onConnect =>
            simp only [Service.liveStep] at hstep
            split at hstep <;> cases hstep
            exact hS.acknowledged p snap hmem
        | onDisconnect | message =>
            simp only [Service.liveStep] at hstep
            split at hstep <;> cases hstep
            rcases List.mem_append.mp hmem with hold | hnew
            · exact hS.acknowledged p snap hold
            · cases List.mem_singleton.mp hnew
    | callback _ ht =>
        cases ht with
        | @processed d q c snap' =>
            rcases List.mem_append.mp hmem with hold | hnew
            · exact hS.acknowledged p snap (List.mem_of_mem_eraseIdx hold)
            · cases c with
              | acknowledged => cases List.mem_singleton.mp hnew
              | _ => cases hnew
        | acknowledge _ hok =>
            rcases List.mem_append.mp hmem with hold | hnew
            · exact hS.acknowledged p snap (List.mem_of_mem_eraseIdx hold)
            · cases List.mem_singleton.mp hnew
              obtain ⟨-, -, -, hc⟩ := BambuPrinter.acknowledge_ok hok
              rw [hc]
              rfl
        | refused => exact hS.acknowledged p snap (List.mem_of_mem_eraseIdx hmem)
        | logged => exact hS.acknowledged p snap (List.mem_of_mem_eraseIdx hmem)
    | tick _ ht => cases ht <;> exact hS.acknowledged p snap hmem
    | slice _ _ ht => cases ht <;> exact hS.acknowledged p snap hmem
    | handoff _ _ ht => cases ht <;> exact hS.acknowledged p snap hmem

theorem showing_of_reach {ok : Service → Event → Prop} (h : service.Reach ok s) : Showing s :=
  h.invariant
    (fun s hinit => by
      obtain ⟨cfg, now, rfl⟩ := hinit
      exact ⟨fun p hfin => (by cases hfin), fun p snap hmem => (by cases hmem)⟩)
    fun _ _ _ hr hS _ hstep => hS.step (trans_of_reach hr hstep)

end BambuBabu
