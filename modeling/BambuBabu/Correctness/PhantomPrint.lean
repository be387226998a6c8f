import BambuBabu.Service.Views

/-!
# `Correctness.PhantomPrint` — a job that prints was started

STARTING is committed before the start command is published, and ATTENTION is reached with and without it. In
both the callback takes a printing snapshot, or one that carries FINISH, for the job that owns the slot, so a
print started at the printer's own panel, or the FINISH it left behind, moves a job that was never sent.

* `phantom_print` — that run.
* `Announced` — the invariant in runs where such a snapshot finds a published owner.
* `no_phantom` — **the theorem**: in such runs a job reaches PRINTING or COMPLETED only after its start
  command was published.
-/

namespace BambuBabu

open Storage Runs

/-- The start command of the job was passed to `client.publish`. -/
def wasPublished (id : JobId) (history : List Occurrence) : Prop := ∃ p, .published id p ∈ history

/-- The step moves the job to PRINTING or COMPLETED. -/
def MovesToPrint (id : JobId) (s s' : Service) : Prop :=
  ∃ j j', s.db.job id = some j ∧ s'.db.job id = some j' ∧ j'.status ≠ j.status ∧
    j'.status ∈ [.printing, .completed]

/-- No phantom print: a job is moved there after its start command was published. -/
def NoPhantom : Prop :=
  ∀ s e s' id, service.Reach always s → service.step s e = some s' → MovesToPrint id s s' →
    wasPublished id s.history

/-- A snapshot that shows a print, or carries FINISH, is processed for an owner in STARTING or ATTENTION only
    if its start command was published. -/
def reportsOwnPrint (s : Service) (e : Event) : Prop :=
  ∀ i p c snap id j, e = .callback i → s.pending[i]? = some (p, c) → c.payload = some snap →
    (s.db.printers p).currentJobId = some id → s.db.job id = some j → j.status ∈ [.starting, .attention] →
    (snap.status = .printing ∨ snap.gcodeState = .finish) → wasPublished id s.history

/-- A print is started at the panel between the commit of STARTING and the idle check. -/
theorem phantom_print : ¬ NoPhantom := by
  intro hclaim
  obtain ⟨s, hr, hs⟩ := Machine.reach_of_run (M := service) Machine.always_of_anyStep
    (Script.online ++ Script.reportState .idle ++ [Script.upload "a"] ++ Script.slice "a" ++ Script.dispatch ++
      Script.transfer ++ [.live .p1s (.message { gcodeState := some .running })])
    (fun s => (s.db.job "a").map Job.status = some .starting ∧
      (s.history.all fun o => match o with | .published _ _ => false | _ => true) = true ∧
      (service.step s (.callback 0)).any (fun s' => (s'.db.job "a").map Job.status = some .printing))
    (service_init Script.p1sOnly 0) (by decide +kernel)
  obtain ⟨hstarting, hnone, hrest⟩ := of_decide_eq_true hs
  obtain ⟨s', hs', hprinting⟩ := (Option.any_eq_true _ _).mp hrest
  obtain ⟨j, hj, hjs⟩ := Option.map_eq_some_iff.mp hstarting
  obtain ⟨j', hj', hjs'⟩ := Option.map_eq_some_iff.mp (of_decide_eq_true hprinting)
  obtain ⟨p, hp⟩ := hclaim s (.callback 0) s' "a" hr hs'
    ⟨j, j', hj, hj', by rw [hjs, hjs']; decide, by rw [hjs']; decide⟩
  have hall := List.all_eq_true.mp hnone _ hp
  cases hall

/-- The worker's `client.publish` call is behind it, and it was not an error. -/
def HandoffPc.announced : HandoffPc → Prop
  | published _ | await _ | confirm => True
  | begin | transfer | request | check | publish _ | ambiguous _ | failing _ | releasing => False

/-- Whoever has printed, or is past its publish, was published. -/
structure Announced (s : Service) : Prop where
  jobs : ∀ id j, s.db.job id = some j → j.status ∈ [.printing, .completed] → wasPublished id s.history
  workers : ∀ h ∈ s.handoffs, h.pc.announced → wasPublished h.id s.history

variable {s s' : Service} {e : Event} {id : JobId}

theorem Trans.published_mono (ht : Trans s e s') (h : wasPublished id s.history) :
    wasPublished id s'.history := by
  obtain ⟨p, hp⟩ := h
  exact ⟨p, ht.history_mono hp⟩

/-- A worker gets past its publish by publishing. -/
theorem HandoffAdvance.announced {h : Handoff} {pc : HandoffPc} (hadv : HandoffAdvance s s' h pc)
    (hpc : pc.announced) : h.pc.announced ∨ wasPublished h.id s'.history := by
  cases hadv with
  | goto hloc => generalize h.pc = pc₀ at hloc ⊢; cases hloc <;> first | exact .inl trivial | cases hpc
  | publish _ hist => exact .inr ⟨h.printer, by rw [hist]; exact List.mem_cons_self⟩
  | started hawait => exact .inl (by rw [hawait]; trivial)
  | _ => cases hpc

/-- A job that is printing or completed after a step was published before it. -/
theorem Announced.moved {j j' : Job} (hA : Announced s) (ht : Trans s e s') (hok : reportsOwnPrint s e)
    (hj : s.db.job id = some j) (hj' : s'.db.job id = some j') (hst : j'.status ∈ [.printing, .completed]) :
    wasPublished id s.history := by
  cases ht.job_trans hj hj' with
  | kept hsame => exact hA.jobs id j hj (hsame ▸ hst)
  | cancelled _ h | retried _ _ h | quarantined _ _ h | cleared _ _ _ h | dispatched _ _ h | withdrawn _ h =>
      rw [h] at hst
      exact absurd hst (by decide)
  | @reported i p c snap he hi hc _ hslot h =>
      rcases Snapshot.outcome_started (h ▸ hst) with hold | ⟨hwait, hshows⟩
      · exact hA.jobs id j hj hold
      · exact hok i p c snap id j he hi hc hslot hj hwait hshows
  | sliced _ _ hm => exact absurd hst hm.not_started
  | handed _ hh hid hm =>
      exact hid ▸ hA.workers _ (List.mem_of_getElem? hh) (by rw [hm.started hst]; trivial)

/-- **Every step keeps the invariant**, if reports find published owners. -/
theorem Announced.step (hA : Announced s) (ht : Trans s e s') (hok : reportsOwnPrint s e) : Announced s' where
  jobs id j' hj' hst := by
    cases hj : s.db.job id with
    | none => rw [ht.born hj hj'] at hst; exact absurd hst (by decide)
    | some j => exact ht.published_mono (hA.moved ht hok hj hj' hst)
  workers h' hh' hpc := by
    cases ht.worker hh' with
    | stayed hh => exact ht.published_mono (hA.workers h' hh hpc)
    | dispatched _ hbegin => rw [hbegin] at hpc; cases hpc
    | advanced _ hh hid _ hadv =>
        rw [hid]
        rcases hadv.announced hpc with hold | hnow
        · exact ht.published_mono (hA.workers _ (List.mem_of_getElem? hh) hold)
        · exact hnow

theorem announced_of_reach (h : service.Reach reportsOwnPrint s) : Announced s :=
  h.invariant
    (fun s hinit => by
      obtain ⟨cfg, now, rfl⟩ := hinit
      exact ⟨fun _ _ hj => (by cases hj), fun _ hh => (by cases hh)⟩)
    fun _ _ _ hr hA hok hstep => hA.step (trans_of_reach hr hstep) hok

/-- **No phantom print**, in every run where reports find published owners. -/
theorem no_phantom (hr : service.Reach reportsOwnPrint s) (hok : reportsOwnPrint s e)
    (hstep : service.step s e = some s') (hmove : MovesToPrint id s s') : wasPublished id s.history := by
  obtain ⟨j, j', hj, hj', -, hst⟩ := hmove
  exact (announced_of_reach hr).moved (trans_of_reach hr hstep) hok hj hj' hst

/-- The check that a report that shows a print comes after a publish. -/
def silentUntilPublish (s : Service) (e : Event) : Bool :=
  match e with
  | .callback i => match s.pending[i]? with
    | some (p, c) => match c.payload with
      | some snap => match (s.db.printers p).currentJobId with
        | some id => decide ((snap.status = .printing ∨ snap.gcodeState = .finish) →
            Occurrence.published id p ∈ s.history)
        | none => true
      | none => true
    | none => true
  | _ => true

theorem silentUntilPublish_ok (s : Service) (e : Event) (h : silentUntilPublish s e = true) :
    reportsOwnPrint s e := by
  rintro i p c snap id j rfl hi hc hslot - - hshows
  simp only [silentUntilPublish, hi, hc, hslot, decide_eq_true_eq] at h
  exact ⟨p, h hshows⟩

/-- A started job is confirmed by the printer's report. -/
theorem no_phantom_print : ∃ s s' : Service, service.step s (.callback 0) = some s' ∧ MovesToPrint "a" s s' ∧
    wasPublished "a" s.history := by
  obtain ⟨s, hr, hs⟩ := Machine.reach_of_run (M := service) silentUntilPublish_ok
    (Script.online ++ Script.reportState .idle ++ [Script.upload "a"] ++ Script.slice "a" ++ Script.dispatch ++
      Script.transfer ++ Script.publish ++ [.live .p1s (.message { gcodeState := some .running })])
    (fun s => (s.db.job "a").map Job.status = some .starting ∧
      silentUntilPublish s (.callback 0) = true ∧
      (service.step s (.callback 0)).any (fun s' => (s'.db.job "a").map Job.status = some .printing))
    (service_init Script.p1sOnly 0) (by decide +kernel)
  obtain ⟨hstarting, hgood, hrest⟩ := of_decide_eq_true hs
  obtain ⟨s', hs', hprinting⟩ := (Option.any_eq_true _ _).mp hrest
  obtain ⟨j, hj, hjs⟩ := Option.map_eq_some_iff.mp hstarting
  obtain ⟨j', hj', hjs'⟩ := Option.map_eq_some_iff.mp (of_decide_eq_true hprinting)
  have hmove : MovesToPrint "a" s s' := ⟨j, j', hj, hj', by rw [hjs, hjs']; decide, by rw [hjs']; decide⟩
  exact ⟨s, s', hs', hmove, no_phantom hr (silentUntilPublish_ok s _ hgood) hs' hmove⟩

end BambuBabu
