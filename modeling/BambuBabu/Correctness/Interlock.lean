import BambuBabu.Correctness.SlotExclusivity
import BambuBabu.Service.Workers

/-!
# `Correctness.Interlock` — a printer is held until its plate was cleared

A dispatch worker that fails in any way but the two ambiguous-start exceptions runs `_fail_job`, which fails
the job from whatever active status it is in, and then releases the printer of a FAILED job. By then a
printer report may have put the job into PRINTING, or quarantined or failed it; the worker takes no notice,
and the printer is dispatchable again under a running print.

* `interlock_broken` — that run.
* `Engaged` — the invariant in runs where no worker fails a job so late.
* `interlock` — **the theorem**: in such runs the slot is held until a plate-cleared request.
-/

namespace BambuBabu

open Storage Runs

/-- The step clears the plate of `p`: a plate-cleared request that succeeds, and does not merely find the
    plate clear already. -/
def clearsPlate (p : PrinterID) (s : Service) (e : Event) : Prop :=
  e = .plateCleared p ∧
    ∃ m d, (markPlateCleared s.settings s.clock p).commit s.db = (.ok m, d) ∧ m ≠ alreadyCleared

/-- The step puts the job that owns the slot of `p` into PRINTING or ATTENTION, or it is a printer report
    that puts it into COMPLETED or FAILED. -/
def Engages (p : PrinterID) (id : JobId) (s : Service) (e : Event) (s' : Service) : Prop :=
  (s'.db.printers p).currentJobId = some id ∧
  ∃ j j', s.db.job id = some j ∧ s'.db.job id = some j' ∧ j'.status ≠ j.status ∧
    (j'.status ∈ [.printing, .attention] ∨ (j'.status ∈ [.completed, .failed] ∧ ∃ i, e = .callback i))

/-- The job holds the printer: it owns the slot, and no step dispatches another one. -/
structure Holds (p : PrinterID) (id : JobId) (s : Service) : Prop where
  slot : (s.db.printers p).currentJobId = some id
  undispatched : ∀ e s', service.step s e = some s' → ¬ DispatchesOn p s s'

/-- The physical interlock: once engaged, a printer is held until its plate has been cleared. -/
def Interlock : Prop :=
  ∀ p id s₀ e s₁ s₂, service.Reach always s₀ → service.step s₀ e = some s₁ → Engages p id s₀ e s₁ →
    service.Path (fun s e => ¬ clearsPlate p s e) s₁ s₂ → Holds p id s₂

/-- The generic exception handler of a dispatch worker does not run `_fail_job` on a job that owns its slot
    and is already PRINTING, in ATTENTION or FAILED. -/
def noLateFailure (s : Service) (e : Event) : Prop :=
  ∀ i e' h exc j, e = .handoff i e' → s.handoffs[i]? = some h → h.pc = .failing exc →
    s.db.job h.id = some j → (s.db.printers h.printer).currentJobId = some h.id →
    j.status ∉ [.printing, .attention, .failed]

variable {s s' : Service} {e : Event} {p : PrinterID} {id : JobId}

/-! ## The failing run -/

/-- The check that no plate is cleared. -/
def noClearance (_ : Service) (e : Event) : Bool :=
  match e with
  | .plateCleared _ => false
  | _ => true

theorem noClearance_ok (p : PrinterID) (s : Service) (e : Event) (h : noClearance s e = true) :
    ¬ clearsPlate p s e := by
  rintro ⟨rfl, -⟩
  cases h

/-- The printer reports RUNNING between the commit of STARTING and the idle check: the job is PRINTING, the
    worker finds the printer busy, fails the job and releases the printer. -/
theorem interlock_broken : ¬ Interlock := by
  intro hclaim
  obtain ⟨s₀, hr, hs⟩ := Machine.reach_of_run (M := service) Machine.always_of_anyStep
    (Script.online ++ Script.reportState .idle ++ [Script.upload "a"] ++ Script.slice "a" ++ Script.dispatch ++
      Script.transfer ++ [.live .p1s (.message { gcodeState := some .running })])
    (fun s₀ => (s₀.db.job "a").map Job.status = some .starting ∧
      (service.step s₀ (.callback 0)).any (fun s₁ => (s₁.db.job "a").map Job.status = some .printing ∧
        (s₁.db.printers .p1s).currentJobId = some "a" ∧
        (service.run noClearance s₁ [.handoff 0 .next, .handoff 0 .next, .handoff 0 .next]).any
          (fun s₂ => (s₂.db.printers .p1s).currentJobId = none)))
    (service_init Script.p1sOnly 0) (by decide +kernel)
  obtain ⟨hstarting, hrest⟩ := of_decide_eq_true hs
  obtain ⟨s₁, hs₁, hrest⟩ := (Option.any_eq_true _ _).mp hrest
  obtain ⟨hprinting, hslot, hrest⟩ := of_decide_eq_true hrest
  obtain ⟨s₂, hrun, hfree⟩ := (Option.any_eq_true _ _).mp hrest
  obtain ⟨j, hj, hjs⟩ := Option.map_eq_some_iff.mp hstarting
  obtain ⟨j', hj', hjs'⟩ := Option.map_eq_some_iff.mp hprinting
  have hheld := (hclaim .p1s "a" s₀ (.callback 0) s₁ s₂ hr hs₁
    ⟨hslot, j, j', hj, hj', by rw [hjs, hjs']; decide, .inl (by rw [hjs']; decide)⟩
    (Machine.path_of_run (noClearance_ok .p1s) hrun)).slot
  rw [of_decide_eq_true hfree] at hheld
  cases hheld

/-! ## Without late failures -/

/-- The statuses of a job that a printer has been engaged for. -/
def engaged : List JobStatus := [.printing, .attention, .completed, .failed]

theorem engaged_closed : ∀ st ∈ engaged, ∀ st' ∈ allowedJobTransitions st, st' ∈ engaged := by
  intro st hst st' hst'
  cases st <;> cases st' <;> revert hst hst' <;> decide

/-- The printer is held by a job it was engaged for, and no worker of that job is about to release it. -/
structure Engaged (p : PrinterID) (id : JobId) (s : Service) : Prop where
  slot : (s.db.printers p).currentJobId = some id
  status : ∃ j, s.db.job id = some j ∧ j.status ∈ engaged
  kept : ∀ j, s.db.job id = some j → j.status = .failed → ∀ h ∈ s.handoffs, h.id = id → h.pc ≠ .releasing

/-- A worker comes to release the printer of an active job only through a late failure. -/
theorem Trans.no_release {j j' : Job} (ht : Trans s e s') (hD : Disciplined s) (hR : Released s)
    (hok : noLateFailure s e) (hslot : (s.db.printers p).currentJobId = some id)
    (hj : s.db.job id = some j) (hs : j.status ∈ engaged) (hj' : s'.db.job id = some j')
    (hfailed : j'.status = .failed)
    (hkept : j.status = .failed → ∀ h ∈ s.handoffs, h.id = id → h.pc ≠ .releasing) :
    ∀ h ∈ s'.handoffs, h.id = id → h.pc ≠ .releasing := by
  intro h' hh' hid hpc
  -- a job in a terminal status was FAILED before
  have hfinal : j.status ∈ terminalJobStatuses → j.status = .failed := fun hterm => by
    obtain ⟨i, hi, hst⟩ := ht.moves.final hj (allowed_of_terminal hterm)
    cases Option.some.inj (hi.symm.trans hj')
    rw [← hst, hfailed]
  cases ht.worker hh' with
  | stayed hh => exact hkept (hfinal (hR h' hh hpc j (hid ▸ hj))) h' hh hid hpc
  | dispatched _ hbegin => rw [hpc] at hbegin; cases hbegin
  | @advanced i h ev he hh hid' _ hadv =>
      rw [hpc] at hadv
      cases hadv with
      | goto hloc => exact hloc.ne_releasing
      | failed hfailing =>
          have hhid : h.id = id := hid'.symm.trans hid
          obtain ⟨k, hk, -, hkp⟩ := hD.sent h (List.mem_of_getElem? hh)
          rw [hhid, hj] at hk
          cases hk
          have hprinter : h.printer = p :=
            Option.some.inj (hkp.symm.trans (hD.floor.owner_row hslot hj).2)
          have hnot := hok i ev h _ j he hh hfailing (hhid ▸ hj) (by rw [hprinter, hhid]; exact hslot)
          have hdone : j.status = .completed := by
            revert hs hnot
            cases j.status <;> decide
          rw [hfinal (by rw [hdone]; decide)] at hdone
          cases hdone

/-- The engaging step establishes the invariant. -/
theorem Engages.engaged (heng : Engages p id s e s') (ht : Trans s e s') (hR : Released s) :
    Engaged p id s' := by
  obtain ⟨hslot, j, j', hj, hj', hne, hst⟩ := heng
  have hactive : j.status ∉ terminalJobStatuses := fun hterm => by
    obtain ⟨i, hi, hsame⟩ := ht.moves.final hj (allowed_of_terminal hterm)
    cases Option.some.inj (hi.symm.trans hj')
    exact hne hsame
  refine ⟨hslot, ⟨j', hj', ?_⟩, ?_⟩
  · rcases hst with hst | ⟨hst, -⟩ <;> revert hst <;> cases j'.status <;> decide
  · intro i hi hfailed h' hh' hid hpc
    cases Option.some.inj (hi.symm.trans hj')
    rcases hst with hst | ⟨-, n, rfl⟩
    · rw [hfailed] at hst; exact absurd hst (by decide)
    · -- a callback moves no worker
      cases ht.worker hh' with
      | stayed hh => exact hactive (hR h' hh hpc j (hid ▸ hj))
      | dispatched _ hbegin => rw [hpc] at hbegin; cases hbegin
      | advanced he => cases he

/-- **Every step keeps the hold**, but a late failure or a plate-cleared request. -/
theorem Engaged.step (hE : Engaged p id s) (ht : Trans s e s') (hstep : service.step s e = some s')
    (hD : Disciplined s) (hR : Released s) (hok : noLateFailure s e) (hno : ¬ clearsPlate p s e) :
    Engaged p id s' := by
  obtain ⟨j, hj, hs⟩ := hE.status
  obtain ⟨j', hj', hs'⟩ := ht.moves.closed engaged_closed hj hs
  refine ⟨?_, ⟨j', hj', hs'⟩, fun i hi hfailed => ?_⟩
  · cases ht.printer p with
    | kept h => rw [h]; exact hE.slot
    | reported _ _ _ _ hslot => exact hslot.trans hE.slot
    | settled _ _ _ _ _ _ _ hslot => exact hslot.trans hE.slot
    | blocked _ _ _ _ hslot => exact hslot.trans hE.slot
    | quarantined _ _ _ _ hslot => exact hslot.trans hE.slot
    | recovered _ hslot => exact hslot.trans hE.slot
    | dispatched _ hfree => exact absurd hE.slot (by rw [hfree.2.2]; simp)
    | released _ hh _ hpc hown hjh hfailed =>
        cases Option.some.inj (hown.symm.trans hE.slot)
        exact absurd hpc (hE.kept _ hjh hfailed _ (List.mem_of_getElem? hh) rfl)
    | cleared he hblocked hslot hplate =>
        subst he
        rcases hc : (markPlateCleared s.settings s.clock p).commit s.db with ⟨r, d⟩
        have hdb : s'.db = d := by rw [plateCleared_db hstep, hc]
        have howner : ∀ k, (s.db.printers p).currentJobId = some k → s.db.job k ≠ none := fun k hk => by
          cases Option.some.inj (hE.slot.symm.trans hk)
          rw [hj]
          exact Option.some_ne_none j
        obtain ⟨rfl, -⟩ | ⟨owner, rfl, -⟩ := markPlateCleared_commit hc howner
        · rw [hdb, hblocked] at hplate
          cases hplate
        · exact absurd ⟨rfl, _, _, hc, by cases p <;> decide⟩ hno
  · cases Option.some.inj (hi.symm.trans hj')
    exact ht.no_release hD hR hok hE.slot hj hs hj' hfailed (hE.kept j hj)

/-- **The interlock holds** in every run without a late failure. -/
theorem interlock {s₀ s₁ s₂ : Service} (hr : service.Reach noLateFailure s₀) (hok : noLateFailure s₀ e)
    (hstep : service.step s₀ e = some s₁) (heng : Engages p id s₀ e s₁)
    (hpath : service.Path (fun s e => noLateFailure s e ∧ ¬ clearsPlate p s e) s₁ s₂) : Holds p id s₂ := by
  have hr₁ := hr.step hok hstep
  have hE : Engaged p id s₁ :=
    heng.engaged (trans_of_reach hr hstep) (released_of_reach hr)
  have hE₂ : Engaged p id s₂ := hpath.keeps_until hr₁ hE fun s e s' hr hE hok hno hstep =>
    hE.step (trans_of_reach hr hstep) hstep (disciplined_of_reach hr) (released_of_reach hr) hok hno
  refine ⟨hE₂.slot, ?_⟩
  intro e' s₃ hstep' hdisp
  -- a printer that is dispatched to has no owner
  have hr₂ := hr₁.path (hpath.mono fun _ _ h => h.1)
  have hfree := (hdisp.free (trans_of_reach hr₂ hstep')).2
  exact absurd hE₂.slot (by rw [hfree.2.2]; simp)

/-- The check that no worker is at its exception handler. -/
def noFailure (s : Service) (e : Event) : Bool :=
  match e with
  | .handoff i _ => match s.handoffs[i]? with
    | some h => match h.pc with
      | .failing _ => false
      | _ => true
    | none => true
  | _ => true

theorem noFailure_ok (s : Service) (e : Event) (h : noFailure s e = true) : noLateFailure s e := by
  rintro i e' k exc j rfl hk hpc -
  simp only [noFailure, hk, hpc] at h
  cases h

/-- A print is confirmed and finishes, and the printer stays held. -/
theorem interlock_print : ∃ s₀ s₁ s₂ : Service, Engages .p1s "a" s₀ (.callback 0) s₁ ∧
    (s₂.db.job "a").map Job.status = some .completed ∧ Holds .p1s "a" s₂ := by
  obtain ⟨s₀, hr, hs⟩ := Machine.reach_of_run (M := service) noFailure_ok
    (Script.online ++ Script.reportState .idle ++ [Script.upload "a"] ++ Script.slice "a" ++ Script.dispatch ++
      Script.transfer ++ Script.publish ++ [.handoff 0 (.answered .acknowledged),
        .live .p1s (.message { gcodeState := some .running })])
    (fun s₀ => (s₀.db.job "a").map Job.status = some .starting ∧
      (service.step s₀ (.callback 0)).any (fun s₁ => (s₁.db.job "a").map Job.status = some .printing ∧
        (s₁.db.printers .p1s).currentJobId = some "a" ∧
        (service.run (fun s e => noFailure s e && noClearance s e) s₁ ([.handoff 0 (.awaited false),
            .handoff 0 .next] ++ Script.reportState .finish)).any
          (fun s₂ => (s₂.db.job "a").map Job.status = some .completed)))
    (service_init Script.p1sOnly 0) (by decide +kernel)
  obtain ⟨hstarting, hrest⟩ := of_decide_eq_true hs
  obtain ⟨s₁, hs₁, hrest⟩ := (Option.any_eq_true _ _).mp hrest
  obtain ⟨hprinting, hslot, hrest⟩ := of_decide_eq_true hrest
  obtain ⟨s₂, hrun, hdone⟩ := (Option.any_eq_true _ _).mp hrest
  obtain ⟨j, hj, hjs⟩ := Option.map_eq_some_iff.mp hstarting
  obtain ⟨j', hj', hjs'⟩ := Option.map_eq_some_iff.mp hprinting
  have heng : Engages .p1s "a" s₀ (.callback 0) s₁ :=
    ⟨hslot, j, j', hj, hj', by rw [hjs, hjs']; decide, .inl (by rw [hjs']; decide)⟩
  have hcallback : noLateFailure s₀ (.callback 0) := noFailure_ok s₀ _ rfl
  have hpath : service.Path (fun s e => noLateFailure s e ∧ ¬ clearsPlate .p1s s e) s₁ s₂ :=
    Machine.path_of_run (fun s e h => by
      obtain ⟨h₁, h₂⟩ := Bool.and_eq_true_iff.mp h
      exact ⟨noFailure_ok s e h₁, noClearance_ok .p1s s e h₂⟩) hrun
  exact ⟨s₀, s₁, s₂, heng, of_decide_eq_true hdone,
    interlock hr hcallback hs₁ heng hpath⟩

end BambuBabu
