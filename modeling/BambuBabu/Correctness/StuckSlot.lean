import BambuBabu.Correctness.SlotExclusivity
import BambuBabu.Service.Workers

/-!
# `Correctness.StuckSlot` — can an inspected printer be released?

`mark_plate_cleared` answers "already cleared" and touches nothing when the plate flag is set. So a slot whose
job has ended can be released only if the plate is blocked, and the two handlers of a printer report see to
that. The failure path of a dispatch worker does not: `_fail_job` leaves the plate clear and relies on the
release that follows in a second transaction. A crash between the two leaves a FAILED owner over a clear
plate, which neither reconciliation nor the endpoint ever touches again.

* `stuck_slot` — that run.
* `Inspectable` — the invariant without such a crash: a job that has ended blocks the plate, or its worker is
  about to release the printer.
* `clearable_of_reach` — **the theorem**: without such a crash no slot is stuck.
* `StuckAt` — what such a crash leaves; `stuck_forever`: no step ever changes it, so that a run has got stuck or is
  without such a crash (`stuck_or_safe`).
-/

namespace BambuBabu

open Storage Runs

/-- No slot is stuck: when the owner has ended and no worker of it is left, a plate-cleared request for the
    enabled and inactive printer frees the slot. -/
def Clearable (s : Service) : Prop :=
  ∀ p id j s', (s.db.printers p).currentJobId = some id → s.db.job id = some j →
    j.status ∈ [.completed, .failed] → (∀ h ∈ s.handoffs, h.id ≠ id) →
    (s.db.printers p).status ∉ [.printing, .paused] → s.settings.livePrinterEnabled p = true →
    service.step s (.plateCleared p) = some s' →
    (s'.db.printers p).currentJobId = none ∧ (s'.db.printers p).plateCleared = true

/-- The process does not crash between a `_fail_job` of a dispatch worker and the release that follows, while
    the failed job owns its slot and the plate is clear. -/
def noCrashBeforeRelease (s : Service) (e : Event) : Prop :=
  e = .crash → ∀ h ∈ s.handoffs, h.pc = .releasing → ∀ j, s.db.job h.id = some j → j.status = .failed →
    (s.db.printers h.printer).currentJobId = some h.id →
    (s.db.printers h.printer).plateCleared = false

/-- The upload of the file fails, and the process crashes before the worker has released the printer. After
    the restart the plate-cleared request leaves the slot as it is. -/
theorem stuck_slot : ¬ ∀ s, service.Reach always s → Clearable s := by
  intro hclaim
  obtain ⟨s, hr, hs⟩ := Machine.reach_of_run (M := service) Machine.always_of_anyStep
    (Script.online ++ Script.reportState .idle ++ [Script.upload "a"] ++ Script.slice "a" ++ Script.dispatch ++
      [.handoff 0 .next, .handoff 0 (.transferred (some "FTPS upload failed")), .handoff 0 .next, .crash,
        .boot Script.p1sOnly, .reconcile])
    (fun s => (s.db.printers .p1s).currentJobId = some "a" ∧
      (s.db.job "a").map Job.status = some .failed ∧ s.handoffs = [] ∧
      (s.db.printers .p1s).status = .idle ∧ s.settings.livePrinterEnabled .p1s = true ∧
      (service.step s (.plateCleared .p1s)).map (fun s' => (s'.db.printers .p1s).currentJobId)
        = some (some "a"))
    (service_init Script.p1sOnly 0) (by decide +kernel)
  obtain ⟨hslot, hjob, hnone, hst, hlive, hstep⟩ := of_decide_eq_true hs
  obtain ⟨j, hj, hfailed⟩ := Option.map_eq_some_iff.mp hjob
  obtain ⟨s', hs', hstuck⟩ := Option.map_eq_some_iff.mp hstep
  have hfree := (hclaim s hr .p1s "a" j s' hslot hj (by rw [hfailed]; decide)
    (fun h hh => by rw [hnone] at hh; cases hh) (by rw [hst]; decide) hlive hs').1
  rw [hstuck] at hfree
  cases hfree

/-- A job that has ended blocks the plate, or it failed and its worker is about to release the printer. -/
def Inspectable (s : Service) : Prop :=
  ∀ p id j, (s.db.printers p).currentJobId = some id → s.db.job id = some j →
    j.status ∈ [.completed, .failed] →
    (s.db.printers p).plateCleared = false ∨
      (j.status = .failed ∧ ∃ h ∈ s.handoffs, h.id = id ∧ h.pc = .releasing)

variable {s s' : Service} {e : Event}

/-- The step lemma, for a step that leaves the slot and the plate of the printer as they are. -/
theorem Inspectable.kept {p : PrinterID} {id : JobId} {j' : Job} (hI : Inspectable s) (hD : Disciplined s)
    (hW : Working s) (ht : Trans s e s') (hok : noCrashBeforeRelease s e)
    (hslot : (s'.db.printers p).currentJobId = (s.db.printers p).currentJobId)
    (hplate : (s'.db.printers p).plateCleared = (s.db.printers p).plateCleared)
    (hown : (s.db.printers p).currentJobId = some id) (hj' : s'.db.job id = some j')
    (hend : j'.status ∈ [.completed, .failed]) :
    (s'.db.printers p).plateCleared = false ∨
      (j'.status = .failed ∧ ∃ h ∈ s'.handoffs, h.id = id ∧ h.pc = .releasing) := by
  obtain ⟨j, hj, hsent, hp⟩ := hD.floor.owner p id hown
  have htrans := ht.job_trans hj hj'
  -- the owner of a slot owns no other one
  have hq : ∀ {q}, (s.db.printers q).currentJobId = some id → q = p := fun hown' =>
    Option.some.inj ((hD.floor.owner_row hown' hj).2.symm.trans hp)
  have hsame : j'.status = j.status → (s'.db.printers p).plateCleared = false ∨
      (j'.status = .failed ∧ ∃ h ∈ s'.handoffs, h.id = id ∧ h.pc = .releasing) := fun hst => by
    rcases hI p id j hown hj (hst ▸ hend) with hblocked | ⟨hfailed, h, hh, rfl, hpc⟩
    · exact .inl (hplate.trans hblocked)
    · obtain ⟨i, hi, -, hip⟩ := hD.sent h hh
      cases Option.some.inj (hj.symm.trans hi)
      cases Option.some.inj (hip.symm.trans hp)
      rcases ht.releasing hD hh hpc with hstay | rfl | hfree | hno
      · exact .inr ⟨hst.trans hfailed, h, hstay, rfl, hpc⟩
      · exact .inl (hplate.trans (hok rfl h hh hpc j hj hfailed hown))
      · rw [hslot, hown] at hfree
        cases hfree
      · exact absurd ⟨hown, j, hj, hfailed⟩ hno
  cases htrans with
  | kept hst => exact hsame hst
  | cancelled _ hst => rw [hst] at hend; exact absurd hend (by decide)
  | retried _ _ hst => rw [hst] at hend; exact absurd hend (by decide)
  | quarantined _ _ hst => rw [hst] at hend; exact absurd hend (by decide)
  | dispatched _ _ hst => rw [hst] at hend; exact absurd hend (by decide)
  | withdrawn _ hst => rw [hst] at hend; exact absurd hend (by decide)
  | @reported n q c snap _ _ _ hr hown' hst =>
      cases hq hown'
      obtain ⟨-, ⟨-, -, hnone⟩ | ⟨hblocked, -⟩⟩ := hr.printer_cases
      · -- a callback that settles nothing ends no job
        have hkept := snap.outcome_kept (hnone id j hown hj)
        rw [hkept] at hst
        exact hsame (snap.confirmed_ended (hst ▸ hend) ▸ hst)
      · exact .inl hblocked
  | cleared _ hown' _ _ _ hslot' =>
      cases hq hown'
      rw [hslot, hown] at hslot'
      cases hslot'
  | sliced htask _ hm => exact absurd hsent (hW.moves htask hj hm)
  | handed _ hh hid hm hfail =>
      obtain ⟨hfailed, exc, hpc⟩ := hm.ends hend
      exact .inr ⟨hfailed, _, hfail exc hpc, hid, rfl⟩

/-- **Every step but that crash keeps ended jobs inspectable.** -/
theorem Inspectable.step (hI : Inspectable s) (hD : Disciplined s) (hW : Working s) (ht : Trans s e s')
    (hok : noCrashBeforeRelease s e) : Inspectable s' := by
  intro p id j' hown' hj' hend
  cases ht.printer p with
  | kept h => exact hI.kept hD hW ht hok (by rw [h]) (by rw [h]) (h ▸ hown') hj' hend
  | reported _ _ _ _ hslot hplate => exact hI.kept hD hW ht hok hslot hplate (hslot ▸ hown') hj' hend
  | dispatched _ _ hslot hj hs =>
      cases Option.some.inj (hslot.symm.trans hown')
      cases Option.some.inj (hj.symm.trans hj')
      rw [hs] at hend
      exact absurd hend (by decide)
  | settled _ _ _ _ _ _ _ _ hplate => exact .inl hplate
  | blocked _ _ _ _ _ hplate => exact .inl hplate
  | quarantined _ _ _ _ _ hplate => exact .inl hplate
  | recovered _ _ hplate => exact .inl hplate
  | released _ _ _ _ _ _ _ hslot => rw [hslot] at hown'; cases hown'
  | cleared _ _ hslot => rw [hslot] at hown'; cases hown'

theorem inspectable_of_reach (h : service.Reach noCrashBeforeRelease s) : Inspectable s :=
  h.invariant
    (fun s hinit => by
      obtain ⟨cfg, now, rfl⟩ := hinit
      intro p id j hown
      cases hown)
    fun _ _ _ hr hI hok hstep =>
      hI.step (disciplined_of_reach hr) (working_of_reach hr) (trans_of_reach hr hstep) hok

/-- **No stuck slot**, in any run without a crash between a failed handoff and its release. -/
theorem clearable_of_reach (h : service.Reach noCrashBeforeRelease s) : Clearable s := by
  intro p id j s' hown hj hend hnone hst hlive hstep
  have hplate : (s.db.printers p).plateCleared = false := by
    rcases inspectable_of_reach h p id j hown hj hend with hblocked | ⟨-, k, hk, hid, -⟩
    · exact hblocked
    · exact absurd hid (hnone k hk)
  have hs : j.status ∉ [.printing, .starting] := by
    revert hend
    cases j.status <;> decide
  obtain ⟨d', hrun, hfree⟩ := markPlateCleared_blocked s.settings s.clock hlive hst hown hj hs hplate
  rw [plateCleared_db hstep, hrun]
  exact hfree

/-- Runs without any crash are among them. -/
theorem noCrash_of_check (s : Service) (e : Event) (h : (match e with | .crash => false | _ => true) = true) :
    noCrashBeforeRelease s e := by
  rintro rfl
  cases h

/-- A print has finished; the printer is inspected and released. -/
theorem clearable_after_print : ∃ s s' : Service, (s.db.job "a").map Job.status = some .completed ∧
    service.step s (.plateCleared .p1s) = some s' ∧ (s'.db.printers .p1s).currentJobId = none := by
  obtain ⟨s, hr, hs⟩ := Machine.reach_of_run (M := service) noCrash_of_check
    (Script.online ++ Script.reportState .idle ++ [Script.upload "a"] ++ Script.slice "a" ++ Script.dispatch ++
      Script.transfer ++ Script.publish ++ [.handoff 0 (.answered .acknowledged)] ++
      Script.reportState .running ++ [.handoff 0 (.awaited false), .handoff 0 .next] ++
      Script.reportState .finish)
    (fun s => (s.db.printers .p1s).currentJobId = some "a" ∧
      (s.db.job "a").map Job.status = some .completed ∧ s.handoffs = [] ∧
      (s.db.printers .p1s).status = .idle ∧ s.settings.livePrinterEnabled .p1s = true ∧
      (service.step s (.plateCleared .p1s)).isSome = true)
    (service_init Script.p1sOnly 0) (by decide +kernel)
  obtain ⟨hslot, hjob, hnone, hst, hlive, hstep⟩ := of_decide_eq_true hs
  obtain ⟨j, hj, hdone⟩ := Option.map_eq_some_iff.mp hjob
  obtain ⟨s', hs'⟩ := Option.isSome_iff_exists.mp hstep
  exact ⟨s, s', hjob, hs', (clearable_of_reach hr .p1s "a" j s' hslot hj (by rw [hdone]; decide)
    (fun h hh => by rw [hnone] at hh; cases hh) (by rw [hst]; decide) hlive hs').1⟩

/-! ## Stuck for good -/

/-- A job that failed owns the printer, whose plate counts as clear, and no worker is left to release it. -/
structure StuckAt (p : PrinterID) (id : JobId) (s : Service) : Prop where
  slot : (s.db.printers p).currentJobId = some id
  plate : (s.db.printers p).plateCleared = true
  failed : ∃ j, s.db.job id = some j ∧ j.status = .failed
  alone : ∀ h ∈ s.handoffs, h.printer ≠ p

/-- Recovery leaves a printer alone whose owner has failed. -/
theorem Moves.recovers_failed {f f' : Floor} {p : PrinterID} {id : JobId} {j : Job} (h : Moves Act.recovers f f')
    (hslot : (f.printers p).currentJobId = some id) (hj : f.job id = some j) (hs : j.status = .failed) :
    f'.printers p = f.printers p := by
  have hkeep := h.keeps (P := fun g => g.printers p = f.printers p ∧ ∃ i, g.job id = some i ∧ i.status = .failed) ?_
    ⟨rfl, j, hj, hs⟩
  · exact hkeep.1
  rintro a g g' hok hm ⟨hrow, i, hi, hfailed⟩
  obtain ⟨i', hi', hend⟩ := (Moves.one hok hm).final hi (by rw [hfailed]; rfl)
  refine ⟨?_, i', hi', hend.trans hfailed⟩
  -- the moves that write a printer row are about a job at that printer
  have howner : ∀ {k}, (g.printers p).currentJobId = some k → k = id := by
    intro k hk
    rw [hrow, hslot] at hk
    exact (Option.some.inj hk).symm
  by_cases hp : a.printer = some p
  · cases hm with
    | settle _ hk hat _ _ hown =>
        cases Option.some.inj hp
        cases howner hown
        cases Option.some.inj (hi.symm.trans hk)
        rw [hfailed] at hat
        exact absurd hat (by decide)
    | restore hk hat hown =>
        cases Option.some.inj hp
        cases howner hown
        cases Option.some.inj (hi.symm.trans hk)
        cases hfailed.symm.trans hat
    | swap => cases hp
    | progress => cases hp
    | _ => cases hok
  · exact (hm.printer_frame hp).trans hrow

/-- **Every step leaves a stuck slot stuck.** -/
theorem StuckAt.step {p : PrinterID} {id : JobId} (hS : StuckAt p id s) (hD : Disciplined s) (ht : Trans s e s') :
    StuckAt p id s' := by
  obtain ⟨j, hj, hs⟩ := hS.failed
  obtain ⟨j', hj', hs'⟩ := ht.moves.final hj (by rw [hs]; rfl)
  have hno : ∀ {i} {h : Handoff}, s.handoffs[i]? = some h → h.printer ≠ p := fun hh =>
    hS.alone _ (List.mem_of_getElem? hh)
  have hrow : (s'.db.printers p).currentJobId = some id ∧ (s'.db.printers p).plateCleared = true := by
    cases ht.printer p with
    | kept h => exact ⟨h ▸ hS.slot, h ▸ hS.plate⟩
    | reported _ _ _ _ hslot hplate => exact ⟨hslot.trans hS.slot, hplate.trans hS.plate⟩
    | @settled _ _ snap _ _ _ _ _ _ _ hown hk hset =>
        -- a report settles jobs at work
        cases Option.some.inj (hS.slot.symm.trans hown)
        cases Option.some.inj (hj.symm.trans hk)
        simp [Snapshot.settled, Snapshot.confirmed, hs, awaitingReport] at hset
    | dispatched _ hfree => cases hS.slot.symm.trans hfree.2.2
    | blocked _ hh hp => exact absurd hp (hno hh)
    | quarantined _ hh hp => exact absurd hp (hno hh)
    | released _ hh hp => exact absurd hp (hno hh)
    | cleared _ hblocked => cases hS.plate.symm.trans hblocked
    | recovered he =>
        subst he
        cases ht with
        | same => exact ⟨hS.slot, hS.plate⟩
        | cancel he => rcases he with he | he <;> cases he
        | reconcile _ hm =>
            have hsame := Moves.recovers_failed hm hS.slot hj hs
            exact ⟨(congrArg PrinterState.currentJobId hsame).trans hS.slot,
              (congrArg PrinterState.plateCleared hsame).trans hS.plate⟩
  refine ⟨hrow.1, hrow.2, ⟨j', hj', hs'.trans hs⟩, ?_⟩
  intro h hh
  rcases ht.handoffs.mem hh with ⟨k, hk, -, hp, -⟩ | ⟨i, i', -, -, hi', huploading, hassigned, -⟩
  · rw [hp]
    exact hS.alone k hk
  -- a worker that has just been dispatched works for the owner of its printer
  · rintro rfl
    obtain ⟨q, hq, hown⟩ := (hD.step ht).floor.holds h.id i' hi' (by rw [huploading]; decide)
    cases Option.some.inj (hassigned.symm.trans hq)
    have hid : h.id = id := Option.some.inj (hown.symm.trans hrow.1)
    rw [hid] at hi'
    cases Option.some.inj (hj'.symm.trans hi')
    cases (hs'.trans hs).symm.trans huploading

end BambuBabu
