import BambuBabu.Correctness.NoSteal
import BambuBabu.Service.FallbackCall

/-!
# `Correctness.FallbackReservation` — no fallback reservation is leaked

The pool of `Service.SlicingPool` with calls of `_try_schedule_fallback` that fail in any way (`faultyPool`). After a
call the set and the tasks are to agree. They do unless an exception comes between the reservation of a job and the
submit of its task: only a lost compare-and-swap discards the reservation.
-/

namespace BambuBabu

open Storage Runs

inductive FaultyEvent where
  | pool (e : PoolEvent)
  /-- The loop calls `_try_schedule_fallback`, whose operations raise what `fails` says. -/
  | fallback (fails : FallbackPoint → Option Exc)

/-- The loop is about to call `_try_schedule_fallback`. -/
def LoopPc.callsFallback : LoopPc → Bool
  | .fallback _ _ => true
  | .sleeping | .submitting _ | .dispatching _ => false

namespace SlicingPool

/-- A process that has not been started. -/
def start (cfg : Settings) (now : Time) : SlicingPool := ⟨Service.fresh cfg now, ∅, []⟩

/-- One step: the loop makes its calls of `_try_schedule_fallback` by `fallback` only. -/
def faultyStep (p : SlicingPool) : FaultyEvent → Option SlicingPool
  | .pool .tick => if p.service.loop.callsFallback then none else p.step .tick
  | .pool e => p.step e
  | .fallback fails =>
      match p.service.loop with
      | .fallback q rest => if p.service.phase = .running then some (p.fallbackCall fails q rest) else none
      | .sleeping | .submitting _ | .dispatching _ => none

end SlicingPool

/-- The machine. -/
def faultyPool : Machine SlicingPool FaultyEvent where
  init p := ∃ cfg now, p = .start cfg now
  step := SlicingPool.faultyStep

/-- **The property**: after a call, the reserved jobs are those of the tasks. -/
def KeepsReservations (p : SlicingPool) (e : FaultyEvent) : Prop :=
  ∀ fails p', e = .fallback fails → p.faultyStep e = some p' →
    ∀ id, id ∈ p'.slicingJobs ↔ id ∈ p'.tasks.map Prod.fst

/-- **The condition**: once a job is reserved for good, neither its swap nor the log insert, the commit or the
    submit raises. -/
def NoLeak (p : SlicingPool) (e : FaultyEvent) : Prop :=
  ∀ fails q rest, e = .fallback fails → p.service.loop = .fallback q rest →
    ∀ id, pickedByCall fails p.service.settings p.service.db q p.slicingJobs = some id → Undisturbed fails id

variable {p p' : SlicingPool} {fails : FallbackPoint → Option Exc} {q : PrinterID} {rest : List PrinterID}
  {cfg : Settings} {now : Time}

/-! ## One step -/

/-- What happens outside the calls keeps the agreement. -/
theorem Agrees.poolStep {e : PoolEvent} (hA : Agrees p) (h : p.step e = some p') : Agrees p' := by
  cases e with
  | tick =>
      simp only [SlicingPool.step] at h
      split at h
      · cases h
        exact hA.tickStep.1
      · cases h
  | task k e =>
      simp only [SlicingPool.step] at h
      split at h
      · exact (hA.taskStep h).1
      · cases h
  | other e =>
      simp only [SlicingPool.step] at h
      split at h
      · cases h
      · obtain ⟨sv, -, rfl⟩ := Option.map_eq_some_iff.mp h
        unfold SlicingPool.serve
        split
        · exact hA.serving sv
        · exact .empty sv

/-- **A call** keeps it exactly when the reservation of the job it picks is followed by its task. -/
theorem Agrees.fallbackCall (hA : Agrees p) (q : PrinterID) (rest : List PrinterID) :
    (∀ id, id ∈ (p.fallbackCall fails q rest).slicingJobs ↔
        id ∈ (p.fallbackCall fails q rest).tasks.map Prod.fst) ↔
      ∀ id, pickedByCall fails p.service.settings p.service.db q p.slicingJobs = some id →
        Undisturbed fails id := by
  rcases @fallbackCall_cases fails p q rest with ⟨hpick, hset, htasks⟩ | ⟨id, hpick, hnew, hset, hend⟩
  · rw [hset, htasks, hpick]
    constructor
    · intro _ id hid
      cases hid
    · intro _
      exact hA.reserved
  · have hfree : p.reserved id = false := decide_eq_false hnew
    rcases hend with ⟨hun, htasks⟩ | ⟨hun, htasks⟩
    · rw [hset, htasks]
      constructor
      · intro _ id' hid'
        cases Option.some.inj (hpick.symm.trans hid')
        exact hun
      · intro _
        have hsubmitted : Agrees ⟨p.service, insert id p.slicingJobs, p.tasks ++ [(id, .recheck q)]⟩ :=
          hA.submitted hfree
        exact hsubmitted.reserved
    · rw [hset, htasks]
      constructor
      · intro hagree
        -- the job that was picked is in the set, and no task is for it
        have hin : id ∈ p.tasks.map Prod.fst := (hagree id).mp (Finset.mem_insert_self id _)
        exact absurd ((hA.reserved id).mpr hin) hnew
      · intro hcond
        exact absurd (hcond id hpick) hun

theorem faultyStep_fallback (h : p.faultyStep (.fallback fails) = some p') :
    ∃ q rest, p.service.loop = .fallback q rest ∧ p' = p.fallbackCall fails q rest := by
  simp only [SlicingPool.faultyStep] at h
  split at h
  · next q rest hloop =>
      split at h
      · exact ⟨q, rest, hloop, (Option.some.inj h).symm⟩
      · cases h
  · cases h
  · cases h
  · cases h

theorem faultyStep_pool {e : PoolEvent} (h : p.faultyStep (.pool e) = some p') : p.step e = some p' := by
  cases e with
  | tick =>
      simp only [SlicingPool.faultyStep] at h
      split at h
      · cases h
      · exact h
  | task | other => exact h

/-- A call of `fallback` that nothing disturbs is a tick of the pool. -/
theorem faultyStep_undisturbed (hrun : p.service.phase = .running) (hloop : p.service.loop = .fallback q rest) :
    p.faultyStep (.fallback undisturbed) = p.step .tick := by
  simp only [SlicingPool.faultyStep, SlicingPool.step, SlicingPool.tickStep, hloop, if_pos hrun,
    fallbackCall_undisturbed]

theorem keepsReservations_iff {e : FaultyEvent} (hA : Agrees p) (hstep : p.faultyStep e = some p') :
    KeepsReservations p e ↔ NoLeak p e := by
  cases e with
  | pool e =>
      constructor
      · intro _ fails q rest he
        cases he
      · intro _ fails p' he
        cases he
  | fallback fails =>
      obtain ⟨q, rest, hloop, rfl⟩ := faultyStep_fallback hstep
      constructor
      · intro hkeeps fails' q' rest' he hloop'
        cases he
        cases hloop.symm.trans hloop'
        exact (hA.fallbackCall q rest).mp (hkeeps _ _ rfl hstep)
      · intro hcond fails' p'' he hstep'
        cases he
        cases hstep.symm.trans hstep'
        exact (hA.fallbackCall q rest).mpr (hcond _ q rest rfl hloop)

/-- A step that leaks nothing keeps the agreement. -/
theorem Agrees.faultyStep {e : FaultyEvent} (hA : Agrees p) (hstep : p.faultyStep e = some p')
    (hkeeps : KeepsReservations p e) : Agrees p' := by
  cases e with
  | pool e => exact hA.poolStep (faultyStep_pool hstep)
  | fallback fails =>
      refine ⟨?_, hkeeps fails p' rfl hstep⟩
      obtain ⟨q, rest, -, rfl⟩ := faultyStep_fallback hstep
      rcases @fallbackCall_cases fails p q rest with
        ⟨-, -, htasks⟩ | ⟨id, -, hnew, -, ⟨-, htasks⟩ | ⟨-, htasks⟩⟩
      · rw [htasks]
        exact hA.nodup
      · have hfree : p.reserved id = false := decide_eq_false hnew
        have hsubmitted : Agrees ⟨p.service, insert id p.slicingJobs, p.tasks ++ [(id, .recheck q)]⟩ :=
          hA.submitted hfree
        rw [htasks]
        exact hsubmitted.nodup
      · rw [htasks]
        exact hA.nodup

/-! ## Runs -/

/-- **Fallback reservations.** In every run, the reserved jobs are those with a task after each call of
    `_try_schedule_fallback`, exactly when nothing is raised in it after a reservation that stays. -/
theorem fallback_reservations (cfg : Settings) (now : Time) (es : List FaultyEvent) (p : SlicingPool) :
    faultyPool.Follows KeepsReservations (.start cfg now) es p ↔
      faultyPool.Follows NoLeak (.start cfg now) es p := by
  have hreach : faultyPool.Reach always (.start cfg now) := .init ⟨cfg, now, rfl⟩
  refine Machine.Follows.congr_of_inv (I := Agrees) hreach (.empty _) ?_ ?_
  · intro p e p' _ hA hstep
    exact keepsReservations_iff hA hstep
  · intro p e p' _ hA hstep hkeeps
    exact hA.faultyStep hstep hkeeps

namespace Script

/-- The tasks of a script are alone in their pool. -/
def pooled : Event → FaultyEvent
  | .tick => .pool .tick
  | .slice _ e => .pool (.task 0 e)
  | e => .pool (.other e)

/-- A job is sliced for the A1 Mini, which is offline, and the loop looks for work for the P1S. -/
def fallbackDue : List FaultyEvent :=
  let offline : List Event := [.boot bothPrinters, .reconcile, .live .p1s .connectMqtt, .live .p1s (.onConnect 0)] ++
    reportState .idle ++ [upload "a"] ++ slice "a" ++ [.tick]
  offline.map pooled ++ [.fallback undisturbed, .pool .tick]

/-- The database is locked at the commit. -/
def lockedAtCommit : FallbackPoint → Option Exc
  | .commit => some (.other "database is locked")
  | _ => none

end Script

/-- **A commit that fails** leaves the job reserved without a task. -/
theorem leaked_reservation : ¬ ∀ cfg now es p, faultyPool.Follows always (.start cfg now) es p →
    faultyPool.Follows KeepsReservations (.start cfg now) es p := by
  intro hclaim
  have hrun : (faultyPool.run Machine.anyStep (.start Script.p1sOnly 0) Script.fallbackDue).any
      (fun p => (p.faultyStep (.fallback Script.lockedAtCommit)).any fun p' =>
        decide ("a" ∈ p'.slicingJobs) && p'.tasks.isEmpty) = true := by decide +kernel
  obtain ⟨p, hp, hcall⟩ := Option.any_eq_true _ _ |>.mp hrun
  obtain ⟨p', hp', hleak⟩ := Option.any_eq_true _ _ |>.mp hcall
  obtain ⟨hin, hnone⟩ := Bool.and_eq_true_iff.mp hleak
  have hstep : faultyPool.step p (.fallback Script.lockedAtCommit) = some p' := hp'
  have hbefore := Machine.follows_of_run Machine.always_of_anyStep hp
  obtain ⟨p₁, hpre, hkeeps, -⟩ := (hclaim _ _ _ _ (hbefore.snoc trivial hstep)).last
  cases hpre.det hbefore
  have htask := (hkeeps _ _ rfl hstep "a").mp (of_decide_eq_true hin)
  rw [List.isEmpty_iff.mp hnone] at htask
  cases htask

end BambuBabu
