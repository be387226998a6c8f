import Mathlib.Data.List.Chain
import BambuBabu.Floor.Requests
import BambuBabu.Service.Step

/-!
# `Correctness.Lifecycle` — the lifecycle graph, statement by statement

Any number of threads run the transactions of the service one SQL statement at a time. Most of them read a job,
write its columns without a guard and swap its status last; a worker that lost its job to a cancellation
finds out at the swap, and rolls everything back.

* `committed` — the statuses that the commits of a run gave to a job.
* `lifecycle` — **the theorem**: they are a path of the graph that starts at PENDING, a terminal status is
  final, and the row of a cancelled job is frozen.
-/

namespace BambuBabu

open Storage Runs

/-- The threads of the service, which start any transaction at any time, on a database that was empty. -/
abbrev floorClients (ι : Type) [DecidableEq ι] : Machine (Sessions ι Db Exc) (ClientEvent ι Request) :=
  clients Request.program fun d => d = Db.seeded

/-- The committed statuses of job `k` over a run, the last one first. -/
def committed {ι : Type} (k : JobId) (trace : List (Sessions ι Db Exc)) : List JobStatus :=
  trace.filterMap fun s => s.db.statusOf k

/-- Read backwards, a path of `ALLOWED_JOB_TRANSITIONS` that starts at PENDING; a commit that concerns other
    jobs repeats the status. -/
def Lifeline (statuses : List JobStatus) : Prop :=
  statuses.IsChain (fun new old => old.Advances new) ∧ ∀ first ∈ statuses.getLast?, first = .pending

variable {ι : Type} [DecidableEq ι] {s s' : Sessions ι Db Exc} {k : JobId}

/-! ## One step -/

theorem seeded_owned : Owned Db.seeded := nofun

theorem keeps_of_reach (h : (floorClients ι).Reach always s) : s.Keeps Later Lawful :=
  Request.lawful_clients.reach (by rintro _ rfl; exact .refl seeded_owned) h

/-- **Every step is lawful.** -/
theorem lawful_of_reach {e : ClientEvent ι Request} (h : (floorClients ι).Reach always s)
    (hs : (floorClients ι).step s e = some s') : Lawful s.db s'.db :=
  ((keeps_of_reach h).step Request.lawful_clients hs).1

/-- A lawful step extends the path of a job by the status it leaves, -/
theorem Lawful.extends {b d : Db} {st : JobStatus} (h : Lawful b d) (hst : b.statusOf k = some st) :
    ∃ st', d.statusOf k = some st' ∧ st.Advances st' := by
  obtain ⟨j, hj, rfl⟩ := Option.map_eq_some_iff.mp hst
  obtain ⟨j', hj', hedge⟩ := h.row k j hj
  exact ⟨j'.status, Db.statusOf_eq hj', hedge⟩

/-- or starts it. -/
theorem Lawful.starts {b d : Db} {st : JobStatus} (h : Lawful b d) (hnone : b.statusOf k = none)
    (hst : d.statusOf k = some st) : st = .pending := by
  obtain ⟨j, hj, rfl⟩ := Option.map_eq_some_iff.mp hst
  exact h.born k j (Option.map_eq_none_iff.mp hnone) hj

/-! ## Runs -/

/-- **The induction along a run**: its last status is the one the job has now. -/
theorem lifeline_of_trace {trace : List (Sessions ι Db Exc)} (h : (floorClients ι).Trace always trace) :
    Lifeline (committed k trace) ∧ ∀ s ∈ trace.head?, (committed k trace).head? = s.db.statusOf k := by
  induction h with
  | @init s h₀ =>
      have hnone : s.db.statusOf k = none := by
        rw [h₀.1]
        rfl
      have hempty : committed k [s] = [] := List.filterMap_cons_none hnone
      rw [hempty]
      refine ⟨⟨.nil, nofun⟩, ?_⟩
      rintro t ⟨⟩
      exact hnone.symm
  | @step s s' e ss htrace _ hs ih =>
      obtain ⟨⟨hchain, hlast⟩, hhead⟩ := ih
      have hhead := hhead s rfl
      have hlawful := lawful_of_reach (htrace.reach s rfl) hs
      cases hst : s'.db.statusOf k with
      | none =>
          -- a row never disappears, so there was none before
          have hnone : s.db.statusOf k = none := by
            by_contra hsome
            obtain ⟨st, hst'⟩ := Option.ne_none_iff_exists'.mp hsome
            obtain ⟨st'', hst'', -⟩ := hlawful.extends hst'
            rw [hst] at hst''
            cases hst''
          have hkept : committed k (s' :: s :: ss) = committed k (s :: ss) := List.filterMap_cons_none hst
          rw [hkept]
          refine ⟨⟨hchain, hlast⟩, ?_⟩
          rintro t ⟨⟩
          rw [hhead, hnone, hst]
      | some st' =>
          have hnew : committed k (s' :: s :: ss) = st' :: committed k (s :: ss) := List.filterMap_cons_some hst
          rw [hnew]
          refine ⟨⟨hchain.cons fun st hmem => ?_, fun first hfirst => ?_⟩, ?_⟩
          · have hst₀ : s.db.statusOf k = some st := hhead.symm.trans hmem
            obtain ⟨st'', hst'', hedge⟩ := hlawful.extends hst₀
            cases Option.some.inj (hst.symm.trans hst'')
            exact hedge
          · cases hold : committed k (s :: ss) with
            | nil =>
                rw [hold] at hfirst hhead
                cases hfirst
                exact hlawful.starts hhead.symm hst
            | cons st rest =>
                rw [hold, List.getLast?_cons_cons] at hfirst
                rw [hold] at hlast
                exact hlast first hfirst
          · rintro t ⟨⟩
            exact hst.symm

/-- A status that no edge leaves is final. -/
theorem terminal_of_path {st : JobStatus} (hr : (floorClients ι).Reach always s)
    (hp : (floorClients ι).Path always s s') (hst : st ∈ terminalJobStatuses)
    (hk : s.db.statusOf k = some st) : s'.db.statusOf k = some st := by
  refine hp.keeps (P := fun s => s.db.statusOf k = some st) hr hk ?_
  intro a e b ha hstatus _ hs
  obtain ⟨st', hst', heq | hedge⟩ := (lawful_of_reach ha hs).extends hstatus
  · rw [hst', heq]
  · rw [allowed_of_terminal hst] at hedge
    cases hedge

/-- **The row of a cancelled job is frozen.** -/
theorem frozen_of_path {row : Option Job} (hr : (floorClients ι).Reach always s)
    (hp : (floorClients ι).Path always s s') (hk : s.db.statusOf k = some .cancelled) (hrow : s.db.job k = row) :
    s'.db.job k = row := by
  refine (hp.keeps (P := fun s => s.db.statusOf k = some .cancelled ∧ s.db.job k = row) hr ⟨hk, hrow⟩ ?_).2
  intro a e b ha ⟨hcan, hjob⟩ _ hs
  have hfrozen := (lawful_of_reach ha hs).frozen k hcan
  refine ⟨?_, hfrozen.trans hjob⟩
  unfold Db.statusOf at hcan ⊢
  rw [hfrozen]
  exact hcan

/-! ## The theorem -/

/-- **Lifecycle and clean cancellation**: over any interleaving of the statements of any number of threads,
    the committed statuses of every job are a path of the graph from PENDING, a terminal status never changes,
    and no column of a cancelled job does. -/
theorem lifecycle (trace : List (Sessions ι Db Exc)) (h : (floorClients ι).Trace always trace) (k : JobId) :
    Lifeline (committed k trace) ∧
    ∀ s ∈ trace.head?, ∀ s', (floorClients ι).Path always s s' →
      (∀ st ∈ terminalJobStatuses, s.db.statusOf k = some st → s'.db.statusOf k = some st) ∧
      (s.db.statusOf k = some .cancelled → s'.db.job k = s.db.job k) := by
  refine ⟨(lifeline_of_trace h).1, fun s hs s' hp => ⟨fun st hst hk => ?_, fun hk => ?_⟩⟩
  · exact terminal_of_path (h.reach s hs) hp hst hk
  · exact frozen_of_path (h.reach s hs) hp hk rfl

/-- A cancellation commits between the SELECT of a slicing worker and its writes. -/
def cancelRace : List (ClientEvent Bool Request) :=
  [.request true (.commitUpload Script.p1sOnly 0 "a" ⟨"Ada", "ada@example.org", none, "part.stl"⟩),
    .statement true, .statement true, .statement true,
    .request true (.startAnalysis 1 "a"), .statement true, .statement true, .statement true, .statement true,
    .request false (.planSlice 2 "a" ⟨12, 1, 0, ⟨10, 10, 10⟩, 1⟩ (some .p1s, none)), .statement false,
    .request true (.cancelJob 3 "a"), .statement true, .statement true, .statement true, .statement true,
    .statement true,
    .statement false, .statement false, .statement false, .statement false]

/-- The worker writes the analysis, loses the swap, and leaves nothing behind. -/
theorem lifecycle_cancel_race : ∃ trace : List (Sessions Bool Db Exc), ∃ s ∈ trace.head?,
    s.proc false = .ended ∧ committed "a" trace ≠ [] ∧ Lifeline (committed "a" trace) ∧
      (s.db.job "a").map (fun j => (j.status, j.complexityScore)) = some (.cancelled, none) ∧
      ∀ s', (floorClients Bool).Path always s s' → s'.db.job "a" = s.db.job "a" := by
  obtain ⟨s, hr, hs⟩ := Machine.reach_of_run (M := floorClients Bool) Machine.always_of_anyStep cancelRace
    (fun s => (s.proc false).isEnded && decide ((s.db.job "a").map (fun j => (j.status, j.complexityScore))
      = some (.cancelled, none))) (s := ⟨Db.seeded, none, fun _ => .ended⟩) ⟨rfl, rfl, fun _ => rfl⟩
    (by decide +kernel)
  obtain ⟨hended, hrow⟩ := Bool.and_eq_true_iff.mp hs
  have hrow := of_decide_eq_true hrow
  obtain ⟨ss, htrace⟩ := hr.trace
  obtain ⟨hline, hlater⟩ := lifecycle _ htrace "a"
  have hstatus : s.db.statusOf "a" = some .cancelled := by
    have hmap := congrArg (Option.map Prod.fst) hrow
    rwa [Option.map_map] at hmap
  refine ⟨s :: ss, s, rfl, Proc.eq_ended hended, ?_, hline, hrow, fun s' hp => (hlater s rfl s' hp).2 hstatus⟩
  have hnew : committed "a" (s :: ss) = .cancelled :: committed "a" ss := List.filterMap_cons_some hstatus
  rw [hnew]
  exact List.cons_ne_nil _ _

end BambuBabu
