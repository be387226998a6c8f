import BambuBabu.Service.Workers
import BambuBabu.Storage.Table
import Mathlib.Data.Finset.Basic

/-!
# `Service.SlicingPool` — `_slicing_jobs` and the executor behind it

`Service` keeps one slicing worker for each reserved job, so that it cannot even say that a reservation has lost
its task, or that a job has two. Here the two live apart, as in the source: `_slicing_jobs` is a set, which
`_submit_slice`, `_try_schedule_fallback` and the `finally` blocks change, and the tasks are a list.

* `SlicingPool` — the service, the set, and the tasks that are queued or running.
* `Agrees` — the invariant: the set holds the jobs of the tasks, each once.
* `slicingPool_refines` — the tasks under their jobs are a run of `service`.

The executor has one thread. Here any task may go on, which admits more interleavings.
-/

namespace BambuBabu

open Storage Runs

/-- The service with its slicing tasks. The workers are in `tasks`: `service.slices` is not read. -/
structure SlicingPool where
  service : Service
  /-- `_slicing_jobs` -/
  slicingJobs : Finset JobId
  /-- The queued and running tasks of `_slicer_executor`. -/
  tasks : List (JobId × SliceTask)

inductive PoolEvent where
  | tick
  /-- The task at position `k` goes on. -/
  | task (k : Nat) (e : SliceEvent)
  /-- Any other step of the service. -/
  | other (e : Event)

/-- Whether the event is one of the queue processor. -/
def Event.queues : Event → Bool
  | .tick => true
  | .slice _ _ => true
  | _ => false

namespace SlicingPool

variable (p : SlicingPool)

/-- The service with the tasks under their jobs. -/
def view : Service := { p.service with slices := fun id => p.tasks.lookup id }

/-- `job_id in self._slicing_jobs` -/
def reserved (id : JobId) : Bool := decide (id ∈ p.slicingJobs)

/-- `_submit_slice` -/
def submitSlice (id : JobId) (task : SliceTask) : SlicingPool :=
  if p.reserved id then p
  else { p with slicingJobs := insert id p.slicingJobs, tasks := p.tasks ++ [(id, task)] }

/-- `_try_schedule_fallback` reserves the job inside its transaction, and submits its task without another look
    at the set. -/
def fallbackStep (q : PrinterID) (rest : List PrinterID) : SlicingPool :=
  match (tryScheduleFallback p.service.settings p.service.clock q p.reserved).commit p.service.db with
  | (.ok (some id), d) =>
      { service := { p.service.commitDb d with loop := .dispatching rest }
        slicingJobs := insert id p.slicingJobs
        tasks := p.tasks ++ [(id, .recheck q)] }
  | (.ok none, d) => { p with service := { p.service.commitDb d with loop := .dispatching rest } }
  | (.error _, d) => { p with service := { p.service.commitDb d with loop := .sleeping } }

/-- The queue loop goes on. -/
def tickStep : SlicingPool :=
  match p.service.loop with
  | .submitting (id :: rest) =>
      let p' := p.submitSlice id .start
      { p' with service := { p'.service with loop := .submitting rest } }
  | .fallback q rest => p.fallbackStep q rest
  | .sleeping | .submitting [] | .dispatching _ => { p with service := p.view.tickStep }

/-- After a step of the task of job `id` at position `k`. One that has ended has left its `finally` block: its job
    is discarded from the set. -/
def resume (k : Nat) (id : JobId) (sv : Service) : SlicingPool :=
  match sv.slices id with
  | some task => { p with service := sv, tasks := p.tasks.set k (id, task) }
  | none => { service := sv, slicingJobs := p.slicingJobs.erase id, tasks := p.tasks.eraseIdx k }

/-- The task at position `k` goes on. -/
def taskStep (k : Nat) (e : SliceEvent) : Option SlicingPool :=
  match p.tasks[k]? with
  | none => none
  | some (id, task) => (p.view.sliceStep id task e).map (p.resume k id)

/-- After another step of the service: the set and the tasks do not outlive the process. -/
def serve (sv : Service) : SlicingPool :=
  if sv.phase = .running then { p with service := sv } else ⟨sv, ∅, []⟩

/-- One step. -/
def step : PoolEvent → Option SlicingPool
  | .tick => if p.service.phase = .running then some p.tickStep else none
  | .task k e => if p.service.phase = .running then p.taskStep k e else none
  | .other e => if e.queues then none else (p.view.step e).map p.serve

end SlicingPool

/-- The machine. -/
def slicingPool : Machine SlicingPool PoolEvent where
  init p := (∃ cfg now, p.service = Service.fresh cfg now) ∧ p.slicingJobs = ∅ ∧ p.tasks = []
  step := SlicingPool.step

/-! ## The set and the tasks agree -/

/-- No job has two tasks, and the set holds the jobs of the tasks. -/
structure Agrees (p : SlicingPool) : Prop where
  nodup : (p.tasks.map Prod.fst).Nodup
  reserved : ∀ id, id ∈ p.slicingJobs ↔ id ∈ p.tasks.map Prod.fst

section agrees

variable {p p' : SlicingPool} {sv : Service} {id : JobId} {task : SliceTask} {k : Nat}

/-- The set is what the view calls reserved. -/
theorem Agrees.view_reserved (hA : Agrees p) : p.view.reserved = p.reserved := by
  funext id
  rw [Bool.eq_iff_iff, SlicingPool.reserved, decide_eq_true_iff, hA.reserved, mem_keys_iff]
  exact Iff.rfl

theorem Agrees.lookup_new (hA : Agrees p) (hnew : p.reserved id = false) : p.tasks.lookup id = none := by
  rw [← hA.view_reserved] at hnew
  have hnone : p.view.slices id = none := by simpa [Service.reserved] using hnew
  exact hnone

/-- Only the set and the tasks matter. -/
theorem Agrees.serving (hA : Agrees p) (sv : Service) : Agrees { p with service := sv } :=
  ⟨hA.nodup, hA.reserved⟩

/-- A task for a new job joins with its reservation. -/
theorem Agrees.submitted (hA : Agrees p) (hnew : p.reserved id = false) :
    Agrees ⟨sv, insert id p.slicingJobs, p.tasks ++ [(id, task)]⟩ where
  nodup := by
    have hfresh : id ∉ p.tasks.map Prod.fst := by
      rw [← hA.reserved]
      exact of_decide_eq_false hnew
    show ((p.tasks ++ [(id, task)]).map Prod.fst).Nodup
    rw [List.map_append]
    refine List.Nodup.append hA.nodup (List.nodup_singleton id) ?_
    intro x hx hid
    rw [List.mem_singleton.mp hid] at hx
    exact hfresh hx
  reserved x := by
    show x ∈ insert id p.slicingJobs ↔ x ∈ (p.tasks ++ [(id, task)]).map Prod.fst
    rw [Finset.mem_insert, hA.reserved, List.map_append, List.mem_append, List.map_singleton, List.mem_singleton,
      or_comm]

/-- A task that goes on keeps its job. -/
theorem Agrees.moved (hA : Agrees p) (hk : p.tasks[k]? = some (id, task)) (task' : SliceTask) :
    Agrees ⟨sv, p.slicingJobs, p.tasks.set k (id, task')⟩ := by
  have hids : (p.tasks.set k (id, task')).map Prod.fst = p.tasks.map Prod.fst := by
    have hget : (p.tasks.map Prod.fst)[k]? = some id := by
      rw [List.getElem?_map, hk]
      rfl
    obtain ⟨hlt, hval⟩ := List.getElem?_eq_some_iff.mp hget
    rw [List.map_set, ← hval, List.set_getElem_self]
  constructor
  · rw [hids]
    exact hA.nodup
  · intro x
    rw [hids]
    exact hA.reserved x

/-- A task that ends takes its reservation with it. -/
theorem Agrees.ended (hA : Agrees p) (hk : p.tasks[k]? = some (id, task)) :
    Agrees ⟨sv, p.slicingJobs.erase id, p.tasks.eraseIdx k⟩ where
  nodup := hA.nodup.sublist ((List.eraseIdx_sublist ..).map _)
  reserved x := by
    have hlookup := congrFun (lookup_eraseIdx hA.nodup hk) x
    show x ∈ p.slicingJobs.erase id ↔ x ∈ (p.tasks.eraseIdx k).map Prod.fst
    rw [Finset.mem_erase, hA.reserved, mem_keys_iff, mem_keys_iff, hlookup]
    by_cases hx : x = id
    · subst hx
      simp
    · simp [hx]

/-- Without tasks there is nothing to disagree about. -/
theorem Agrees.empty (sv : Service) : Agrees ⟨sv, ∅, []⟩ where
  nodup := List.nodup_nil
  reserved x := by simp

end agrees

/-! ## The tasks are the workers of the service -/

section refines

variable {p p' : SlicingPool}

/-- Only the queue processor changes the reservations, as long as the service runs. -/
theorem Trans.slices_kept {s s' : Service} {e : Event} (ht : Trans s e s') (he : e.queues = false)
    (hrun : s'.phase = .running) : s'.slices = s.slices := by
  cases ht with
  | boot => cases hrun
  | crash => cases hrun
  | live _ hstep => exact (liveStep_frame hstep).slices
  | callback _ ht => cases ht <;> rfl
  | handoff _ _ ht => cases ht <;> rfl
  | tick => cases he
  | slice => cases he
  | _ => rfl

/-- A job that is submitted gets a task, unless it has one. -/
theorem Agrees.submitSlice (hA : Agrees p) (id : JobId) :
    Agrees (p.submitSlice id .start) ∧ p.view.submitSlice id .start = (p.submitSlice id .start).view := by
  unfold Service.submitSlice SlicingPool.submitSlice
  rw [hA.view_reserved]
  cases hid : p.reserved id with
  | true => exact ⟨hA, rfl⟩
  | false =>
      refine ⟨hA.submitted hid, ?_⟩
      have hlookup := lookup_append_new (hA.lookup_new hid) SliceTask.start
      show { p.service with slices := Function.update (fun x => p.tasks.lookup x) id (some .start) } = _
      rw [← hlookup]
      rfl

/-- A fallback that is scheduled reserves a job that no task works for. -/
theorem Agrees.fallbackStep (hA : Agrees p) {q : PrinterID} {rest : List PrinterID}
    (hloop : p.service.loop = .fallback q rest) :
    Agrees (p.fallbackStep q rest) ∧ p.view.tickStep = (p.fallbackStep q rest).view := by
  unfold Service.tickStep SlicingPool.fallbackStep
  simp only [show p.view.loop = .fallback q rest from hloop]
  -- the transaction asks the set, which is what the service has reserved
  rw [hA.view_reserved]
  show _ ∧ (match (tryScheduleFallback p.service.settings p.service.clock q p.reserved).commit p.service.db with
    | (.ok (some id), d) =>
        { (p.view.commitDb d).setSlice id (some (.recheck q)) with loop := LoopPc.dispatching rest }
    | (.ok none, d) => { p.view.commitDb d with loop := .dispatching rest }
    | (.error _, d) => { p.view.commitDb d with loop := .sleeping }) = _
  rcases hc : (tryScheduleFallback p.service.settings p.service.clock q p.reserved).commit p.service.db with ⟨r, d⟩
  obtain ⟨-, hne⟩ | ⟨id, j, source, rfl, -, -, -, -, -, -, hfree, -⟩ := tryScheduleFallback_commit hc
  · rcases r with e | _ | id
    · exact ⟨hA.serving _, rfl⟩
    · exact ⟨hA.serving _, rfl⟩
    · exact absurd rfl (hne id)
  · refine ⟨hA.submitted hfree, ?_⟩
    have hlookup := lookup_append_new (hA.lookup_new hfree) (SliceTask.recheck q)
    show { p.service with
      db := d
      loop := .dispatching rest
      slices := Function.update (fun x => p.tasks.lookup x) id (some (.recheck q)) } = _
    rw [← hlookup]
    rfl

/-- **The queue loop** does in the pool what it does in the service. -/
theorem Agrees.tickStep (hA : Agrees p) : Agrees p.tickStep ∧ p.view.tickStep = p.tickStep.view := by
  unfold SlicingPool.tickStep
  cases hloop : p.service.loop with
  | sleeping =>
      refine ⟨hA.serving _, ?_⟩
      unfold Service.tickStep
      simp only [show p.view.loop = .sleeping from hloop]
      rfl
  | submitting ids =>
      cases ids with
      | nil =>
          refine ⟨hA.serving _, ?_⟩
          unfold Service.tickStep
          simp only [show p.view.loop = .submitting [] from hloop]
          rfl
      | cons id rest =>
          obtain ⟨hA', hview⟩ := hA.submitSlice id
          refine ⟨hA'.serving _, ?_⟩
          unfold Service.tickStep
          simp only [show p.view.loop = .submitting (id :: rest) from hloop]
          rw [hview]
          rfl
  | dispatching rest =>
      refine ⟨hA.serving _, ?_⟩
      unfold Service.tickStep
      simp only [show p.view.loop = .dispatching rest from hloop]
      cases rest with
      | nil => rfl
      | cons q rest =>
          simp only
          split <;> rfl
  | fallback q rest => exact hA.fallbackStep hloop

/-- **A task** does in the pool what the worker of its job does in the service. -/
theorem Agrees.taskStep {k : Nat} {e : SliceEvent} (hA : Agrees p) (h : p.taskStep k e = some p') :
    Agrees p' ∧ ∃ id task, p.tasks[k]? = some (id, task) ∧ p.view.sliceStep id task e = some p'.view := by
  unfold SlicingPool.taskStep at h
  cases hk : p.tasks[k]? with
  | none => rw [hk] at h; cases h
  | some entry =>
      obtain ⟨id, task⟩ := entry
      rw [hk] at h
      obtain ⟨sv, hstep, h⟩ := Option.map_eq_some_iff.mp h
      obtain ⟨task', hslices⟩ := (sliceStep_trans hstep).slices
      -- what the worker leaves under its job decides what becomes of its task
      have hself : sv.slices id = task' := by
        rw [hslices]
        exact Function.update_self ..
      unfold SlicingPool.resume at h
      cases task' with
      | some task' =>
          simp only [hself] at h
          subst h
          refine ⟨hA.moved hk task', id, task, rfl, ?_⟩
          have hlookup := lookup_set hA.nodup hk task'
          rw [hstep]
          show some sv = some { sv with slices := fun x => (p.tasks.set k (id, task')).lookup x }
          rw [hlookup]
          rw [show Function.update (fun x => p.tasks.lookup x) id (some task') = sv.slices from hslices.symm]
      | none =>
          simp only [hself] at h
          subst h
          refine ⟨hA.ended hk, id, task, rfl, ?_⟩
          have hlookup := lookup_eraseIdx hA.nodup hk
          rw [hstep]
          show some sv = some { sv with slices := fun x => (p.tasks.eraseIdx k).lookup x }
          rw [hlookup]
          rw [show Function.update (fun x => p.tasks.lookup x) id none = sv.slices from hslices.symm]

/-- **Every step of the pool is a step of the service.** -/
theorem Agrees.step {e : PoolEvent} (hA : Agrees p) (hD : Disciplined p.view) (h : p.step e = some p') :
    Agrees p' ∧ ∃ e', service.step p.view e' = some p'.view := by
  cases e with
  | tick =>
      simp only [SlicingPool.step] at h
      split at h <;> cases h
      next hrun =>
      obtain ⟨hA', hview⟩ := hA.tickStep
      refine ⟨hA', .tick, ?_⟩
      show p.view.step .tick = _
      simp only [Service.step, show p.view.phase = .running from hrun, hview]
  | task k e =>
      simp only [SlicingPool.step] at h
      split at h
      · next hrun =>
          obtain ⟨hA', id, task, hk, hview⟩ := hA.taskStep h
          refine ⟨hA', .slice id e, ?_⟩
          -- the task at this position is the only one of its job
          have htask : p.view.slices id = some task := lookup_getElem hA.nodup hk
          show p.view.step (.slice id e) = _
          simp only [Service.step, show p.view.phase = .running from hrun, htask, hview]
      · cases h
  | other e =>
      simp only [SlicingPool.step] at h
      split at h
      · cases h
      · next he =>
          obtain ⟨sv, hstep, rfl⟩ := Option.map_eq_some_iff.mp h
          have ht : Trans p.view e sv := hD.step_trans hstep
          unfold SlicingPool.serve
          split
          · next hrun =>
              refine ⟨hA.serving sv, e, ?_⟩
              have hkept := ht.slices_kept (by simpa using he) hrun
              show p.view.step e = some { sv with slices := p.view.slices }
              rw [hstep, ← hkept]
          · next hdown =>
              -- no worker outlives the process
              refine ⟨.empty sv, e, ?_⟩
              have hnone := ((hD.step ht).idle hdown).2
              show p.view.step e = some { sv with slices := fun _ => none }
              rw [hstep, ← hnone]

/-- **The tasks are the workers of the service**: what happens to the service under the pool is a run of
    `service`. -/
theorem slicingPool_refines (h : slicingPool.Reach always p) : Agrees p ∧ service.Reach always p.view := by
  refine Machine.Reach.invariant (I := fun p => Agrees p ∧ service.Reach always p.view) ?_ ?_ h
  · rintro ⟨sv, set, tasks⟩ ⟨⟨cfg, now, rfl⟩, rfl, rfl⟩
    exact ⟨.empty _, .init (service_init cfg now)⟩
  · rintro p e p' - ⟨hA, hreach⟩ - hstep
    obtain ⟨hA', e', hview⟩ := hA.step (disciplined_of_reach hreach) hstep
    exact ⟨hA', hreach.step trivial hview⟩

end refines

end BambuBabu
