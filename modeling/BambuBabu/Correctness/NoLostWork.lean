import BambuBabu.Correctness.RestartRecovery
import BambuBabu.Service.SlicingPool

/-!
# `Correctness.NoLostWork` — every job that is being sliced has its worker

The statuses ANALYSING and SLICING are in the database, the work behind them is in memory. The two are kept
together by what no single place says: a worker claims its job by the swap that moves it to ANALYSING, a
fallback reserves the job in the transaction that moves it to SLICING, a worker leaves only when its job has
left these statuses, and a restart, which drops all workers, moves their jobs back to PENDING.

* `Attended` — the invariant: a job that is being analysed or sliced has a worker that has claimed it.
* `SliceTask.rank` — the steps that a task still has before it.
* `no_lost_slicing` — **the theorem**.
-/

namespace BambuBabu

open Storage Runs

variable {s s' : Service} {e : Event} {id : JobId} {j : Job}

/-- The statuses of a job that a slicing worker is responsible for. -/
def beingSliced : List JobStatus := [.analysing, .slicing]

/-! ## A worker stays with its job -/

/-- Whether the worker has claimed its job. A stale pending id makes a worker that never does. -/
def SliceTask.claims : SliceTask → Bool
  | .start | .finished => false
  | _ => true

/-- Every job that is being analysed or sliced has a worker that has claimed it. -/
def Attended (s : Service) : Prop :=
  ∀ id j, s.db.job id = some j → j.status ∈ beingSliced → ∃ task, s.slices id = some task ∧ task.claims = true

/-- A worker that has claimed its job, and finds it in a status that its next block does not act on, has nothing
    left to do. -/
theorem SliceTask.not_beingSliced {task : SliceTask} {st : JobStatus} (hclaim : task.claims = true)
    (hk : task.knows (some st)) (hne : task.awaits ≠ []) (hskip : st ∉ task.awaits) : st ∉ beingSliced := by
  cases task <;> cases st <;>
    simp_all [SliceTask.claims, SliceTask.knows, SliceTask.awaits, beingSliced, activeJobStatuses]

/-- A worker that goes on without a transaction stays, unless its job has moved on. -/
theorem SliceLocal.claims {task : SliceTask} {task' : Option SliceTask} {st : JobStatus}
    (h : SliceLocal task task') (hclaim : task.claims = true) (hk : task.knows (some st))
    (hskip : task' = some .finished → st ∉ task.awaits) (hst : st ∈ beingSliced) :
    ∃ t, task' = some t ∧ t.claims = true := by
  have moved_on : task' = some .finished → task.awaits ≠ [] → False := fun hf hne =>
    SliceTask.not_beingSliced hclaim hk hne (hskip hf) hst
  cases h with
  | lost => cases hclaim
  | done => cases hclaim
  | analysed | analysisFailed | sliceFailed | resliceFailed => exact ⟨_, rfl, rfl⟩
  | planSkip | storeSkip | recheckSkip | restoreSkip | abortSkip =>
      exact (moved_on rfl (by simp [SliceTask.awaits])).elim
  | failSkip => exact (moved_on rfl (by simp [SliceTask.awaits, activeJobStatuses])).elim

/-- **A worker stays with its job**: a job that is being analysed or sliced after a step of its worker still has
    it. -/
theorem SliceTrans.attends {task : SliceTask} {j' : Job} (ht : SliceTrans s id task s')
    (hj : s.db.job id = some j) (hj' : s'.db.job id = some j') (hk : task.knows (s.db.statusOf id))
    (hclaim : j.status ∈ beingSliced → task.claims = true) (hs' : j'.status ∈ beingSliced) :
    ∃ t, s'.slices id = some t ∧ t.claims = true := by
  -- the transaction ends in a status that no worker is responsible for
  have left : ∀ (st : JobStatus) {a : Act} {d : Db}, d.job id = some j' → Move a s.db.floor d.floor →
      a.target = some id → a.leads j.status = st → st ∉ beingSliced → False := by
    intro st a d hd hm htgt hst hout
    rcases hm.job_cases hj with ⟨hne, -⟩ | ⟨i, -, hi, -, hl, -⟩
    · exact hne htgt
    · cases Option.some.inj (hi.symm.trans hd)
      rw [hl, hst] at hs'
      exact hout hs'
  cases ht with
  | goto hloc hskip =>
      cases Option.some.inj (hj.symm.trans hj')
      rw [Db.statusOf_eq hj] at hk
      obtain ⟨t, rfl, ht⟩ := hloc.claims (hclaim hs') hk (fun hf => hskip hf j hj) hs'
      exact ⟨t, Service.setSlice_self .., ht⟩
  | analysing => exact ⟨_, Service.setSlice_self .., rfl⟩
  | planned => exact ⟨_, Service.setSlice_self .., rfl⟩
  | sliced => exact ⟨_, Service.setSlice_self .., rfl⟩
  | rechecked => exact ⟨_, Service.setSlice_self .., rfl⟩
  | resliced => exact ⟨_, Service.setSlice_self .., rfl⟩
  | reject _ hm => exact (left .rejected hj' hm rfl rfl (by decide)).elim
  | failed _ _ _ hm => exact (left .failed hj' hm rfl rfl (by decide)).elim
  | aborted _ _ _ hm => exact (left .queued hj' hm rfl rfl (by decide)).elim
  | stored _ hi hs hf => exact (left .queued hj' (Move.of_queuedFor hi hs hf) rfl rfl (by decide)).elim
  | restored _ hi hs hf => exact (left .queued hj' (Move.of_queuedFor hi hs hf) rfl rfl (by decide)).elim

/-- The worker of a job stays where it is while another reservation changes. -/
theorem Attended.elsewhere {k : JobId} {o : Option SliceTask} (hk : id ≠ k)
    (h : s'.slices = Function.update s.slices k o)
    (hw : ∃ task, s.slices id = some task ∧ task.claims = true) :
    ∃ task, s'.slices id = some task ∧ task.claims = true := by
  rw [h, Function.update_of_ne hk]
  exact hw

/-- A job that a step leaves in its status keeps its worker. -/
theorem Attended.kept {j' : Job} (hA : Attended s) (hW : Working s) (ht : Trans s e s')
    (hrun : s'.phase = .running) (hj : s.db.job id = some j) (hj' : s'.db.job id = some j')
    (hst : j'.status = j.status) (hs' : j'.status ∈ beingSliced) :
    ∃ task, s'.slices id = some task ∧ task.claims = true := by
  have hs : j.status ∈ beingSliced := hst ▸ hs'
  have hw := hA id j hj hs
  cases ht.slices with
  | same h =>
      rw [h]
      exact hw
  | lost _ hdown => exact absurd hrun hdown
  | @submitted k _ h hfree =>
      refine Attended.elsewhere ?_ h hw
      -- a stale pending id is submitted only if its job has no worker
      rintro rfl
      obtain ⟨task, htask, -⟩ := hw
      rw [hfree] at htask
      cases htask
  | @withdrawn k _ i _ _ hi hq _ _ _ _ h =>
      refine Attended.elsewhere ?_ h hw
      -- a fallback takes a job from the queue, not from another worker
      rintro rfl
      cases Option.some.inj (hj.symm.trans hi)
      rw [hq] at hs
      exact absurd hs (by decide)
  | @moved k task _ htask hslice =>
      by_cases hk : id = k
      · subst hk
        refine hslice.attends hj hj' (hW id task htask) (fun _ => ?_) hs'
        obtain ⟨task', htask', hclaim⟩ := hw
        cases Option.some.inj (htask.symm.trans htask')
        exact hclaim
      · obtain ⟨o, h⟩ := hslice.slices
        exact Attended.elsewhere hk h hw

/-- **Every step of a running service keeps every job attended.** -/
theorem Attended.step (hA : Attended s) (hD : Disciplined s) (hW : Working s) (ht : Trans s e s')
    (hrun : s.phase = .running) (hrun' : s'.phase = .running) : Attended s' := by
  intro id j' hj' hs'
  cases hj : s.db.job id with
  | none =>
      rw [ht.born hj hj'] at hs'
      exact absurd hs' (by decide)
  | some j =>
      have hfree : j.status ∉ owning := by
        refine ht.unsent_before (fun i hi hown => ?_) j hj
        cases Option.some.inj (hi.symm.trans hj')
        revert hs' hown
        cases j'.status <;> decide
      cases ht.unsent hD hj hj' hfree with
      | kept hst => exact hA.kept hW ht hrun' hj hj' hst hs'
      | cancelled hst => rw [hst] at hs'; exact absurd hs' (by decide)
      | retried hboot => rw [hrun] at hboot; cases hboot
      | dispatched _ hst => rw [hst] at hs'; exact absurd hs' (by decide)
      | withdrawn _ _ hre =>
          obtain ⟨p, hp⟩ := hre
          exact ⟨_, hp, rfl⟩
      | @sliced task htask hslice =>
          -- the worker has just claimed its job, or has done so before
          by_cases hs : j.status ∈ beingSliced
          · obtain ⟨task', htask', hclaim⟩ := hA id j hj hs
            cases Option.some.inj (htask.symm.trans htask')
            exact hslice.attends hj hj' (hW id task htask) (fun _ => hclaim) hs'
          · exact hslice.attends hj hj' (hW id task htask) (fun h => absurd h hs) hs'

theorem JobStatus.reconciled_settled (st : JobStatus) : st.reconciled ∉ beingSliced := by
  cases st <;> decide

/-- Recovery leaves no job that is being analysed or sliced. -/
theorem attended_of_reconcile (hI : FloorInv s.db.floor) (h : service.step s .reconcile = some s') :
    Attended s' := by
  intro id j' hj' hs'
  rw [job_reconciled (reconcile_floor hI h)] at hj'
  obtain ⟨j, -, rfl⟩ := Option.map_eq_some_iff.mp hj'
  rw [Job.reconciled_status] at hs'
  exact absurd hs' j.status.reconciled_settled

/-- A service starts to run by reconciling. -/
theorem Trans.starts (ht : Trans s e s') (hrun : s.phase ≠ .running) (hrun' : s'.phase = .running) :
    e = .reconcile := by
  cases ht with
  | boot => cases hrun'
  | crash => cases hrun'
  | reconcile => rfl
  | live _ hstep => exact absurd ((liveStep_frame hstep).phase.symm.trans hrun') hrun
  | callback _ ht => cases ht <;> exact absurd hrun' hrun
  | tick hphase | slice hphase | handoff hphase => exact absurd hphase hrun
  | _ => exact absurd hrun' hrun

/-- **A running service attends to every job**, whatever happened before and however often it was restarted. -/
theorem attended_of_reach {ok : Service → Event → Prop} (h : service.Reach ok s) (hrun : s.phase = .running) :
    Attended s := by
  refine Machine.Reach.invariant (I := fun s => s.phase = .running → Attended s) ?_ ?_ h hrun
  · rintro s ⟨cfg, now, rfl⟩ hrun
    cases hrun
  · intro s e s' hr hA _ hstep hrun'
    have hD := disciplined_of_reach hr
    have ht := trans_of_reach hr hstep
    -- the service runs already, or it has just been reconciled
    by_cases hrun : s.phase = .running
    · exact (hA hrun).step hD (working_of_reach hr) ht hrun hrun'
    · cases ht.starts hrun hrun'
      exact attended_of_reconcile hD.floor hstep

/-! ## A worker comes to its end -/

/-- The steps that a task still has before it, at most. -/
def SliceTask.rank : SliceTask → Nat
  | .finished => 1
  | .failing _ | .aborting _ => 2
  | .store _ _ _ | .restore _ _ _ => 3
  | .slice _ _ | .reslice _ _ => 4
  | .plan _ _ | .recheck _ => 5
  | .analyse _ => 6
  | .start => 7

/-- A task that has ended has none. -/
def taskRank (task : Option SliceTask) : Nat := task.elim 0 SliceTask.rank

theorem SliceLocal.rank_lt {task : SliceTask} {task' : Option SliceTask} (h : SliceLocal task task') :
    taskRank task' < task.rank := by
  cases h <;> simp [taskRank, SliceTask.rank]

/-- Each step of a task is one less before it, -/
theorem SliceTrans.rank_lt {task : SliceTask} (ht : SliceTrans s id task s') :
    taskRank (s'.slices id) < task.rank := by
  have lt : ∀ {t : Option SliceTask}, s'.slices id = t → taskRank t < task.rank →
      taskRank (s'.slices id) < task.rank := fun h hlt => h ▸ hlt
  cases ht with
  | goto hloc => exact lt (Service.setSlice_self ..) hloc.rank_lt
  | analysing htask | reject htask | planned htask | sliced htask | stored htask | failed htask | rechecked htask
  | resliced htask | restored htask | aborted htask =>
      subst htask
      exact lt (Service.setSlice_self ..) (by simp [taskRank, SliceTask.rank])

theorem SliceTrans.phase {task : SliceTask} (ht : SliceTrans s id task s') : s'.phase = s.phase := by
  cases ht <;> rfl

/-- and a task always has a step: its block runs, or what it waits for returns or raises. -/
theorem sliceStep_enabled (s : Service) (id : JobId) (task : SliceTask) :
    ∃ e s', s.sliceStep id task e = some s' := by
  cases task with
  | start =>
      refine ⟨.next, ?_⟩
      simp only [Service.sliceStep]
      split <;> exact ⟨_, rfl⟩
  | analyse stl => exact ⟨.analysed (.error ""), _, rfl⟩
  | plan stl a =>
      refine ⟨.next, ?_⟩
      simp only [Service.sliceStep]
      split <;> exact ⟨_, rfl⟩
  | slice stl p | reslice stl p =>
      refine ⟨.sliced (.sliced none), ?_⟩
      simp only [Service.sliceStep]
      split <;> exact ⟨_, rfl⟩
  | store p path est | restore p path est =>
      refine ⟨.next, ?_⟩
      simp only [Service.sliceStep]
      split <;> exact ⟨_, rfl⟩
  | recheck p =>
      refine ⟨.next, ?_⟩
      simp only [Service.sliceStep]
      split <;> exact ⟨_, rfl⟩
  | failing m | aborting m | finished => exact ⟨.next, _, rfl⟩

section pool

variable {p p' : SlicingPool} {entry : JobId × SliceTask} {rest : List (JobId × SliceTask)}

/-- The steps that the tasks still have before them. -/
def SlicingPool.rank (p : SlicingPool) : Nat := (p.tasks.map fun entry => entry.2.rank).sum

/-- Whether the event is a step of the first task, which is the one that the executor runs. -/
def PoolEvent.worker : PoolEvent → Bool
  | .task 0 _ => true
  | _ => false

/-- The first task has a step, and every such step is one less before the tasks. -/
theorem worker_step (hrun : p.service.phase = .running) (htasks : p.tasks = entry :: rest) :
    (∃ e p', slicingPool.step p (.task 0 e) = some p') ∧
      ∀ e p', slicingPool.step p (.task 0 e) = some p' → p'.rank < p.rank ∧ p'.service.phase = .running := by
  obtain ⟨id, task⟩ := entry
  have hrank : p.rank = task.rank + (rest.map fun entry => entry.2.rank).sum := by
    rw [SlicingPool.rank, htasks, List.map_cons, List.sum_cons]
  have hstep : ∀ e, slicingPool.step p (.task 0 e) = (p.view.sliceStep id task e).map (p.resume 0 id) := by
    intro e
    show (if p.service.phase = .running then p.taskStep 0 e else none) = _
    rw [if_pos hrun]
    simp only [SlicingPool.taskStep, htasks, List.getElem?_cons_zero]
  constructor
  · obtain ⟨e, sv, hsv⟩ := sliceStep_enabled p.view id task
    refine ⟨e, p.resume 0 id sv, ?_⟩
    rw [hstep, hsv]
    rfl
  · intro e p' h
    rw [hstep] at h
    obtain ⟨sv, hsv, rfl⟩ := Option.map_eq_some_iff.mp h
    have ht := sliceStep_trans hsv
    have hlt := ht.rank_lt
    have hphase : sv.phase = .running := ht.phase.trans hrun
    rw [hrank]
    unfold SlicingPool.resume
    rw [htasks]
    cases hsl : sv.slices id with
    | some task' =>
        rw [hsl] at hlt
        refine ⟨?_, hphase⟩
        show (((id, task') :: rest).map fun entry => entry.2.rank).sum < _
        rw [List.map_cons, List.sum_cons]
        exact Nat.add_lt_add_right hlt _
    | none =>
        rw [hsl] at hlt
        refine ⟨?_, hphase⟩
        show (rest.map fun entry => entry.2.rank).sum < _
        exact Nat.lt_add_of_pos_left hlt

/-- **The executor comes to the end of its tasks.** -/
theorem worker_drains (hrun : p.service.phase = .running) :
    ∃ p', slicingPool.Path (fun _ e => e.worker = true) p p' ∧ p'.tasks = [] ∧ p'.service.phase = .running := by
  -- induction on the steps that the tasks still have before them
  generalize hn : p.rank = n
  induction n using Nat.strong_induction_on generalizing p with
  | _ n ih =>
      cases htasks : p.tasks with
      | nil => exact ⟨p, .refl, htasks, hrun⟩
      | cons entry rest =>
          obtain ⟨⟨e, p₁, hstep⟩, hdown⟩ := worker_step hrun htasks
          obtain ⟨hlt, hrun₁⟩ := hdown e p₁ hstep
          obtain ⟨p', hpath, hempty, hrun'⟩ := ih p₁.rank (hn ▸ hlt) hrun₁ rfl
          have hone : slicingPool.Path (fun _ e => e.worker = true) p p₁ := .single rfl hstep
          exact ⟨p', hone.trans hpath, hempty, hrun'⟩

/-! ## The theorem -/

/-- A running pool has a task for every job that is being analysed or sliced. -/
theorem pool_attended (h : slicingPool.Reach always p) (hrun : p.service.phase = .running) {j : Job}
    (hj : p.service.db.job id = some j) (hs : j.status ∈ beingSliced) : id ∈ p.tasks.map Prod.fst := by
  obtain ⟨-, hreach⟩ := slicingPool_refines h
  obtain ⟨task, htask, -⟩ := attended_of_reach hreach hrun id j hj hs
  rw [mem_keys_iff, show p.tasks.lookup id = some task from htask]
  rfl

/-- **No lost slicing work.** While the service runs, `_slicing_jobs` holds exactly the jobs that have a task,
    no job has two, and every job in ANALYSING or SLICING has one. The executor alone brings all tasks to their
    end, and then no job is left in these statuses. -/
theorem no_lost_slicing (h : slicingPool.Reach always p) (hrun : p.service.phase = .running) :
    (∀ id, id ∈ p.slicingJobs ↔ id ∈ p.tasks.map Prod.fst) ∧ (p.tasks.map Prod.fst).Nodup ∧
    (∀ id j, p.service.db.job id = some j → j.status ∈ beingSliced → (p.tasks.map Prod.fst).count id = 1) ∧
    ∃ p', slicingPool.Path (fun _ e => e.worker = true) p p' ∧ p'.tasks = [] ∧
      ∀ id j, p'.service.db.job id = some j → j.status ∉ beingSliced := by
  obtain ⟨hA, -⟩ := slicingPool_refines h
  refine ⟨hA.reserved, hA.nodup, ?_, ?_⟩
  · intro id j hj hs
    exact List.count_eq_one_of_mem hA.nodup (pool_attended h hrun hj hs)
  · obtain ⟨p', hpath, hempty, hrun'⟩ := worker_drains hrun
    have h' : slicingPool.Reach always p' := h.path (hpath.mono fun _ _ _ => trivial)
    refine ⟨p', hpath, hempty, fun id j hj hs => ?_⟩
    have hmem := pool_attended h' hrun' hj hs
    rw [hempty] at hmem
    cases hmem

/-- The service is killed while it analyses a job. After the restart the job is analysed again. -/
def analysedTwice : List PoolEvent :=
  [.other (.boot Script.p1sOnly), .other .reconcile, .other (Script.upload "a"), .tick, .tick, .task 0 .next,
    .other .crash, .other (.boot Script.p1sOnly), .other .reconcile, .tick, .tick, .task 0 .next]

theorem no_lost_slicing_restart : ∃ p, slicingPool.Reach always p ∧
    p.service.db.statusOf "a" = some .analysing ∧ (p.tasks.map Prod.fst).count "a" = 1 ∧ "a" ∈ p.slicingJobs := by
  obtain ⟨p, hr, hp⟩ := Machine.reach_of_run (M := slicingPool) Machine.always_of_anyStep analysedTwice
    (fun p => decide (p.service.phase = .running ∧ p.service.db.statusOf "a" = some .analysing))
    (s := ⟨Service.fresh Script.p1sOnly 0, ∅, []⟩) ⟨⟨Script.p1sOnly, 0, rfl⟩, rfl, rfl⟩ (by decide +kernel)
  obtain ⟨hrun, hst⟩ := of_decide_eq_true hp
  obtain ⟨hset, -, htask, -⟩ := no_lost_slicing hr hrun
  obtain ⟨j, hj, hs⟩ := Option.map_eq_some_iff.mp hst
  have hone := htask "a" j hj (by rw [hs]; decide)
  refine ⟨p, hr, hst, hone, (hset "a").mpr ?_⟩
  exact List.count_pos_iff.mp (hone ▸ Nat.one_pos)

end pool

end BambuBabu
