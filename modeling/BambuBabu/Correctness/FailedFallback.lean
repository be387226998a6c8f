import BambuBabu.Correctness.NoSteal
import BambuBabu.Floor.Plans
import BambuBabu.Service.FallbackCall

/-!
# `Correctness.FailedFallback` — a failed fallback is final

A fallback re-slice that raises puts its job back into the queue with the plan that it had, and marks it in its error
text. `_try_schedule_fallback` passes over marked jobs. Nothing rewrites the mark while the job is QUEUED, and once
the job has left the queue no status leads back to SLICING (`failed_fallback_final`).

In `service` it is the slicer that raises. In `reslicing` any statement of `_reslice_for_fallback` may.
-/

namespace BambuBabu

open Storage Runs

inductive ResliceEvent where
  | service (e : Event)
  /-- A statement in the `try` block of `_reslice_for_fallback` raises; its transaction is rolled back. -/
  | raise (id : JobId) (exc : String)

/-- The fallback worker of the job raises. -/
def Service.raiseStep (s : Service) (id : JobId) (exc : String) : Option Service :=
  match s.phase, s.slices id with
  | .running, some task => if task.reroutes then some (s.setSlice id (some (.aborting exc))) else none
  | _, _ => none

/-- The machine. -/
def reslicing : Machine Service ResliceEvent where
  init := service.init
  step s
    | .service e => service.step s e
    | .raise id exc => s.raiseStep id exc

/-- The worker is in `_reslice_for_fallback` and not done with its job. -/
def SliceTask.fallsBack : SliceTask → Bool
  | aborting _ => true
  | task => task.reroutes

/-- A fallback worker works for the job. -/
def FallingBack (s : Service) (id : JobId) : Prop := ∃ task, s.slices id = some task ∧ task.fallsBack = true

/-- `_try_schedule_fallback` schedules the job. -/
structure Schedules (s s' : Service) (id : JobId) : Prop where
  step : service.step s .tick = some s'
  before : ¬ FallingBack s id
  after : FallingBack s' id

/-- The re-slice of the job has raised, and the job is returned to QUEUED. -/
structure Aborts (s s' : Service) (id : JobId) : Prop where
  worker : ∃ exc, s.slices id = some (.aborting exc)
  step : service.step s (.slice id .next) = some s'
  queued : s'.db.statusOf id = some .queued

variable {s s' a b : Service} {e : Event} {id : JobId} {j j' : Job}

/-! ## The fallback workers -/

theorem Service.raiseStep_cases {exc : String} (h : s.raiseStep id exc = some s') :
    s.phase = .running ∧ ∃ task, s.slices id = some task ∧ task.reroutes = true ∧
      s' = s.setSlice id (some (.aborting exc)) := by
  unfold Service.raiseStep at h
  split at h
  · next hphase htask =>
      split at h
      · next hre => exact ⟨hphase, _, htask, hre, (Option.some.inj h).symm⟩
      · cases h
  · cases h

theorem SliceTask.fallsBack_of_reroutes {task : SliceTask} (h : task.reroutes = true) : task.fallsBack = true := by
  cases task <;> first | rfl | exact h

/-- What a fallback worker knows of its job. -/
theorem SliceTask.knows_fallsBack {task : SliceTask} (h : task.fallsBack = true) (st : Option JobStatus) :
    task.knows st ↔ st ∈ [some .slicing, some .cancelled] := by
  cases task <;> first | exact Iff.rfl | cases h

/-- The job of a fallback worker is being sliced, or was cancelled. -/
theorem Working.fallingBack (hW : Working s) (h : FallingBack s id) :
    ∃ j, s.db.job id = some j ∧ (j.status = .slicing ∨ j.status = .cancelled) := by
  obtain ⟨task, htask, hfalls⟩ := h
  have hst := (SliceTask.knows_fallsBack hfalls _).mp (hW id task htask)
  cases hj : s.db.job id with
  | none =>
      rw [Db.statusOf, hj] at hst
      exact absurd hst (by decide)
  | some j =>
      rw [Db.statusOf_eq hj] at hst
      exact ⟨j, rfl, by simpa using hst⟩

/-- A worker that is still at it has written nothing. -/
theorem SliceTrans.fallingBack {task task' : SliceTask} (ht : SliceTrans s id task s')
    (htask' : s'.slices id = some task') (hfalls : task'.fallsBack = true) :
    task.fallsBack = true ∧ s'.db = s.db := by
  have hdone : ∀ {t : SliceTask} {d : Db}, ((s.commitDb d).setSlice id (some t)).slices id = some task' →
      t.fallsBack = true := by
    intro t d h
    cases (Function.update_self ..).symm.trans h
    exact hfalls
  cases ht with
  | @goto t hloc =>
      have hsame : Function.update s.slices id t id = some task' := htask'
      rw [Function.update_self] at hsame
      subst hsame
      refine ⟨?_, rfl⟩
      cases hloc <;> first | rfl | cases hfalls
  | rechecked htsk | resliced htsk => exact ⟨by rw [htsk]; rfl, rfl⟩
  | sliced =>
      cases (Function.update_self ..).symm.trans htask'
      cases hfalls
  | _ => cases hdone htask'

/-- **A fallback worker is made by the queue loop**, for a job that it takes out of the queue as it is. -/
theorem Trans.schedules (ht : Trans s e s') (hno : ¬ FallingBack s id) (hyes : FallingBack s' id) :
    e = .tick ∧ ∃ j j', s.db.job id = some j ∧ j.status = .queued ∧ s'.db.job id = some j' ∧
      j'.status = .slicing ∧ j'.plan = j.plan := by
  obtain ⟨task, htask, hfalls⟩ := hyes
  cases ht.task htask with
  | kept hold => exact absurd ⟨task, hold, hfalls⟩ hno
  | submitted htsk =>
      subst htsk
      cases hfalls
  | withdrawn _ he _ hj hs _ hj' => exact ⟨he, _, _, hj, hs, hj', rfl, rfl⟩
  | moved _ _ htask₀ hst => exact absurd ⟨_, htask₀, (hst.fallingBack htask hfalls).1⟩ hno

/-! ## The plan while the job is re-sliced -/

/-- **A step makes one move, or moves that take no job out of the queue.** -/
theorem Trans.shared (ht : Trans s e s') :
    (∃ a, Move a s.db.floor s'.db.floor) ∨ Moves Act.Shared s.db.floor s'.db.floor := by
  by_cases hrec : e = .reconcile
  · subst hrec
    cases ht with
    | same => exact .inr .refl
    | reconcile _ hm => exact .inr (hm.mono fun _ => Act.Shared.of_recovers)
    | cancel he => rcases he with he | he <;> cases he
  by_cases hcall : ∃ i, e = .callback i
  · obtain ⟨i, rfl⟩ := hcall
    cases ht with
    | same => exact .inr .refl
    | cancel he => rcases he with he | he <;> cases he
    | callback _ ht =>
        cases ht with
        | processed _ _ _ hm => exact .inr (hm.mono fun _ => Act.Shared.of_reports)
        | acknowledge => exact .inr .refl
        | refused => exact .inr .refl
        | @logged d _ _ hf =>
            right
            show Moves Act.Shared s.db.floor d.floor
            rw [hf]
            exact .refl
  rcases ht.routine hrec (fun i hi => hcall ⟨i, hi⟩) with hsame | ⟨a, -, hm⟩
  · rw [hsame]
    exact .inr .refl
  · exact .inl ⟨a, hm⟩

/-- A fallback worker that is still at it leaves the plan alone, and so does everybody else. -/
theorem Trans.plan_kept (ht : Trans s e s') (hD : Disciplined s) (hW : Working s) (hback : FallingBack s id)
    (hback' : FallingBack s' id) (hj : s.db.job id = some j) :
    ∃ j', s'.db.job id = some j' ∧ j'.plan = j.plan := by
  obtain ⟨i, hi, hst⟩ := hW.fallingBack hback
  cases Option.some.inj (hj.symm.trans hi)
  obtain ⟨task, htask, -⟩ := hback
  have hmid : j.status ∈ [.analysing, .slicing, .cancelled] := by
    rcases hst with hst | hst <;> rw [hst] <;> decide
  rcases ht.undisturbed hD htask hj hmid with hown | ⟨j', hj', -, hst'⟩
  · obtain ⟨task', htask', hfalls'⟩ := hback'
    refine ⟨j, ?_, rfl⟩
    rw [(hown.fallingBack htask' hfalls').2]
    exact hj
  rcases ht.shared with ⟨a, hm⟩ | hm
  · obtain ⟨i, hi, hkept, -⟩ := hm.columns hj
    have hsame : i = j' := Option.some.inj (hi.symm.trans hj')
    subst hsame
    refine ⟨i, hj', ?_⟩
    rcases hm.job_cases hj with ⟨hne, -⟩ | ⟨i₁, -, hi₁, htk, hl, -⟩
    · rcases hkept with rfl | rfl | hkept
      · exact absurd rfl hne
      · exact absurd rfl hne
      · exact hkept
    · cases Option.some.inj (hi.symm.trans hi₁)
      rcases hkept with rfl | rfl | hkept
      · -- nobody analyses a job that is sliced or cancelled
        have hold : j.status = .analysing := htk
        rw [hold] at hst
        rcases hst with hst | hst <;> cases hst
      · -- nobody else queues it
        have hnew : i.status = .queued := hl
        have hold : j.status = .slicing := htk
        rw [hnew, hold] at hst'
        rcases hst' with hst' | hst' <;> cases hst'
      · exact hkept
  · exact hm.plan_kept hj

/-! ## A marked job -/

/-- Where the edges from QUEUED lead. -/
theorem queued_leads : ∀ st ∈ allowedJobTransitions .queued, st = .slicing ∨ st ∈ sentOrOver := by decide

/-- A job that waits in the queue goes on waiting with its plan and its error text, or leaves the queue with its
    plan. -/
theorem Trans.waiting (ht : Trans s e s') (hj : s.db.job id = some j) (hs : j.status = .queued) :
    ∃ j', s'.db.job id = some j' ∧ j'.plan = j.plan ∧
      ((j'.status = .queued ∧ j'.errorMessage = j.errorMessage) ∨ j'.status = .slicing ∨
        j'.status ∈ sentOrOver) := by
  rcases ht.shared with ⟨a, hm⟩ | hm
  · obtain ⟨j', hj', hkept, herr⟩ := hm.columns hj
    obtain ⟨i, hi, -, hst, -⟩ := hm.row hj
    cases Option.some.inj (hj'.symm.trans hi)
    refine ⟨j', hj', ?_, ?_⟩
    · rcases hm.job_cases hj with ⟨hne, -⟩ | ⟨-, -, -, htk, -⟩
      · rcases hkept with rfl | rfl | hkept
        · exact absurd rfl hne
        · exact absurd rfl hne
        · exact hkept
      · rw [hs] at htk
        rcases hkept with rfl | rfl | hkept
        · cases htk
        · cases htk
        · exact hkept
    · rcases hst with hsame | hedge
      · exact .inl ⟨hsame.trans hs, herr hsame⟩
      · exact .inr (queued_leads _ (hs ▸ hedge))
  · obtain ⟨j', hj', hst, hplan, herr⟩ := hm.waiting hj hs
    exact ⟨j', hj', hplan, .inl ⟨hst, herr⟩⟩

/-- The loop of `_try_schedule_fallback` reserves a listed row that is not marked. -/
theorem reserveCandidate_unmarked {cfg : Settings} {now : Time} {target : PrinterID} {reserved : JobId → Bool} :
    ∀ {rows : List (JobId × Job)} {d d' : Db},
      (reserveCandidate cfg now target reserved rows).run d = (.ok (some id), d') →
      ∃ job, (id, job) ∈ rows ∧ job.retryBarred = false := by
  intro rows
  induction rows with
  | nil =>
      intro d d' hrun
      cases hrun
  | cons row rest ih =>
      intro d d' hrun
      obtain ⟨k, job⟩ := row
      have hlater : ∀ {d₁ : Db}, (reserveCandidate cfg now target reserved rest).run d₁ = (.ok (some id), d') →
          ∃ job', (id, job') ∈ (k, job) :: rest ∧ job'.retryBarred = false := by
        intro d₁ h
        obtain ⟨job', hmem, hun⟩ := ih h
        exact ⟨job', List.mem_cons_of_mem _ hmem, hun⟩
      unfold reserveCandidate at hrun
      simp only [Txn.run_ite] at hrun
      split at hrun
      · exact hlater hrun
      next hunmarked =>
      split at hrun
      · cases hrun
      simp only [Txn.run_bind, getPrinterState_run, Txn.run_ite] at hrun
      split at hrun
      · exact hlater hrun
      rcases hswap : (trySwap now job k .queued .slicing none).run d with ⟨r, d₁⟩
      rw [hswap] at hrun
      rcases r with ex | _ | _
      · cases hrun
      · exact hlater hrun
      · -- this row
        cases hrun
        have hun : job.retryBarred = false := eq_false_of_ne_true hunmarked
        exact ⟨job, List.mem_cons_self, hun⟩

theorem tryScheduleFallback_unmarked {cfg : Settings} {now : Time} {target : PrinterID} {reserved : JobId → Bool}
    {d d' : Db} (h : (tryScheduleFallback cfg now target reserved).commit d = (.ok (some id), d'))
    (hj : d.job id = some j) : j.retryBarred = false := by
  obtain ⟨o, ho, hrun⟩ | ⟨ex, -, hex, -⟩ := Txn.commit_cases h
  · cases ho
    unfold tryScheduleFallback at hrun
    simp only [Txn.run_ite, Txn.run_bind, getPrinterState_run] at hrun
    split at hrun
    · cases hrun
    split at hrun
    · cases hrun
    obtain ⟨job, hmem, hun⟩ := reserveCandidate_unmarked hrun
    cases Option.some.inj (hj.symm.trans (mem_jobsWhere.mp hmem).1)
    exact hun
  · cases hex

/-- A tick that starts a fallback worker is in the call of `_try_schedule_fallback`. -/
theorem tickStep_fallsBack (hno : ¬ FallingBack s id) (hyes : FallingBack s.tickStep id) :
    ∃ q d, (tryScheduleFallback s.settings s.clock q s.reserved).commit s.db = (.ok (some id), d) := by
  obtain ⟨task, htask, hfalls⟩ := hyes
  have hfresh : s.slices id ≠ some task := fun h => hno ⟨task, h, hfalls⟩
  unfold Service.tickStep at htask
  split at htask
  · exact absurd htask hfresh
  · next k _ _ =>
      unfold Service.submitSlice at htask
      split at htask
      · exact absurd htask hfresh
      · have hupdate : Function.update s.slices k (some SliceTask.start) id = some task := htask
        by_cases hid : id = k
        · subst hid
          rw [Function.update_self] at hupdate
          cases hupdate
          cases hfalls
        · rw [Function.update_of_ne hid] at hupdate
          exact absurd hupdate hfresh
  · exact absurd htask hfresh
  · exact absurd htask hfresh
  · split at htask <;> exact absurd htask hfresh
  · next q _ _ =>
      split at htask
      · next k d hcommit =>
          have hupdate : Function.update s.slices k (some (SliceTask.recheck q)) id = some task := htask
          by_cases hid : id = k
          · subst hid
            exact ⟨q, d, hcommit⟩
          · rw [Function.update_of_ne hid] at hupdate
            exact absurd hupdate hfresh
      · exact absurd htask hfresh
      · exact absurd htask hfresh

/-- **A marked job is not sliced again.** -/
theorem Disciplined.marked (hD : Disciplined s) (hW : Working s) (hstep : service.step s e = some s')
    (hj : s.db.job id = some j) (hs : j.status = .queued) (hbarred : j.retryBarred = true)
    (hj' : s'.db.job id = some j') : j'.status ≠ .slicing := by
  intro hs'
  have ht := hD.step_trans hstep
  cases ht.unsent hD hj hj' (by rw [hs]; decide) with
  | kept hst =>
      rw [hs', hs] at hst
      cases hst
  | cancelled hst =>
      rw [hs'] at hst
      cases hst
  | retried _ hst =>
      rw [hs'] at hst
      cases hst
  | dispatched _ hst =>
      rw [hs'] at hst
      cases hst
  | sliced _ _ hm =>
      rw [hs, hs'] at hm
      cases hm
  | withdrawn _ _ hre =>
      -- the queue loop has reserved the job, which it does for no marked one
      have hno : ¬ FallingBack s id := by
        intro hback
        obtain ⟨i, hi, hst⟩ := hW.fallingBack hback
        cases Option.some.inj (hj.symm.trans hi)
        rw [hs] at hst
        rcases hst with hst | hst <;> cases hst
      obtain ⟨q, hq⟩ := hre
      have hyes : FallingBack s' id := ⟨_, hq, rfl⟩
      obtain ⟨rfl, -⟩ := ht.schedules hno hyes
      have htick : s' = s.tickStep := by
        have hstep' : s.step .tick = some s' := hstep
        unfold Service.step at hstep'
        cases hphase : s.phase <;> simp only [hphase] at hstep' <;> cases hstep'
        rfl
      rw [htick] at hyes
      obtain ⟨target, d, hcommit⟩ := tickStep_fallsBack hno hyes
      have hun := tryScheduleFallback_unmarked hcommit hj
      rw [hbarred] at hun
      cases hun

/-! ## The commit that aborts -/

theorem startsWith_append (pat rest : String) : startsWith pat (pat ++ rest) = true := by
  unfold startsWith
  rw [String.toList_append, List.isPrefixOf_iff_prefix]
  exact List.prefix_append _ _

/-- The row after a failed re-slice: queued and marked. -/
theorem abortReslice_marks {now : Time} {exc : String} {r : Except Exc Unit} {d d' : Db}
    (h : (abortReslice now id exc).commit d = (r, d')) (hj : d.job id = some j) (hs : j.status = .slicing) :
    ∃ j', d'.job id = some j' ∧ j'.status = .queued ∧ j'.plan = j.plan ∧ j'.retryBarred = true := by
  let message := fallbackFailedPrefix ++ " retained the original printer queue " ++
    s!"without retrying fallback automatically: {exc}"
  have hswap := transition_run now (some j) [.slicing] .queued (some message) none (by decide) hj (by simp [hs])
  have hrun : ∃ entry, (abortReslice now id exc).run d
      = (.ok (), (d.setJob id (j.transitioned now .queued (some message) none)).insertLog entry) :=
    ⟨_, by
      unfold abortReslice
      rw [Txn.run_bind_of_ok getJob_run, hj]
      simp only [hs, if_true]
      rw [Txn.run_bind_of_ok hswap]
      rfl⟩
  obtain ⟨entry, hrun⟩ := hrun
  rw [Txn.commit_of_ok hrun] at h
  cases h
  refine ⟨j.transitioned now .queued (some message) none, ?_, rfl, rfl, ?_⟩
  · rw [Db.job_insertLog, Db.job_setJob, if_pos rfl, hj]
    rfl
  · show startsWith fallbackFailedPrefix message = true
    rw [show message = fallbackFailedPrefix ++ (" retained the original printer queue " ++
      s!"without retrying fallback automatically: {exc}") from String.append_assoc ..]
    exact startsWith_append _ _

/-- **The commit** leaves the plan, queues the job and marks it. -/
theorem Aborts.marks (hW : Working s) (h : Aborts s s' id) :
    ∃ j j', s.db.job id = some j ∧ s'.db.job id = some j' ∧ j'.status = .queued ∧ j'.plan = j.plan ∧
      j'.retryBarred = true := by
  obtain ⟨exc, htask⟩ := h.worker
  obtain ⟨j, hj, hst⟩ := hW.fallingBack ⟨_, htask, rfl⟩
  have hstep : s.sliceStep id (.aborting exc) .next = some s' := Service.step_slice h.step htask
  have hs' : s' = (s.commitDb ((abortReslice s.clock id exc).commit s.db).2).setSlice id (some .finished) :=
    (Option.some.inj hstep).symm
  rcases hst with hs | hs
  · obtain ⟨j', hj', hq, hplan, hbarred⟩ :=
      abortReslice_marks (r := ((abortReslice s.clock id exc).commit s.db).1) rfl hj hs
    exact ⟨j, j', hj, by rw [hs']; exact hj', hq, hplan, hbarred⟩
  · -- a cancelled job stays cancelled
    have hkept : s'.db.job id = some j := by
      rw [hs']
      show ((abortReslice s.clock id exc).commit s.db).2.job id = some j
      rw [Txn.commit_of_kept (a := ()) (by simp [abortReslice, hj, hs])]
      exact hj
    have hq := h.queued
    rw [Db.statusOf_eq hkept, hs] at hq
    cases hq

/-! ## Runs -/

/-- **Every state of a run is disciplined**, and its workers know their jobs. -/
theorem reslicing_sound {ok : Service → ResliceEvent → Prop} (hr : reslicing.Reach ok s) :
    Disciplined s ∧ Working s := by
  refine hr.invariant (I := fun s => Disciplined s ∧ Working s) ?_ ?_
  · intro s hinit
    have hfresh : service.Reach always s := .init hinit
    exact ⟨disciplined_of_reach hfresh, working_of_reach hfresh⟩
  · rintro s e s' - ⟨hD, hW⟩ - hstep
    cases e with
    | service e =>
        have ht := hD.step_trans hstep
        exact ⟨hD.step ht, hW.step hD ht⟩
    | raise k exc =>
        obtain ⟨hphase, task, htask, hre, rfl⟩ := Service.raiseStep_cases hstep
        refine ⟨⟨hD.floor, hD.sent, hD.distinct, fun hdown => absurd hphase hdown⟩, ?_⟩
        intro id task' htask'
        have hupdate : Function.update s.slices k (some (SliceTask.aborting exc)) id = some task' := htask'
        by_cases hid : id = k
        · subst hid
          rw [Function.update_self] at hupdate
          cases hupdate
          -- it knows what the worker knew before
          have hknows := hW id task htask
          exact (SliceTask.knows_fallsBack (SliceTask.fallsBack_of_reroutes hre) _).mp hknows
        · rw [Function.update_of_ne hid] at hupdate
          exact hW id task' hupdate

/-- An exception makes no fallback worker. -/
theorem FallingBack.of_raise {k : JobId} {exc : String} (h : s.raiseStep k exc = some s') :
    FallingBack s' id → FallingBack s id := by
  rintro ⟨task', htask', hfalls⟩
  obtain ⟨-, task, htask, hre, rfl⟩ := Service.raiseStep_cases h
  have hupdate : Function.update s.slices k (some (SliceTask.aborting exc)) id = some task' := htask'
  by_cases hid : id = k
  · subst hid
    exact ⟨task, htask, SliceTask.fallsBack_of_reroutes hre⟩
  · rw [Function.update_of_ne hid] at hupdate
    exact ⟨task', hupdate, hfalls⟩

/-- **From the schedule on**, while a fallback worker works for the job, its plan is the one it had before. -/
theorem Schedules.plan_kept (hr : reslicing.Reach always a) (h : Schedules a b id)
    (hpath : reslicing.Path (fun t _ => FallingBack t id) b s) (hback : FallingBack s id) :
    s.db.planOf id = a.db.planOf id := by
  obtain ⟨hD, hW⟩ := reslicing_sound hr
  obtain ⟨-, j, j', hj, -, hj', -, hplan⟩ := (hD.step_trans h.step).schedules h.before h.after
  have hstart : b.db.planOf id = a.db.planOf id := by
    rw [Db.planOf_eq hj, Db.planOf_eq hj', hplan]
  have hb : reslicing.Reach always b := hr.step (e := .service .tick) trivial h.step
  -- by induction on the run; the row is there throughout
  suffices hkept : FallingBack s id → s.db.planOf id = b.db.planOf id from (hkept hback).trans hstart
  clear hback
  induction hpath with
  | refl => exact fun _ => rfl
  | @step t t' e hpre hback hstep ih =>
      intro hback'
      obtain ⟨hD, hW⟩ := reslicing_sound (hb.path (hpre.mono fun _ _ _ => trivial))
      rw [← ih hback]
      cases e with
      | service e =>
          obtain ⟨i, hi, -⟩ := hW.fallingBack hback
          obtain ⟨i', hi', hsame⟩ := (hD.step_trans hstep).plan_kept hD hW hback hback' hi
          rw [Db.planOf_eq hi, Db.planOf_eq hi', hsame]
      | raise k exc =>
          obtain ⟨-, -, -, -, rfl⟩ := Service.raiseStep_cases hstep
          rfl

/-- **A fallback worker was scheduled**, and has worked for the job ever since. -/
theorem FallingBack.scheduled (hr : reslicing.Reach always s) (hback : FallingBack s id) :
    ∃ a b, reslicing.Reach always a ∧ Schedules a b id ∧ reslicing.Path (fun t _ => FallingBack t id) b s := by
  obtain ⟨s₀, ⟨cfg, now, rfl⟩, hpath⟩ := hr
  have hinit : ¬ FallingBack (Service.fresh cfg now) id := by
    rintro ⟨task, htask, -⟩
    cases htask
  obtain ⟨a, e, b, hpre, hno, -, hstep, hrest⟩ := hpath.established (P := (FallingBack · id)) hinit hback
  have ha : reslicing.Reach always a := ⟨_, ⟨cfg, now, rfl⟩, hpre⟩
  have hyes : FallingBack b id := hrest.start hback
  refine ⟨a, b, ha, ?_, hrest.mono fun _ _ h => h.2⟩
  cases e with
  | service e =>
      have ht := (reslicing_sound ha).1.step_trans hstep
      obtain ⟨rfl, -⟩ := ht.schedules hno hyes
      exact ⟨hstep, hno, hyes⟩
  | raise k exc => exact absurd (FallingBack.of_raise hstep hyes) hno

/-- The job has its plan for good: it waits in the queue with its mark, or has left the queue for good. -/
def PlanFinal (plan : Plan) (s : Service) (id : JobId) : Prop :=
  ∃ j, s.db.job id = some j ∧ j.plan = plan ∧
    ((j.status = .queued ∧ j.retryBarred = true) ∨ j.status ∈ sentOrOver)

/-- **Every step keeps it.** -/
theorem PlanFinal.step {plan : Plan} (h : PlanFinal plan s id) (hD : Disciplined s) (hW : Working s)
    (hstep : service.step s e = some s') : PlanFinal plan s' id := by
  obtain ⟨j, hj, hplan, ⟨hs, hbarred⟩ | hs⟩ := h
  · obtain ⟨j', hj', hkept, hcase⟩ := (hD.step_trans hstep).waiting hj hs
    refine ⟨j', hj', hkept.trans hplan, ?_⟩
    rcases hcase with ⟨hs', herr⟩ | hs' | hs'
    · left
      refine ⟨hs', ?_⟩
      unfold Job.retryBarred
      rw [herr]
      exact hbarred
    · exact absurd hs' (hD.marked hW hstep hj hs hbarred hj')
    · exact .inr hs'
  · obtain ⟨j', hj', hs', hkept⟩ := (hD.step_trans hstep).moves.over hj hs
    exact ⟨j', hj', hkept.trans hplan, .inr hs'⟩

theorem PlanFinal.not_slicing {plan : Plan} (h : PlanFinal plan s id) : s.db.statusOf id ≠ some .slicing := by
  obtain ⟨j, hj, -, hcase⟩ := h
  rw [Db.statusOf_eq hj]
  intro hslicing
  have hs : j.status = .slicing := Option.some.inj hslicing
  rcases hcase with ⟨hq, -⟩ | hover
  · rw [hs] at hq
    cases hq
  · rw [hs] at hover
    exact absurd hover (by decide)

/-- **A failed fallback is final and leaves the plan intact.** For every job whose fallback re-slice raised and that
    is returned to QUEUED: its fallback was scheduled; its plan is the one from before that; and from then on the job
    is never SLICING and its plan does not change. -/
theorem failed_fallback_final (hr : reslicing.Reach always s) (h : Aborts s s' id) :
    (∃ a b, reslicing.Reach always a ∧ Schedules a b id ∧
      reslicing.Path (fun t _ => FallingBack t id) b s) ∧
    (∀ a b, reslicing.Reach always a → Schedules a b id → reslicing.Path (fun t _ => FallingBack t id) b s →
      s'.db.planOf id = a.db.planOf id) ∧
    ∀ t, reslicing.Path always s' t → t.db.statusOf id ≠ some .slicing ∧ t.db.planOf id = s'.db.planOf id := by
  obtain ⟨exc, htask⟩ := h.worker
  have hback : FallingBack s id := ⟨_, htask, rfl⟩
  obtain ⟨j, j', hj, hj', hq, hplan, hbarred⟩ := h.marks (reslicing_sound hr).2
  refine ⟨hback.scheduled hr, ?_, ?_⟩
  · intro a b ha hsched hpath
    rw [← hsched.plan_kept ha hpath hback, Db.planOf_eq hj, Db.planOf_eq hj', hplan]
  · intro t hpath
    have hr' : reslicing.Reach always s' := hr.step (e := .service (.slice id .next)) trivial h.step
    have hfinal : PlanFinal j'.plan t id := by
      refine hpath.keeps (P := (PlanFinal j'.plan · id)) hr' ⟨j', hj', rfl, .inl ⟨hq, hbarred⟩⟩ ?_
      intro u e u' hu hP _ hstep
      cases e with
      | service e =>
          obtain ⟨hD, hW⟩ := reslicing_sound hu
          exact hP.step hD hW hstep
      | raise k exc =>
          obtain ⟨-, -, -, -, rfl⟩ := Service.raiseStep_cases hstep
          exact hP
    refine ⟨hfinal.not_slicing, ?_⟩
    obtain ⟨i, hi, hsame, -⟩ := hfinal
    rw [Db.planOf_eq hi, Db.planOf_eq hj', hsame]

namespace Script

/-- A job for the A1 Mini, which is offline, is to be re-sliced for the P1S, and the slicer fails. -/
def fallbackFails : List ResliceEvent :=
  let events : List Event := [.boot bothPrinters, .reconcile, .live .p1s .connectMqtt, .live .p1s (.onConnect 0)] ++
    reportState .idle ++ [upload "a"] ++ slice "a" ++ [.tick, .tick, .tick, .tick] ++
    [.slice "a" .next, .slice "a" (.sliced (.raised "bad profile"))]
  events.map .service

/-- The plan of the job before and after. -/
def a1MiniPlan : Plan := ⟨some .a1Mini, some "data/sliced/a-a1_mini.gcode.3mf", some 30, some 10, some 10, some 10⟩

/-- The worker of job `a` is about to return it to the queue of the A1 Mini. -/
def abortsToA1Mini (s : Service) : Bool :=
  decide (s.slices "a" = some (.aborting "bad profile")) &&
    (service.step s (.slice "a" .next)).any fun s' =>
      decide (s'.db.statusOf "a" = some .queued) && decide (s'.db.planOf "a" = some a1MiniPlan)

end Script

/-- A slicer error returns the job to its queue, and it is not sliced again. -/
theorem failed_fallback_slicer_error : ∃ s s', reslicing.Reach always s ∧ Aborts s s' "a" ∧
    s'.db.planOf "a" = some Script.a1MiniPlan ∧
    ∀ t, reslicing.Path always s' t →
      t.db.statusOf "a" ≠ some .slicing ∧ t.db.planOf "a" = s'.db.planOf "a" := by
  obtain ⟨s, hr, hs⟩ := Machine.reach_of_run (M := reslicing) Machine.always_of_anyStep Script.fallbackFails
    Script.abortsToA1Mini (service_init Script.p1sOnly 0) (by decide +kernel)
  obtain ⟨hworker, hcommit⟩ := Bool.and_eq_true_iff.mp hs
  obtain ⟨s', hstep, hafter⟩ := (Option.any_eq_true _ _).mp hcommit
  obtain ⟨hqueued, hplan⟩ := Bool.and_eq_true_iff.mp hafter
  have haborts : Aborts s s' "a" := ⟨⟨_, of_decide_eq_true hworker⟩, hstep, of_decide_eq_true hqueued⟩
  exact ⟨s, s', hr, haborts, of_decide_eq_true hplan, (failed_fallback_final hr haborts).2.2⟩

end BambuBabu
