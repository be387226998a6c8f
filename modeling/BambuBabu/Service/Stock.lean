import BambuBabu.Service.Workers

/-!
# `Service.Stock` — what is known of a job from its slicing to the queue

A slicing worker holds facts about its job (which file it has, what it was made from), and leaves them with the
job when it queues it. In between the job row is written by others, but what the facts are about, its ticket, is
not. A `Stock` names such facts, for the queued jobs and for each position of a worker.

* `Stock.In` — a state has what the stock says.
* `Stock.Survives` — what one step has to do for that: pass the facts on at each position.
* `Stock.In.step` — **the rule**: then the state after the step has it.
-/

namespace BambuBabu

open Storage Runs

variable {s s' : Service} {e : Event} {id : JobId} {j j' : Job}

/-- **A worker that queues its job** has a new file for it, or leaves it as it was before the fallback. -/
theorem SliceTrans.queues_cases {task : SliceTask} (ht : SliceTrans s id task s') (hj : s.db.job id = some j)
    (hs : j.status = .slicing) (hj' : s'.db.job id = some j') (hs' : j'.status = .queued) :
    s'.history = s.history ∧
      ((∃ p path est now, task = .store p path est ∧ j' = j.queuedFor now j.assignedPrinter path est) ∨
        (∃ p path est now, task = .restore p path est ∧ j' = j.queuedFor now (some p) path est) ∨
        ∃ m, task = .aborting m ∧ j'.ticket = j.ticket) := by
  -- a step that leaves the database alone queues nothing
  have kept : s'.db = s.db → False := fun hdb => by
    rw [hdb, hj] at hj'
    cases hj'
    rw [hs] at hs'
    cases hs'
  -- nor does a swap to another status
  have swapped : ∀ {old new : JobStatus} {d : Db}, Move (.swap id old new) s.db.floor d.floor →
      d.job id = some j' → new = .queued ∧ j'.ticket = j.ticket := fun {old new d} hm hd => by
    obtain ⟨hnew, htk⟩ := hm.swap_row hj hd
    exact ⟨hnew.symm.trans hs', htk⟩
  cases ht with
  | goto => exact (kept rfl).elim
  | sliced => exact (kept rfl).elim
  | resliced => exact (kept rfl).elim
  | rechecked => exact (kept rfl).elim
  | analysing _ _ _ hm => cases (swapped hm hj').1
  | reject _ hm => cases (swapped hm hj').1
  | failed _ _ _ hm => cases (swapped hm hj').1
  | planned _ _ hi hst =>
      cases Option.some.inj (hj.symm.trans hi)
      rw [hs] at hst
      cases hst
  | @stored d path p est i now htsk hi _ hf =>
      cases Option.some.inj (hj.symm.trans hi)
      have hd : d.job id = some (j.queuedFor now j.assignedPrinter path est) := Db.job_of_floor hf
      exact ⟨rfl, .inl ⟨p, path, est, now, htsk, (Option.some.inj (hd.symm.trans hj')).symm⟩⟩
  | @restored d path p est i now htsk hi _ hf =>
      cases Option.some.inj (hj.symm.trans hi)
      have hd : d.job id = some (j.queuedFor now (some p) path est) := Db.job_of_floor hf
      exact ⟨rfl, .inr (.inl ⟨p, path, est, now, htsk, (Option.some.inj (hd.symm.trans hj')).symm⟩)⟩
  | aborted htsk _ _ hm => exact ⟨rfl, .inr (.inr ⟨_, htsk, (swapped hm hj').2⟩)⟩

/-- What is known of a queued job, and what a slicing worker holds of its job. -/
structure Stock where
  queued : Job → Prop
  held : SliceTask → Job → Prop

/-- The queued jobs, and the jobs that are being analysed or sliced, are as the stock says. -/
structure Stock.In (K : Stock) (s : Service) : Prop where
  queued : ∀ id j, s.db.job id = some j → j.status = .queued → K.queued j
  held : ∀ id task j, s.slices id = some task → s.db.job id = some j → j.status ∈ [.analysing, .slicing] →
    K.held task j

/-- What is known before the step is known after it, as long as nobody but its worker has touched the job, and
    a worker passes on what it holds. -/
structure Stock.Survives (K K' : Stock) (s s' : Service) : Prop where
  queued : ∀ j j', K.queued j → j'.ticket = j.ticket → K'.queued j'
  held : ∀ task j j', K.held task j → j'.ticket = j.ticket → K'.held task j'
  /-- A worker that has not claimed its job, or is done with it, holds nothing. -/
  idle : ∀ task j, task = .start ∨ task = .finished → K'.held task j
  /-- A fallback takes its job out of the queue. -/
  withdrawn : ∀ p j j', s.phase = .running → j.fitsOn s.settings p = true → K.queued j → j'.ticket = j.ticket →
    K'.held (.recheck p) j'
  /-- A worker queues its job. -/
  queues : ∀ id task j j', SliceTrans s id task s' → s.db.job id = some j → j.status = .slicing → K.held task j →
    s'.db.job id = some j' → j'.status = .queued → K'.queued j'
  /-- A worker goes on. -/
  holds : ∀ id task task' j j', s.phase = .running → SliceTrans s id task s' → s.db.job id = some j →
    (j.status ∈ [.analysing, .slicing] → K.held task j) → s'.slices id = some task' → s'.db.job id = some j' →
    j'.status ∈ [.analysing, .slicing] → K'.held task' j'

namespace Stock

variable {K K' : Stock}

/-- A job that is queued after a step was queued before it, or its worker has queued it. -/
theorem In.step_queued (hK : K.In s) (hS : Survives K K' s s') (hD : Disciplined s) (ht : Trans s e s')
    (hj' : s'.db.job id = some j') (hs' : j'.status = .queued) : K'.queued j' := by
  cases hj : s.db.job id with
  | none => rw [ht.born hj hj'] at hs'; cases hs'
  | some j =>
      -- a job that was sent to a printer does not return to the queue
      have hfree : j.status ∉ owning := by
        refine ht.unsent_before (fun i hi => ?_) j hj
        cases Option.some.inj (hi.symm.trans hj')
        rw [hs']
        decide
      cases ht.unsent hD hj hj' hfree with
      | kept hst htk => exact hS.queued j j' (hK.queued id j hj (hst.symm.trans hs')) htk
      | cancelled hst | retried _ hst | dispatched _ hst | withdrawn _ hst => rw [hs'] at hst; cases hst
      | @sliced task htask hst hm =>
          rw [hs'] at hm
          have hheld : K.held task j := hK.held id task j htask hj (by rw [hm.queued]; decide)
          exact hS.queues id task j j' hst hj hm.queued hheld hj' hs'

/-- A worker that no other thread has moved still holds what it held. -/
theorem In.undisturbed {task : SliceTask} (hK : K.In s) (hS : Survives K K' s s') (hD : Disciplined s)
    (hW : Working s) (ht : Trans s e s') (htask : s.slices id = some task) (htask' : s'.slices id = some task)
    (hj' : s'.db.job id = some j') (hs' : j'.status ∈ [.analysing, .slicing]) : K'.held task j' := by
  have hk := hW id task htask
  rcases SliceTask.knows_cases hk with hidle | hst
  · exact hS.idle task j' hidle
  -- the job is the worker's own, and can only have been cancelled by somebody else
  · cases hj : s.db.job id with
    | none => rw [Db.statusOf, hj] at hst; simp at hst
    | some j =>
        rw [Db.statusOf_eq hj] at hst
        rcases ht.undisturbed hD htask hj (by simpa using hst) with hown | ⟨i, hi, htk, hsame⟩
        · have hrun : s.phase = .running := by
            by_contra hno
            rw [(hD.idle hno).2] at htask
            cases htask
          exact hS.holds id task task j j' hrun hown hj (hK.held id task j htask hj) htask' hj' hs'
        · cases Option.some.inj (hi.symm.trans hj')
          rcases hsame with hsame | hcan
          · rw [hsame] at hs'
            exact hS.held task j j' (hK.held id task j htask hj hs') htk
          · rw [hcan] at hs'
            exact absurd hs' (by decide)

theorem In.step_held {task : SliceTask} (hK : K.In s) (hS : Survives K K' s s') (hD : Disciplined s)
    (hW : Working s) (ht : Trans s e s') (htask' : s'.slices id = some task) (hj' : s'.db.job id = some j')
    (hs' : j'.status ∈ [.analysing, .slicing]) : K'.held task j' := by
  cases ht.task htask' with
  | kept hold => exact hK.undisturbed hS hD hW ht hold htask' hj' hs'
  | submitted htsk => exact hS.idle _ j' (.inl htsk)
  | @withdrawn p _ i _ htsk _ hphase hi hst hfit hi' =>
      subst htsk
      cases Option.some.inj (hi'.symm.trans hj')
      exact hS.withdrawn p i _ hphase hfit (hK.queued id i hi hst) rfl
  | @moved ev old _ hphase htask hst =>
      cases hj : s.db.job id with
      | none => rw [ht.born hj hj'] at hs'; exact absurd hs' (by decide)
      | some j => exact hS.holds id old task j j' hphase hst hj (hK.held id old j htask hj) htask' hj' hs'

/-- **A stock that survives a step is in the state after it.** -/
theorem In.step (hK : K.In s) (hS : Survives K K' s s') (hD : Disciplined s) (hW : Working s)
    (ht : Trans s e s') : K'.In s' where
  queued _ _ hj' hs' := hK.step_queued hS hD ht hj' hs'
  held _ _ _ htask' hj' hs' := hK.step_held hS hD hW ht htask' hj' hs'

end Stock

end BambuBabu
