import BambuBabu.Floor.Commits

/-!
# `Floor.Plans` — the print plan of a job

Where a job is to be printed, from which file, for how long, and how large it is. The plan is made when the job is
analysed and when a slice is stored for it, and nothing else changes it.

* `Move.columns` — what a move does to the plan and to the error text of a row.
* `Moves.plan_kept`, `Moves.waiting`, `Moves.over` — the same for the moves of a transaction.
-/

namespace BambuBabu

/-- The columns that say where and how a job is to be printed. -/
structure Plan where
  assignedPrinter : Option PrinterID
  slicedPath : Option String
  estimatedMinutes : Option Nat
  bboxX : Option ℚ
  bboxY : Option ℚ
  bboxZ : Option ℚ
  deriving DecidableEq

def Job.plan (j : Job) : Plan :=
  ⟨j.assignedPrinter, j.slicedPath, j.estimatedMinutes, j.bboxX, j.bboxY, j.bboxZ⟩

/-- The plan of the job under an id. -/
def Db.planOf (d : Db) (id : JobId) : Option Plan := (d.job id).map Job.plan

theorem Db.planOf_eq {d : Db} {id : JobId} {j : Job} (hj : d.job id = some j) : d.planOf id = some j.plan := by
  rw [planOf, hj, Option.map_some]

@[simp] theorem Job.transitioned_plan (j : Job) (now : Time) (new : JobStatus) (err rej : Option String) :
    (j.transitioned now new err rej).plan = j.plan := rfl

@[simp] theorem Job.inspected_plan (j : Job) (now : Time) (msg : Option String) :
    (j.inspected now msg).plan = j.plan := by
  unfold Job.inspected
  split <;> rfl

/-- No status leads to itself. -/
theorem allowed_irrefl (st : JobStatus) : st ∉ allowedJobTransitions st := by
  cases st <;> decide

/-! ## One move -/

variable {a : Act} {ok : Act → Prop} {f f' : Floor} {id : JobId} {j : Job}

/-- **What a move does to the plan**: only an analysis and a stored slice change it. The error text is written
    only together with a new status. -/
theorem Move.columns (h : Move a f f') (hj : f.job id = some j) :
    ∃ j', f'.job id = some j' ∧ (a = .plan id ∨ a = .queue id ∨ j'.plan = j.plan) ∧
      (j'.status = j.status → j'.errorMessage = j.errorMessage) := by
  by_cases hid : a.target = some id
  · cases h with
    | submit hnew =>
        cases Option.some.inj hid
        rw [hnew] at hj
        cases hj
    | block | restore | release | telemetry | clearEmpty => cases hid
    | swap hj' hedge =>
        cases Option.some.inj hid
        cases Option.some.inj (hj.symm.trans hj')
        refine ⟨_, Floor.job_setJob_self .., .inr (.inr rfl), ?_⟩
        -- no edge leads from a status to itself
        intro hsame
        rw [Job.transitioned_status] at hsame
        exact absurd hedge (hsame ▸ allowed_irrefl _)
    | settle _ hj' hs hedge =>
        cases Option.some.inj hid
        cases Option.some.inj (hj.symm.trans hj')
        refine ⟨_, Floor.job_setJob_self .., .inr (.inr rfl), ?_⟩
        intro hsame
        have hnew : _ = j.status := hsame
        rw [Job.transitioned_status] at hnew
        exact absurd hedge (hnew ▸ allowed_irrefl _)
    | plan hj' =>
        cases Option.some.inj hid
        cases Option.some.inj (hj.symm.trans hj')
        exact ⟨_, Floor.job_setJob_self .., .inl rfl, fun _ => rfl⟩
    | queue hj' =>
        cases Option.some.inj hid
        cases Option.some.inj (hj.symm.trans hj')
        exact ⟨_, Floor.job_setJob_self .., .inr (.inl rfl), fun _ => rfl⟩
    | dispatch hj' | confirm hj' | progress hj' =>
        cases Option.some.inj hid
        cases Option.some.inj (hj.symm.trans hj')
        exact ⟨_, Floor.job_setJob_self .., .inr (.inr rfl), fun _ => rfl⟩
    | @clearOwned id _ j' now _ msg _ _ hj' =>
        cases Option.some.inj hid
        cases Option.some.inj (hj.symm.trans hj')
        refine ⟨_, Floor.job_setJob_self .., .inr (.inr (Job.inspected_plan ..)), ?_⟩
        intro hsame
        rw [Job.inspected_status] at hsame
        unfold Job.inspected
        split
        · next hs =>
            rw [if_pos hs, hs] at hsame
            cases hsame
        · rfl
  · exact ⟨j, (h.job_frame hid).trans hj, .inr (.inr rfl), fun _ => rfl⟩

/-! ## The moves of one transaction -/

/-- An act that the recovery or a report may consist of: it neither plans nor queues a job, and takes none out of
    the queue. -/
structure Act.Shared (a : Act) : Prop where
  plan : ∀ id, a ≠ .plan id
  queue : ∀ id, a ≠ .queue id
  waits : a.takes .queued → a.leads .queued = .queued

theorem Act.Shared.of_recovers (h : a.recovers) : a.Shared := by
  cases a with
  | swap k old new =>
      refine ⟨nofun, nofun, ?_⟩
      intro (htk : JobStatus.queued = old)
      rcases h.1 with hold | hold <;> rw [hold] at htk <;> cases htk
  | settle k p new st =>
      refine ⟨nofun, nofun, ?_⟩
      intro (htk : JobStatus.queued ∈ atPrinter)
      exact absurd htk (by decide)
  | restore | progress => exact ⟨nofun, nofun, fun _ => rfl⟩
  | submit | plan | queue | dispatch | confirm | block | release | telemetry | clear => exact h.elim

theorem Act.Shared.of_reports {p : PrinterID} (h : a.reports p) : a.Shared := by
  cases a with
  | swap k old new =>
      refine ⟨nofun, nofun, ?_⟩
      intro (htk : JobStatus.queued = old)
      rcases h.1 with hold | hold <;> rw [hold] at htk <;> cases htk
  | settle k q new st =>
      refine ⟨nofun, nofun, ?_⟩
      intro (htk : JobStatus.queued ∈ atPrinter)
      exact absurd htk (by decide)
  | telemetry | progress => exact ⟨nofun, nofun, fun _ => rfl⟩
  | submit | plan | queue | dispatch | confirm | block | release | restore | clear => exact h.elim

/-- Moves that neither plan nor queue a job keep its plan. -/
theorem Moves.plan_kept (h : Moves Act.Shared f f') (hj : f.job id = some j) :
    ∃ j', f'.job id = some j' ∧ j'.plan = j.plan := by
  refine h.keeps (P := fun g => ∃ j', g.job id = some j' ∧ j'.plan = j.plan) ?_ ⟨j, hj, rfl⟩
  rintro a g g' hok hm ⟨i, hi, hplan⟩
  obtain ⟨i', hi', hkept, -⟩ := hm.columns hi
  have hsame : i'.plan = i.plan := (hkept.resolve_left (hok.plan id)).resolve_left (hok.queue id)
  exact ⟨i', hi', hsame.trans hplan⟩

/-- A job that waits in the queue goes on waiting, with its plan and its error text. -/
theorem Moves.waiting (h : Moves Act.Shared f f') (hj : f.job id = some j) (hs : j.status = .queued) :
    ∃ j', f'.job id = some j' ∧ j'.status = .queued ∧ j'.plan = j.plan ∧ j'.errorMessage = j.errorMessage := by
  refine h.keeps (P := fun g => ∃ j', g.job id = some j' ∧ j'.status = .queued ∧ j'.plan = j.plan ∧
    j'.errorMessage = j.errorMessage) ?_ ⟨j, hj, hs, rfl, rfl⟩
  rintro a g g' hok hm ⟨i, hi, hst, hplan, herr⟩
  obtain ⟨i', hi', hkept, herr'⟩ := hm.columns hi
  have hsame : i'.plan = i.plan := (hkept.resolve_left (hok.plan id)).resolve_left (hok.queue id)
  have hst' : i'.status = .queued := by
    rcases hm.job_cases hi with ⟨-, hrow⟩ | ⟨i₁, -, hrow, htk, hl, -⟩
    · cases Option.some.inj (hi'.symm.trans hrow)
      exact hst
    · cases Option.some.inj (hi'.symm.trans hrow)
      rw [hst] at htk hl
      exact hl.trans (hok.waits htk)
  exact ⟨i', hi', hst', hsame.trans hplan, (herr' (hst'.trans hst.symm)).trans herr⟩

/-- Sent to a printer, or cancelled. -/
def sentOrOver : List JobStatus := owning ++ [.cancelled]

theorem sentOrOver_closed : ∀ st ∈ sentOrOver, ∀ st' ∈ allowedJobTransitions st, st' ∈ sentOrOver := by
  intro st
  cases st <;> decide

/-- **A job that was sent or cancelled keeps its plan.** -/
theorem Moves.over (h : Moves ok f f') (hj : f.job id = some j) (hs : j.status ∈ sentOrOver) :
    ∃ j', f'.job id = some j' ∧ j'.status ∈ sentOrOver ∧ j'.plan = j.plan := by
  refine h.keeps (P := fun g => ∃ j', g.job id = some j' ∧ j'.status ∈ sentOrOver ∧ j'.plan = j.plan) ?_
    ⟨j, hj, hs, rfl⟩
  rintro a g g' - hm ⟨i, hi, hst, hplan⟩
  obtain ⟨i', hi', -, hst', -⟩ := hm.row hi
  obtain ⟨i₁, hi₁, hkept, -⟩ := hm.columns hi
  cases Option.some.inj (hi'.symm.trans hi₁)
  refine ⟨i', hi', ?_, ?_⟩
  · rcases hst' with hsame | hedge
    · rw [hsame]
      exact hst
    · exact sentOrOver_closed _ hst _ hedge
  · -- an analysis or a stored slice meets a job that is analysed or sliced
    rcases hm.job_cases hi with ⟨hne, -⟩ | ⟨-, -, -, htk, -⟩
    · rcases hkept with rfl | rfl | hsame
      · exact absurd rfl hne
      · exact absurd rfl hne
      · exact hsame.trans hplan
    · rcases hkept with rfl | rfl | hsame
      · have hold : i.status = .analysing := htk
        rw [hold] at hst
        exact absurd hst (by decide)
      · have hold : i.status = .slicing := htk
        rw [hold] at hst
        exact absurd hst (by decide)
      · exact hsame.trans hplan

end BambuBabu
