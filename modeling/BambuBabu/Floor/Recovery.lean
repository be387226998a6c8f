import BambuBabu.Floor.Commits

/-!
# `Floor.Recovery` — restart reconciliation, exactly

`Floor.Commits` says which moves `reconcile_interrupted_jobs` makes. Here its four loops are computed: each
of them is a `Pass`, which rewrites every row of a kind and the printer row of every slot that such a job
owns, and a loop over the listed rows does the whole pass (`Pass.loop_run`). The reconciled floor is the
composition of the four (`reconcileInterruptedJobs_floor`).
-/

namespace BambuBabu

open Storage

/-! ## Passes -/

/-- What a loop of `reconcile_interrupted_jobs` does to the rows it lists: to the job, and to the printer row
    whose slot the job owns. -/
structure Pass where
  picks : Job → Bool
  row : Job → Job
  printer : JobId → PrinterState → PrinterState
  /-- The owner of a slot keeps it. -/
  slot : ∀ id st, st.currentJobId = some id → (printer id st).currentJobId = some id

/-- The job that owns the slot of a printer. -/
def Floor.owner (f : Floor) (p : PrinterID) : Option (JobId × Job) :=
  (f.printers p).currentJobId.bind fun id => (f.job id).map fun j => (id, j)

namespace Pass

/-- The row of job `id`, once the jobs `done` have been passed. -/
def rowUpTo (π : Pass) (done : JobId → Bool) (id : JobId) (j : Job) : Job :=
  if done id && π.picks j then π.row j else j

/-- The row of a printer whose slot is owned by `owner`. -/
def printerUpTo (π : Pass) (done : JobId → Bool) (owner : Option (JobId × Job)) (st : PrinterState) :
    PrinterState :=
  match owner with
  | some (id, j) => if done id && π.picks j then π.printer id st else st
  | none => st

/-- The floor once the jobs `done` have been passed. -/
def upTo (π : Pass) (done : JobId → Bool) (f : Floor) : Floor where
  job id := (f.job id).map (π.rowUpTo done id)
  printers p := π.printerUpTo done (f.owner p) (f.printers p)

/-- The floor after the pass. -/
def apply (π : Pass) (f : Floor) : Floor := π.upTo (fun _ => true) f

variable {π : Pass} {f : Floor} {done done' : JobId → Bool} {id : JobId} {j : Job} {p : PrinterID}

theorem owner_some : f.owner p = some (id, j) ↔ (f.printers p).currentJobId = some id ∧ f.job id = some j := by
  unfold Floor.owner
  constructor
  · intro h
    obtain ⟨k, hk, hrest⟩ := Option.bind_eq_some_iff.mp h
    obtain ⟨i, hi, heq⟩ := Option.map_eq_some_iff.mp hrest
    cases heq
    exact ⟨hk, hi⟩
  · rintro ⟨hk, hj⟩
    rw [hk, Option.bind_some, hj, Option.map_some]

/-- A pass leaves every slot with its owner. -/
theorem upTo_slot (p : PrinterID) :
    ((π.upTo done f).printers p).currentJobId = (f.printers p).currentJobId := by
  show (π.printerUpTo done (f.owner p) (f.printers p)).currentJobId = _
  cases hown : f.owner p with
  | none => rfl
  | some kj =>
      obtain ⟨k, i⟩ := kj
      have hslot := (owner_some.mp hown).1
      unfold printerUpTo
      split
      · next hk => cases hk; split <;> [rw [π.slot _ _ hslot, hslot]; rfl]
      · rfl

theorem upTo_owner (p : PrinterID) :
    (π.upTo done f).owner p = (f.owner p).map fun kj => (kj.1, π.rowUpTo done kj.1 kj.2) := by
  show ((π.upTo done f).printers p).currentJobId.bind _ = _
  rw [upTo_slot]
  unfold Floor.owner
  cases (f.printers p).currentJobId with
  | none => rfl
  | some k =>
      show ((f.job k).map _).map _ = ((f.job k).map _).map _
      rw [Option.map_map, Option.map_map]
      rfl

/-- A pass that has done no job of its kind has done nothing. -/
theorem upTo_none (h : ∀ id j, f.job id = some j → done id = true → π.picks j = false) :
    π.upTo done f = f := by
  have hrow : ∀ id j, f.job id = some j → (done id && π.picks j) = false := by
    intro id j hj
    cases hd : done id with
    | false => rfl
    | true => exact h id j hj hd
  refine Floor.ext (funext fun id => ?_) (funext fun p => ?_)
  · show (f.job id).map _ = _
    cases hj : f.job id with
    | none => rfl
    | some j => rw [Option.map_some, rowUpTo, hrow id j hj]; rfl
  · show π.printerUpTo done (f.owner p) (f.printers p) = _
    cases hown : f.owner p with
    | none => rfl
    | some kj =>
        obtain ⟨k, i⟩ := kj
        unfold printerUpTo
        simp only [hrow k i (owner_some.mp hown).2]
        rfl

/-- **Two disjoint parts of a pass** are one larger part. -/
theorem upTo_upTo (hdisj : ∀ id, done id = true → done' id = false) :
    π.upTo done' (π.upTo done f) = π.upTo (fun id => done id || done' id) f := by
  refine Floor.ext (funext fun id => ?_) (funext fun p => ?_)
  · show ((f.job id).map _).map _ = (f.job id).map _
    rw [Option.map_map]
    congr 1
    funext j
    show π.rowUpTo done' id (π.rowUpTo done id j) = _
    unfold rowUpTo
    by_cases hd : done id = true
    · simp [hd, hdisj id hd]
    · simp [hd]
  · show π.printerUpTo done' ((π.upTo done f).owner p) (π.printerUpTo done (f.owner p) (f.printers p)) = _
    rw [upTo_owner]
    show _ = π.printerUpTo _ (f.owner p) (f.printers p)
    cases f.owner p with
    | none => rfl
    | some kj =>
        obtain ⟨k, i⟩ := kj
        simp only [Option.map_some, printerUpTo, rowUpTo]
        by_cases hd : done k = true
        · simp [hd, hdisj k hd]
        · simp [hd]

/-- Half way through the loop, with `rest` still to come: the others have been passed. -/
structure Halfway (π : Pass) (d : Db) (rest : List (JobId × Job)) (d₁ : Db) : Prop where
  nodup : (rest.map Prod.fst).Nodup
  inv : FloorInv d₁.floor
  floor : d₁.floor = π.upTo (fun k => decide (k ∉ rest.map Prod.fst)) d.floor
  listed : ∀ r ∈ rest, d₁.job r.1 = some r.2 ∧ π.picks r.2 = true

variable {d d₁ d₂ : Db} {rest : List (JobId × Job)} {le : JobId × Job → JobId × Job → Bool}

/-- All listed rows are still to come. -/
theorem Halfway.start (hI : FloorInv d.floor) : π.Halfway d (d.jobsWhere π.picks le) d where
  nodup := Db.jobsWhere_nodup ..
  inv := hI
  floor := by
    refine (upTo_none fun id j hj hd => ?_).symm
    by_contra hpick
    have hmem : (id, j) ∈ d.jobsWhere π.picks le := mem_jobsWhere.mpr ⟨hj, by simpa using hpick⟩
    exact of_decide_eq_true hd (List.mem_map.mpr ⟨_, hmem, rfl⟩)
  listed r hr := mem_jobsWhere.mp hr

/-- The body passes the first of them. -/
theorem Halfway.next (h : π.Halfway d ((id, j) :: rest) d₁) (hI : FloorInv d₂.floor)
    (hf : d₂.floor = π.upTo (fun k => decide (k = id)) d₁.floor) : π.Halfway d rest d₂ := by
  have hnd := h.nodup
  rw [List.map_cons, List.nodup_cons] at hnd
  refine ⟨hnd.2, hI, ?_, fun r hr => ?_⟩
  · rw [hf, h.floor, upTo_upTo fun k hk => by simp at hk ⊢; exact hk.1]
    congr 1
    funext k
    by_cases hk : k = id
    · simp [hk, hnd.1]
    · simp [hk]
  · obtain ⟨hj, hpick⟩ := h.listed r (List.mem_cons_of_mem _ hr)
    have hne : r.1 ≠ id := fun heq => hnd.1 (heq ▸ List.mem_map.mpr ⟨r, hr, rfl⟩)
    refine ⟨?_, hpick⟩
    rw [← Db.floor_job, hf]
    show (d₁.job r.1).map (π.rowUpTo _ r.1) = _
    rw [hj, Option.map_some, rowUpTo]
    simp [hne]

/-- **Loop rule.** If the body passes the row it is given, the loop over all listed rows does the pass. -/
theorem loop_run {body : JobId × Job → Tx PUnit} (le : JobId × Job → JobId × Job → Bool)
    (hbody : ∀ d id j, FloorInv d.floor → d.job id = some j → π.picks j = true →
      ∃ d', (body (id, j)).run d = (.ok ⟨⟩, d') ∧ FloorInv d'.floor ∧
        d'.floor = π.upTo (fun k => decide (k = id)) d.floor)
    (hI : FloorInv d.floor) :
    ∃ d', ((d.jobsWhere π.picks le).forM body).run d = (.ok ⟨⟩, d') ∧ FloorInv d'.floor ∧
      d'.floor = π.apply d.floor := by
  obtain ⟨d', hrun, hdone⟩ := Txn.run_forM_ok (π.Halfway d) (fun row rest d₁ h => by
    obtain ⟨id, j⟩ := row
    obtain ⟨hj, hpick⟩ := h.listed (id, j) List.mem_cons_self
    obtain ⟨d₂, hrun, hI₂, hf⟩ := hbody d₁ id j h.inv hj hpick
    exact ⟨d₂, hrun, h.next hI₂ hf⟩) (d.jobsWhere π.picks le) d (.start hI)
  exact ⟨d', hrun, hdone.inv, by simpa [apply] using hdone.floor⟩

/-- A pass of one job that writes no printer row. -/
theorem upTo_one (hprinter : ∀ id st, π.printer id st = st) (hj : f.job id = some j) (hpick : π.picks j = true) :
    π.upTo (fun k => decide (k = id)) f = f.setJob id (π.row j) := by
  refine Floor.ext (funext fun k => ?_) (funext fun p => ?_)
  · show (f.job k).map (π.rowUpTo _ k) = _
    rw [Floor.job_setJob]
    by_cases hk : k = id
    · subst hk
      simp [hj, rowUpTo, hpick]
    · cases f.job k <;> simp [rowUpTo, hk]
  · show π.printerUpTo _ (f.owner p) (f.printers p) = f.printers p
    unfold printerUpTo
    cases f.owner p with
    | none => rfl
    | some kj => simp only [hprinter, ite_self]

/-- A pass of one job that owns the slot of its printer. -/
theorem upTo_owned (hI : FloorInv f) (hj : f.job id = some j) (hpick : π.picks j = true)
    (hslot : (f.printers p).currentJobId = some id) :
    π.upTo (fun k => decide (k = id)) f
      = (f.setJob id (π.row j)).setPrinter p (π.printer id (f.printers p)) := by
  refine Floor.ext (funext fun k => ?_) (funext fun q => ?_)
  · show (f.job k).map (π.rowUpTo _ k) = _
    rw [Floor.job_setPrinter, Floor.job_setJob]
    by_cases hk : k = id
    · subst hk
      simp [hj, rowUpTo, hpick]
    · cases f.job k <;> simp [rowUpTo, hk]
  · show π.printerUpTo _ (f.owner q) (f.printers q) = _
    rw [Floor.printers_setPrinter, Floor.printers_setJob]
    by_cases hq : q = p
    · subst hq
      rw [owner_some.mpr ⟨hslot, hj⟩, if_pos rfl]
      simp [printerUpTo, hpick]
    · rw [if_neg hq]
      cases hown : f.owner q with
      | none => rfl
      | some ki =>
          -- a job owns one slot only
          obtain ⟨k, i⟩ := ki
          obtain ⟨hslot', hi⟩ := owner_some.mp hown
          have hne : k ≠ id := by
            rintro rfl
            have hp := (hI.owner_row hslot hj).2
            cases Option.some.inj (hp.symm.trans (hI.owner_row hslot' hj).2)
            exact hq rfl
          simp [printerUpTo, hne]

end Pass

/-! ## The four loops -/

section loops

variable (now : Time)

/-- First loop: interrupted analysis and slicing is retried. -/
def retryPass : Pass where
  picks j := j.status ∈ [.analysing, .slicing]
  row j := j.transitioned now .pending none none
  printer _ st := st
  slot _ _ h := h

/-- The error message of an interrupted handoff. -/
def interruptedHandoff : String :=
  "Service restarted during printer handoff. Verify the physical printer " ++
    "before clearing the plate or cancelling this job."

/-- Second loop: an interrupted handoff is quarantined. -/
def quarantinePass : Pass where
  picks j := j.status ∈ [.uploading, .starting]
  row j := j.transitioned now .attention (some interruptedHandoff) none
  printer id st := st.blocked now id .error
  slot _ _ _ := rfl

/-- Third loop: a print that goes on blocks its plate. -/
def restorePass : Pass where
  picks j := j.status = .printing
  row j := j
  printer id st := st.blocked now id .printing
  slot _ _ _ := rfl

/-- Fourth loop: a completed job is at 100 percent. -/
def progressPass : Pass where
  picks j := j.status = .completed
  row j := { j with printProgress := 100 }
  printer _ st := st
  slot _ _ h := h

variable {now} {d : Db} {id : JobId} {j : Job}

theorem recoverRetryable_pass (hI : FloorInv d.floor) (hj : d.job id = some j)
    (hpick : (retryPass now).picks j = true) :
    ∃ d', (recoverRetryable now (id, j)).run d = (.ok ⟨⟩, d') ∧ FloorInv d'.floor ∧
      d'.floor = (retryPass now).upTo (fun k => decide (k = id)) d.floor := by
  have hs : j.status = .analysing ∨ j.status = .slicing := by simpa [retryPass] using hpick
  obtain ⟨d', hrun, hm, -⟩ := recoverRetryable_run now hj hs
  refine ⟨d', hrun, hm.inv hI, ?_⟩
  unfold recoverRetryable at hrun
  obtain ⟨a, d₁, hswap, hrest⟩ := Txn.run_bind_ok hrun
  obtain ⟨-, rfl⟩ := Prod.mk.inj hrest
  obtain ⟨i, hi, -, -, rfl, -, hf⟩ := transition_floor_one hswap
  cases Option.some.inj (hj.symm.trans hi)
  rw [Db.floor_insertLog, hf, Pass.upTo_one (fun _ _ => rfl) hj hpick]
  rfl

theorem quarantineInterrupted_pass (hI : FloorInv d.floor) (hj : d.job id = some j)
    (hpick : (quarantinePass now).picks j = true) :
    ∃ d', (quarantineInterrupted now (id, j)).run d = (.ok ⟨⟩, d') ∧ FloorInv d'.floor ∧
      d'.floor = (quarantinePass now).upTo (fun k => decide (k = id)) d.floor := by
  have hs : j.status = .uploading ∨ j.status = .starting := by simpa [quarantinePass] using hpick
  obtain ⟨d', hrun, hm, -⟩ := quarantineInterrupted_run now hI hj hs
  refine ⟨d', hrun, hm.inv hI, ?_⟩
  obtain ⟨p, hp, hslot⟩ := hI.holds id j hj (by rcases hs with hs | hs <;> rw [hs] <;> decide)
  unfold quarantineInterrupted at hrun
  simp only [hp] at hrun
  obtain ⟨a, d₁, hswap, hrest⟩ := Txn.run_bind_ok hrun
  obtain ⟨i, hi, -, -, rfl, rfl, hf⟩ := transition_floor_one hswap
  cases Option.some.inj (hj.symm.trans hi)
  rw [Txn.run_bind_of_ok loadAndUpdatePrinterState_run] at hrest
  obtain ⟨-, rfl⟩ := Prod.mk.inj hrest
  rw [Db.floor_insertLog, Db.floor_setPrinter, hf, Pass.upTo_owned hI hj hpick hslot]
  rfl

theorem restorePrinting_pass (hI : FloorInv d.floor) (hj : d.job id = some j)
    (hpick : (restorePass now).picks j = true) :
    ∃ d', (restorePrinting now (id, j)).run d = (.ok ⟨⟩, d') ∧ FloorInv d'.floor ∧
      d'.floor = (restorePass now).upTo (fun k => decide (k = id)) d.floor := by
  have hs : j.status = .printing := by simpa [restorePass] using hpick
  obtain ⟨d', hrun, hm, -⟩ := restorePrinting_run now hI hj hs
  refine ⟨d', hrun, hm.inv hI, ?_⟩
  obtain ⟨p, hp, hslot⟩ := hI.holds id j hj (by rw [hs]; decide)
  unfold restorePrinting at hrun
  simp only [hp] at hrun
  rw [Txn.run_bind_of_ok loadAndUpdatePrinterState_run] at hrun
  obtain ⟨-, rfl⟩ := Prod.mk.inj hrun
  rw [Db.floor_setPrinter, Pass.upTo_owned hI hj hpick hslot]
  show d.floor.setPrinter p _ = (d.floor.setJob id j).setPrinter p _
  rw [← Db.floor_setJob hj, Db.setJob_self hj]
  rfl

theorem repairProgress_pass (hI : FloorInv d.floor) (hj : d.job id = some j)
    (hpick : progressPass.picks j = true) :
    ∃ d', (repairProgress (id, j)).run d = (.ok ⟨⟩, d') ∧ FloorInv d'.floor ∧
      d'.floor = progressPass.upTo (fun k => decide (k = id)) d.floor := by
  obtain ⟨d', hrun, hm, -⟩ := repairProgress_run hj
  refine ⟨d', hrun, hm.inv hI, ?_⟩
  rw [Pass.upTo_one (fun _ _ => rfl) hj hpick]
  unfold repairProgress at hrun
  by_cases hp : j.printProgress ≠ 100
  · simp only [if_pos hp] at hrun
    rw [Txn.run_bind_of_ok (updateJobProgress_run hj)] at hrun
    obtain ⟨-, rfl⟩ := Prod.mk.inj hrun
    exact Db.floor_setJob hj _
  · simp only [if_neg hp] at hrun
    obtain ⟨-, rfl⟩ := Prod.mk.inj hrun
    have hsame : progressPass.row j = j := by
      show { j with printProgress := 100 } = j
      rw [← not_not.mp hp]
    rw [hsame, ← Db.floor_setJob hj, Db.setJob_self hj]

end loops

/-! ## The whole transaction -/

/-- The floor after a restart. -/
def Floor.reconciled (f : Floor) (now : Time) : Floor :=
  progressPass.apply ((restorePass now).apply ((quarantinePass now).apply ((retryPass now).apply f)))

/-- **Reconciliation is the composition of the four passes.** -/
theorem reconcileInterruptedJobs_floor (now : Time) {d : Db} (hI : FloorInv d.floor) :
    ∃ d', (reconcileInterruptedJobs now).commit d = (.ok ⟨⟩, d') ∧ FloorInv d'.floor ∧
      d'.floor = d.floor.reconciled now := by
  obtain ⟨d₁, h₁, hI₁, hf₁⟩ := Pass.loop_run (π := retryPass now) bySubmission
    (fun _ _ _ => recoverRetryable_pass) hI
  obtain ⟨d₂, h₂, hI₂, hf₂⟩ := Pass.loop_run (π := quarantinePass now) bySubmission
    (fun _ _ _ => quarantineInterrupted_pass) hI₁
  obtain ⟨d₃, h₃, hI₃, hf₃⟩ := Pass.loop_run (π := restorePass now) bySubmission
    (fun _ _ _ => restorePrinting_pass) hI₂
  obtain ⟨d₄, h₄, hI₄, hf₄⟩ := Pass.loop_run (π := progressPass) bySubmission
    (fun _ _ _ => repairProgress_pass) hI₃
  have hrun : (reconcileInterruptedJobs now).run d = (.ok ⟨⟩, d₄) := by
    refine (Txn.run_bind_of_ok (getJobsInStatuses_run d _)).trans ?_
    refine (Txn.run_bind_of_ok h₁).trans ?_
    refine (Txn.run_bind_of_ok (getJobsInStatuses_run d₁ _)).trans ?_
    refine (Txn.run_bind_of_ok h₂).trans ?_
    refine (Txn.run_bind_of_ok (getJobsByStatus_run d₂ _)).trans ?_
    refine (Txn.run_bind_of_ok h₃).trans ?_
    exact (Txn.run_bind_of_ok (getJobsByStatus_run d₃ _)).trans h₄
  refine ⟨d₄, Txn.commit_of_ok hrun, hI₄, ?_⟩
  rw [hf₄, hf₃, hf₂, hf₁]
  rfl

/-! ## Row by row -/

/-- The row of a job after a restart. -/
def Job.reconciled (j : Job) (now : Time) : Job :=
  match j.status with
  | .analysing | .slicing => j.transitioned now .pending none none
  | .uploading | .starting => j.transitioned now .attention (some interruptedHandoff) none
  | .completed => { j with printProgress := 100 }
  | _ => j

/-- The row of a printer after a restart, when a job of this status owns its slot. -/
def PrinterState.reconciled (st : PrinterState) (now : Time) (id : JobId) (owner : JobStatus) : PrinterState :=
  match owner with
  | .uploading | .starting => st.blocked now id .error
  | .printing => st.blocked now id .printing
  | _ => st

section rows

variable {f : Floor} {now : Time} {id : JobId} {j : Job} {p : PrinterID}

theorem Floor.reconciled_job : (f.reconciled now).job id = (f.job id).map fun j => j.reconciled now := by
  show Option.map _ (Option.map _ (Option.map _ (Option.map _ (f.job id)))) = _
  cases f.job id with
  | none => rfl
  | some j =>
      simp only [Option.map_some, Pass.rowUpTo, Bool.true_and, Job.reconciled]
      cases hs : j.status <;>
        simp [hs, retryPass, quarantinePass, restorePass, progressPass]

end rows

end BambuBabu
