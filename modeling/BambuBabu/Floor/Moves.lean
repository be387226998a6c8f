import Mathlib.Logic.Relation
import BambuBabu.Db.Crud

/-!
# `Floor.Moves` — the abstract machine of jobs and printer slots

The floor forgets the logs and the order of the rows: it is the function from ids to jobs together with the
two printer rows. A `Move` is one thing that may happen on it, with the guard that makes it sound — in
particular, whoever writes a printer row on behalf of a job names the job that *owns* that printer's slot.
The program does not check all of these guards; `Floor.Commits` shows that its transactions only make moves
whose guards hold, as long as `FloorInv` does.

* `FloorInv` — the slot discipline: a job at a printer owns the slot of its printer, a slot is owned by a
  job that was sent to that printer, and the plate is clear while a file is uploaded.
* `Move.inv` — every move keeps it.
* `Move.status`, `Move.job_frame`, `Move.sent` — what no move can do to a job.
-/

namespace BambuBabu

/-- The jobs and the printer rows. -/
@[ext] structure Floor where
  job : JobId → Option Job
  printers : PrinterID → PrinterState

namespace Floor

/-- Put a job row. -/
def setJob (f : Floor) (id : JobId) (j : Job) : Floor := { f with job := Function.update f.job id (some j) }

/-- Put a printer row. -/
def setPrinter (f : Floor) (p : PrinterID) (st : PrinterState) : Floor :=
  { f with printers := Function.update f.printers p st }

variable (f : Floor) (id k : JobId) (j : Job) (p q : PrinterID) (st : PrinterState)

@[simp] theorem job_setJob : (f.setJob id j).job k = if k = id then some j else f.job k :=
  Function.update_apply ..

theorem job_setJob_self : (f.setJob id j).job id = some j := Function.update_self ..

@[simp] theorem job_setPrinter : (f.setPrinter p st).job = f.job := rfl

@[simp] theorem printers_setJob : (f.setJob id j).printers = f.printers := rfl

theorem setJob_setJob (i : Job) : (f.setJob id i).setJob id j = f.setJob id j := by
  simp only [setJob, Function.update_idem]

theorem setPrinter_setJob : (f.setPrinter p st).setJob id j = (f.setJob id j).setPrinter p st := rfl

theorem setPrinter_setPrinter (st' : PrinterState) :
    (f.setPrinter p st').setPrinter p st = f.setPrinter p st := by
  simp only [setPrinter, Function.update_idem]

@[simp] theorem printers_setPrinter :
    (f.setPrinter p st).printers q = if q = p then st else f.printers q := Function.update_apply ..

end Floor

/-- The floor of a database. -/
def Db.floor (d : Db) : Floor := ⟨d.job, d.printers⟩

namespace Db

variable {d : Db} {id : JobId} {j : Job}

@[simp] theorem floor_job (d : Db) : d.floor.job = d.job := rfl

@[simp] theorem floor_printers (d : Db) : d.floor.printers = d.printers := rfl

theorem floor_setJob {j₀ : Job} (h : d.job id = some j₀) (j : Job) :
    (d.setJob id j).floor = d.floor.setJob id j := by
  refine Floor.ext (funext fun k => ?_) rfl
  simp only [floor_job, Db.job_setJob, Floor.job_setJob]
  split
  · next hk => rw [hk, h]; rfl
  · rfl

/-- The row that a write of the floor leaves. -/
theorem job_of_floor {f : Floor} (h : d.floor = f.setJob id j) : d.job id = some j := by
  rw [← floor_job, h]
  exact Floor.job_setJob_self ..

theorem floor_insertJob (h : d.job id = none) (j : Job) :
    (d.insertJob id j).floor = d.floor.setJob id j := by
  refine Floor.ext (funext fun k => ?_) rfl
  simp only [floor_job, Db.job_insertJob h, Floor.job_setJob]

@[simp] theorem floor_setPrinter (d : Db) (p : PrinterID) (st : PrinterState) :
    (d.setPrinter p st).floor = d.floor.setPrinter p st := rfl

@[simp] theorem floor_insertLog (d : Db) (e : LogEntry) : (d.insertLog e).floor = d.floor := rfl

end Db

/-! ## Where a job is -/

/-- The job is at its printer: it holds the slot. -/
def atPrinter : List JobStatus := [.uploading, .starting, .printing, .attention]

/-- The job may own a slot. Once sent to a printer a job stays in these statuses. -/
def owning : List JobStatus := atPrinter ++ [.completed, .failed]

theorem owning_of_atPrinter {s : JobStatus} (h : s ∈ atPrinter) : s ∈ owning :=
  List.mem_append_left _ h

/-- No edge of the graph leads from a printer back to the queue. -/
theorem owning_closed {s t : JobStatus} (hs : s ∈ owning) (ht : t ∈ allowedJobTransitions s) :
    t ∈ owning := by
  cases s <;> cases t <;> revert hs ht <;> decide

/-- The only way to a printer is the edge from the queue. -/
theorem atPrinter_source {s t : JobStatus} (ht : t ∈ allowedJobTransitions s) (h : t ∈ atPrinter)
    (hne : t ≠ .uploading) : s ∈ atPrinter := by
  cases s <;> cases t <;> revert ht h hne <;> decide

/-! ## Moves -/

/-- What happened, and to whom. -/
inductive Act where
  | submit (id : JobId)
  | swap (id : JobId) (old new : JobStatus)
  | plan (id : JobId)
  | queue (id : JobId)
  | dispatch (id : JobId) (p : PrinterID)
  | confirm (id : JobId) (p : PrinterID)
  | block (id : JobId) (p : PrinterID)
  | settle (id : JobId) (p : PrinterID) (new : JobStatus) (status : PrinterStatus)
  | restore (id : JobId) (p : PrinterID)
  | release (id : JobId) (p : PrinterID)
  | telemetry (p : PrinterID) (status : PrinterStatus)
  | progress (id : JobId)
  | clear (p : PrinterID) (owner : Option JobId)
  deriving DecidableEq

/-- The job whose row the act writes. -/
def Act.target : Act → Option JobId
  | submit id | swap id _ _ | plan id | queue id | progress id => some id
  | dispatch id _ | confirm id _ | settle id _ _ _ => some id
  | block _ _ | restore _ _ | release _ _ | telemetry _ _ => none
  | clear _ owner => owner

/-- The printer whose row the act writes. -/
def Act.printer : Act → Option PrinterID
  | submit _ | swap _ _ _ | plan _ | queue _ | progress _ => none
  | dispatch _ p | confirm _ p | block _ p | settle _ p _ _ | restore _ p | release _ p => some p
  | telemetry p _ | clear p _ => some p

/-- The status the target had. -/
def Act.takes : Act → JobStatus → Prop
  | swap _ old _, s => s = old
  | plan _, s => s = .analysing
  | queue _, s => s = .slicing
  | dispatch _ _, s => s = .queued
  | confirm _ _, s => s = .starting
  | settle _ _ _ _, s => s ∈ atPrinter
  | submit _, _ | progress _, _ | clear _ _, _ | block _ _, _ | restore _ _, _ | release _ _, _
  | telemetry _ _, _ => True

/-- The status the target gets. -/
def Act.leads : Act → JobStatus → JobStatus
  | submit _, _ => .pending
  | swap _ _ new, _ => new
  | plan _, _ => .slicing
  | queue _, _ => .queued
  | dispatch _ _, _ => .uploading
  | confirm _ _, _ => .printing
  | settle _ _ new _, _ => new
  | clear _ _, s => if s = .attention then .failed else s
  | progress _, s | block _ _, s | restore _ _, s | release _ _, s | telemetry _ _, s => s

/-- The slot of the printer afterwards. -/
def Act.slot : Act → Option JobId → Option JobId
  | dispatch id _, _ => some id
  | release _ _, _ | clear _ _, _ => none
  | submit _, o | swap _ _ _, o | plan _, o | queue _, o | progress _, o | confirm _ _, o | block _ _, o
  | settle _ _ _ _, o | restore _ _, o | telemetry _ _, o => o

/-- Its plate flag. -/
def Act.plate : Act → Bool → Bool
  | confirm _ _, _ | block _ _, _ | settle _ _ _ _, _ | restore _ _, _ => false
  | release _ _, _ | clear _ _, _ => true
  | submit _, b | swap _ _ _, b | plan _, b | queue _, b | progress _, b | dispatch _ _, b
  | telemetry _ _, b => b

/-- Its durable status. -/
def Act.shows : Act → PrinterStatus → PrinterStatus
  | settle _ _ _ st, _ | telemetry _ st, _ => st
  | restore _ _, _ => .printing
  | release _ _, _ => .idle
  | submit _, st | swap _ _ _, st | plan _, st | queue _, st | progress _, st | dispatch _ _, st
  | confirm _ _, st | block _ _, st | clear _ _, st => st

/-- A printer row that is free for the next job. -/
def PrinterState.free (st : PrinterState) : Prop :=
  st.status = .idle ∧ st.plateCleared = true ∧ st.currentJobId = none

/-- The row of a printer whose plate must be inspected while `id` keeps its slot. -/
def PrinterState.blocked (st : PrinterState) (now : Time) (id : JobId) (status : PrinterStatus) :
    PrinterState :=
  { st with status := status, plateCleared := false, currentJobId := some id, lastSeen := some now }

/-- What an inspected job becomes when its plate is cleared. -/
def Job.inspected (j : Job) (now : Time) (resolution : Option String) : Job :=
  { (if j.status = .attention then j.transitioned now .failed resolution none else j) with
    plateClearedAt := some now }

/-- One move on the floor. -/
inductive Move : Act → Floor → Floor → Prop
  | submit {f : Floor} {id : JobId} {j : Job} (hnew : f.job id = none) (hs : j.status = .pending) :
      Move (.submit id) f (f.setJob id j)
  | swap {f : Floor} {id : JobId} {j : Job} {now : Time} {new : JobStatus} {err rej : Option String}
      (hj : f.job id = some j) (hedge : new ∈ allowedJobTransitions j.status)
      (hnew : new ∉ [.uploading, .attention, .completed]) :
      Move (.swap id j.status new) f (f.setJob id (j.transitioned now new err rej))
  | plan {f : Floor} {id : JobId} {j : Job} {now : Time} {a : Analysis} {p : PrinterID}
      (hj : f.job id = some j) (hs : j.status = .analysing) :
      Move (.plan id) f (f.setJob id ((j.analysed a p).transitioned now .slicing none none))
  | queue {f : Floor} {id : JobId} {j : Job} {now : Time} {p : Option PrinterID} {path : String}
      {est : Option Nat} (hj : f.job id = some j) (hs : j.status = .slicing) :
      Move (.queue id) f (f.setJob id
        ({ j with assignedPrinter := p, slicedPath := some path, estimatedMinutes := est }.transitioned
          now .queued none none))
  | dispatch {f : Floor} {id : JobId} {j : Job} {now : Time} {p : PrinterID}
      (hj : f.job id = some j) (hs : j.status = .queued) (ha : j.assignedPrinter = some p)
      (hfree : (f.printers p).free) :
      Move (.dispatch id p) f ((f.setJob id (j.transitioned now .uploading none none)).setPrinter p
        { f.printers p with currentJobId := some id, lastSeen := some now })
  | confirm {f : Floor} {id : JobId} {j : Job} {now : Time} {p : PrinterID}
      (hj : f.job id = some j) (hs : j.status = .starting)
      (hslot : (f.printers p).currentJobId = some id) :
      Move (.confirm id p) f ((f.setJob id (j.transitioned now .printing none none)).setPrinter p
        { f.printers p with plateCleared := false, lastSeen := some now })
  | block {f : Floor} {id : JobId} {j : Job} {now : Time} {p : PrinterID}
      (hj : f.job id = some j) (hs : j.status = .printing)
      (hslot : (f.printers p).currentJobId = some id) :
      Move (.block id p) f (f.setPrinter p { f.printers p with plateCleared := false, lastSeen := some now })
  | settle {f : Floor} {id : JobId} {j : Job} {now : Time} {p : PrinterID} {new : JobStatus}
      {err : Option String} {status : PrinterStatus} (progress : Int)
      (hj : f.job id = some j) (hs : j.status ∈ atPrinter) (hedge : new ∈ allowedJobTransitions j.status)
      (hnew : new ∈ [.attention, .completed, .failed])
      (hslot : (f.printers p).currentJobId = some id) :
      Move (.settle id p new status) f
        ((f.setJob id { j.transitioned now new err none with printProgress := progress }).setPrinter p
          ((f.printers p).blocked now id status))
  | restore {f : Floor} {id : JobId} {j : Job} {now : Time} {p : PrinterID}
      (hj : f.job id = some j) (hs : j.status = .printing)
      (hslot : (f.printers p).currentJobId = some id) :
      Move (.restore id p) f (f.setPrinter p ((f.printers p).blocked now id .printing))
  | release {f : Floor} {id : JobId} {j : Job} {now : Time} {p : PrinterID}
      (hj : f.job id = some j) (hs : j.status = .failed)
      (hslot : (f.printers p).currentJobId = some id) :
      Move (.release id p) f (f.setPrinter p
        { f.printers p with currentJobId := none, plateCleared := true, status := .idle,
                            lastSeen := some now })
  | telemetry {f : Floor} {p : PrinterID} {now : Time} {status : PrinterStatus} {progress : Int}
      {nozzle bed : Option ℚ} :
      Move (.telemetry p status) f (f.setPrinter p
        { f.printers p with status := status, printProgress := progress, nozzleTemp := nozzle,
                            bedTemp := bed, lastSeen := some now })
  | progress {f : Floor} {id : JobId} {j : Job} {v : Int} (hj : f.job id = some j) :
      Move (.progress id) f (f.setJob id { j with printProgress := v })
  | clearOwned {f : Floor} {id : JobId} {j : Job} {now : Time} {p : PrinterID} {msg : Option String}
      (hplate : (f.printers p).plateCleared = false)
      (hslot : (f.printers p).currentJobId = some id) (hj : f.job id = some j)
      (hs : j.status ∉ [.printing, .starting]) :
      Move (.clear p (some id)) f ((f.setJob id (j.inspected now msg)).setPrinter p
        { f.printers p with plateCleared := true, currentJobId := none, lastSeen := some now })
  | clearEmpty {f : Floor} {now : Time} {p : PrinterID} (hplate : (f.printers p).plateCleared = false)
      (hslot : (f.printers p).currentJobId = none) :
      Move (.clear p none) f (f.setPrinter p
        { f.printers p with plateCleared := true, currentJobId := none, lastSeen := some now })

/-! ## Columns that a transition keeps -/

section columns

variable (j : Job) (now : Time) (new : JobStatus) (err rej : Option String)

@[simp] theorem Job.transitioned_status : (j.transitioned now new err rej).status = new := rfl

@[simp] theorem Job.transitioned_assignedPrinter :
    (j.transitioned now new err rej).assignedPrinter = j.assignedPrinter := rfl

@[simp] theorem Job.transitioned_slicedPath :
    (j.transitioned now new err rej).slicedPath = j.slicedPath := rfl

@[simp] theorem Job.transitioned_stlPath : (j.transitioned now new err rej).stlPath = j.stlPath := rfl

@[simp] theorem Job.transitioned_bboxX : (j.transitioned now new err rej).bboxX = j.bboxX := rfl

@[simp] theorem Job.transitioned_bboxY : (j.transitioned now new err rej).bboxY = j.bboxY := rfl

@[simp] theorem Job.transitioned_bboxZ : (j.transitioned now new err rej).bboxZ = j.bboxZ := rfl

@[simp] theorem Job.analysed_status (a : Analysis) (p : PrinterID) :
    (j.analysed a p).status = j.status := rfl

@[simp] theorem Job.analysed_assignedPrinter (a : Analysis) (p : PrinterID) :
    (j.analysed a p).assignedPrinter = some p := rfl

@[simp] theorem Job.analysed_stlPath (a : Analysis) (p : PrinterID) :
    (j.analysed a p).stlPath = j.stlPath := rfl

@[simp] theorem Job.inspected_status :
    (j.inspected now err).status = if j.status = .attention then .failed else j.status := by
  unfold Job.inspected; split <;> rfl

@[simp] theorem Job.inspected_assignedPrinter :
    (j.inspected now err).assignedPrinter = j.assignedPrinter := by
  unfold Job.inspected; split <;> rfl

@[simp] theorem Job.inspected_slicedPath : (j.inspected now err).slicedPath = j.slicedPath := by
  unfold Job.inspected; split <;> rfl

@[simp] theorem Job.inspected_stlPath : (j.inspected now err).stlPath = j.stlPath := by
  unfold Job.inspected; split <;> rfl

end columns

/-- The columns a slice is made from and for. They are frozen once the job has been sent to a printer. -/
structure Ticket where
  stlPath : String
  slicedPath : Option String
  assignedPrinter : Option PrinterID
  bboxX : Option ℚ
  bboxY : Option ℚ
  bboxZ : Option ℚ
  deriving DecidableEq

def Job.ticket (j : Job) : Ticket :=
  ⟨j.stlPath, j.slicedPath, j.assignedPrinter, j.bboxX, j.bboxY, j.bboxZ⟩

@[simp] theorem Job.transitioned_ticket (j : Job) (now : Time) (new : JobStatus) (err rej : Option String) :
    (j.transitioned now new err rej).ticket = j.ticket := rfl

@[simp] theorem Job.inspected_ticket (j : Job) (now : Time) (msg : Option String) :
    (j.inspected now msg).ticket = j.ticket := by
  unfold Job.inspected; split <;> rfl

theorem Job.ticket_assignedPrinter {j j' : Job} (h : j'.ticket = j.ticket) :
    j'.assignedPrinter = j.assignedPrinter := congrArg Ticket.assignedPrinter h

/-! ## What a move does to one job -/

section job

variable {a : Act} {f f' : Floor} {id k : JobId} {j j' : Job}

/-- A move writes the row of its target only. -/
theorem Move.job_frame (h : Move a f f') (hk : a.target ≠ some k) : f'.job k = f.job k := by
  cases h <;> first
    | rfl
    | exact Function.update_of_ne (fun hc => hk (congrArg some hc.symm)) _ _

/-- **A row never disappears**, keeps its model file, changes status along the graph only, and changes its
    ticket only while it is analysed or sliced. -/
theorem Move.row (h : Move a f f') (hj : f.job k = some j) :
    ∃ j', f'.job k = some j' ∧ j'.stlPath = j.stlPath ∧
      (j'.status = j.status ∨ j'.status ∈ allowedJobTransitions j.status) ∧
      (j.status ∈ [.analysing, .slicing] ∨ j'.ticket = j.ticket) := by
  by_cases hk : a.target = some k
  · cases h with
    | submit hnew =>
        cases Option.some.inj hk
        rw [hnew] at hj; cases hj
    | swap hj' hedge =>
        cases Option.some.inj hk
        cases Option.some.inj (hj.symm.trans hj')
        exact ⟨_, Floor.job_setJob_self .., rfl, .inr hedge, .inr rfl⟩
    | plan hj' hs =>
        cases Option.some.inj hk
        cases Option.some.inj (hj.symm.trans hj')
        exact ⟨_, Floor.job_setJob_self .., rfl, .inr (by simp [hs, allowedJobTransitions]), .inl (by simp [hs])⟩
    | queue hj' hs =>
        cases Option.some.inj hk
        cases Option.some.inj (hj.symm.trans hj')
        exact ⟨_, Floor.job_setJob_self .., rfl, .inr (by simp [hs, allowedJobTransitions]), .inl (by simp [hs])⟩
    | dispatch hj' hs =>
        cases Option.some.inj hk
        cases Option.some.inj (hj.symm.trans hj')
        exact ⟨_, Floor.job_setJob_self .., rfl, .inr (by simp [hs, allowedJobTransitions]), .inr rfl⟩
    | confirm hj' hs =>
        cases Option.some.inj hk
        cases Option.some.inj (hj.symm.trans hj')
        exact ⟨_, Floor.job_setJob_self .., rfl, .inr (by simp [hs, allowedJobTransitions]), .inr rfl⟩
    | settle _ hj' hs hedge =>
        cases Option.some.inj hk
        cases Option.some.inj (hj.symm.trans hj')
        exact ⟨_, Floor.job_setJob_self .., rfl, .inr hedge, .inr rfl⟩
    | progress hj' =>
        cases Option.some.inj hk
        cases Option.some.inj (hj.symm.trans hj')
        exact ⟨_, Floor.job_setJob_self .., rfl, .inl rfl, .inr rfl⟩
    | clearOwned _ _ hj' =>
        cases Option.some.inj hk
        cases Option.some.inj (hj.symm.trans hj')
        refine ⟨_, Floor.job_setJob_self .., by simp, ?_, .inr (by simp)⟩
        by_cases hs : j.status = .attention
        · exact .inr (by simp [hs, allowedJobTransitions])
        · exact .inl (by simp [hs])
    | block => cases hk
    | restore => cases hk
    | release => cases hk
    | telemetry => cases hk
    | clearEmpty => cases hk
  · exact ⟨j, (h.job_frame hk).trans hj, rfl, .inl rfl, .inr rfl⟩

/-- **A job sent to a printer stays sent**, with the ticket it was sent with. -/
theorem Move.sent (h : Move a f f') (hj : f.job k = some j) (hs : j.status ∈ owning) :
    ∃ j', f'.job k = some j' ∧ j'.status ∈ owning ∧ j'.ticket = j.ticket := by
  obtain ⟨j', hj', -, hst, ht⟩ := h.row hj
  refine ⟨j', hj', ?_, ht.resolve_left ?_⟩
  · rcases hst with heq | hedge
    · rw [heq]; exact hs
    · exact owning_closed hs hedge
  · intro hmem
    revert hs hmem
    cases j.status <;> decide

/-- **What a move does to a row**: nothing, or what its act says. -/
theorem Move.job_cases (h : Move a f f') (hj : f.job k = some j) :
    (a.target ≠ some k ∧ f'.job k = some j) ∨
    ∃ j', a.target = some k ∧ f'.job k = some j' ∧ a.takes j.status ∧ j'.status = a.leads j.status ∧
      (a = .plan k ∨ a = .queue k ∨ j'.ticket = j.ticket) := by
  by_cases hk : a.target = some k
  · obtain ⟨j', hj', -⟩ := h.row hj
    refine .inr ⟨j', hk, hj', ?_⟩
    cases h with
    | submit hnew => cases Option.some.inj hk; rw [hnew] at hj; cases hj
    | block | restore | release | telemetry | clearEmpty => cases hk
    | clearOwned _ _ hj₀ =>
        cases Option.some.inj hk
        cases Option.some.inj (hj.symm.trans hj₀)
        cases Option.some.inj ((Floor.job_setJob_self ..).symm.trans hj')
        exact ⟨trivial, Job.inspected_status .., .inr (.inr (Job.inspected_ticket ..))⟩
    | swap hj₀ =>
        cases Option.some.inj hk
        cases Option.some.inj (hj.symm.trans hj₀)
        cases Option.some.inj ((Floor.job_setJob_self ..).symm.trans hj')
        exact ⟨rfl, rfl, .inr (.inr rfl)⟩
    | plan hj₀ hs =>
        cases Option.some.inj hk
        cases Option.some.inj (hj.symm.trans hj₀)
        cases Option.some.inj ((Floor.job_setJob_self ..).symm.trans hj')
        exact ⟨hs, rfl, .inl rfl⟩
    | queue hj₀ hs =>
        cases Option.some.inj hk
        cases Option.some.inj (hj.symm.trans hj₀)
        cases Option.some.inj ((Floor.job_setJob_self ..).symm.trans hj')
        exact ⟨hs, rfl, .inr (.inl rfl)⟩
    | dispatch hj₀ hs | confirm hj₀ hs | settle _ hj₀ hs =>
        cases Option.some.inj hk
        cases Option.some.inj (hj.symm.trans hj₀)
        cases Option.some.inj ((Floor.job_setJob_self ..).symm.trans hj')
        exact ⟨hs, rfl, .inr (.inr rfl)⟩
    | progress hj₀ =>
        cases Option.some.inj hk
        cases Option.some.inj (hj.symm.trans hj₀)
        cases Option.some.inj ((Floor.job_setJob_self ..).symm.trans hj')
        exact ⟨trivial, rfl, .inr (.inr rfl)⟩
  · exact .inl ⟨hk, (h.job_frame hk).trans hj⟩

/-- **A swap** leaves the job in the new status, with the ticket it had. -/
theorem Move.swap_row {old new : JobStatus} (h : Move (.swap k old new) f f') (hj : f.job k = some j)
    (hj' : f'.job k = some j') : j'.status = new ∧ j'.ticket = j.ticket := by
  rcases h.job_cases hj with ⟨hne, -⟩ | ⟨i, -, hi, -, hl, hticket⟩
  · exact absurd rfl hne
  · cases Option.some.inj (hi.symm.trans hj')
    exact ⟨hl, by simpa using hticket⟩

/-- A new row is PENDING. -/
theorem Move.new_row (h : Move a f f') (hj : f.job k = none) (hj' : f'.job k = some j') :
    j'.status = .pending := by
  cases h <;> simp_all [Floor.job_setJob]

/-- Only a submission adds a row. -/
theorem Move.no_row (h : Move a f f') (ha : a ≠ .submit k) (hj : f.job k = none) : f'.job k = none := by
  cases h <;> simp_all [Floor.job_setJob]
  all_goals
    rintro rfl
    simp_all

/-- A move writes the row of its printer only. -/
theorem Move.printer_frame {q : PrinterID} (h : Move a f f') (hq : a.printer ≠ some q) :
    f'.printers q = f.printers q := by
  cases h <;> first
    | rfl
    | exact Function.update_of_ne (fun hc => hq (congrArg some hc.symm)) _ _

/-- A submitted job is new. -/
theorem Move.submitted (h : Move (.submit k) f f') : f.job k = none := by
  cases h with
  | submit hnew => exact hnew

/-- A dispatched job goes to the printer it is assigned to. -/
theorem Move.dispatched {p : PrinterID} (h : Move (.dispatch k p) f f') :
    ∃ j, f.job k = some j ∧ j.assignedPrinter = some p := by
  cases h with
  | dispatch hj _ ha => exact ⟨_, hj, ha⟩

/-- **What a move does to a printer row**: nothing, or what its act says. -/
theorem Move.printer_cases (h : Move a f f') (q : PrinterID) :
    f'.printers q = f.printers q ∨
    (a.printer = some q ∧ (f'.printers q).currentJobId = a.slot (f.printers q).currentJobId ∧
      (f'.printers q).plateCleared = a.plate (f.printers q).plateCleared ∧
      (f'.printers q).status = a.shows (f.printers q).status) := by
  by_cases hq : a.printer = some q
  · refine .inr ⟨hq, ?_⟩
    cases h <;> cases hq <;> simp_all [Act.slot, Act.plate, Act.shows, PrinterState.blocked]
  · exact .inl (h.printer_frame hq)

/-- A released printer is unowned. -/
theorem Move.freed {p : PrinterID} (h : Move (.release k p) f f') : (f'.printers p).currentJobId = none := by
  cases h with
  | release => simp

/-- Clearing starts from a blocked plate and ends with a clear, unowned one. -/
theorem Move.cleared {p : PrinterID} {owner : Option JobId} (h : Move (.clear p owner) f f') :
    (f.printers p).plateCleared = false ∧ (f'.printers p).currentJobId = none ∧
      (f'.printers p).plateCleared = true := by
  cases h with
  | clearOwned hplate => exact ⟨hplate, by simp, by simp⟩
  | clearEmpty hplate => exact ⟨hplate, by simp, by simp⟩

end job

/-! ## The slot discipline -/

/-- The invariant of the floor. -/
structure FloorInv (f : Floor) : Prop where
  /-- A job at a printer owns the slot of the printer it is assigned to. -/
  holds : ∀ id j, f.job id = some j → j.status ∈ atPrinter →
    ∃ p, j.assignedPrinter = some p ∧ (f.printers p).currentJobId = some id
  /-- A slot is owned by a job that was sent to its printer. -/
  owner : ∀ p id, (f.printers p).currentJobId = some id →
    ∃ j, f.job id = some j ∧ j.status ∈ owning ∧ j.assignedPrinter = some p
  /-- The plate is clear while a file is uploaded. -/
  cleared : ∀ id j p, f.job id = some j → j.status = .uploading → j.assignedPrinter = some p →
    (f.printers p).plateCleared = true

namespace FloorInv

variable {f f' : Floor} {a : Act}

/-- The owner of a slot holds it for its own printer: two jobs at one printer are one. -/
theorem slot_eq {id : JobId} {j : Job} {p : PrinterID} (h : FloorInv f) (hj : f.job id = some j)
    (hs : j.status ∈ atPrinter) (hp : j.assignedPrinter = some p) :
    (f.printers p).currentJobId = some id := by
  obtain ⟨q, hq, hslot⟩ := h.holds id j hj hs
  cases Option.some.inj (hp.symm.trans hq)
  exact hslot

/-- A job whose row is replaced by one of the same printer, on the same side of every line the invariant
    draws, leaves the invariant alone. -/
theorem setJob {id : JobId} {j j' : Job} (h : FloorInv f) (hj : f.job id = some j)
    (hat : j'.status ∈ atPrinter → j.status ∈ atPrinter)
    (hup : j'.status = .uploading → j.status = .uploading)
    (hown : j.status ∈ owning → j'.status ∈ owning ∧ j'.assignedPrinter = j.assignedPrinter) :
    FloorInv (f.setJob id j') where
  holds k i hk hs := by
    rw [Floor.job_setJob] at hk
    split at hk
    · next heq =>
        subst heq
        cases hk
        obtain ⟨p, hp, hslot⟩ := h.holds _ _ hj (hat hs)
        exact ⟨p, by rw [(hown (owning_of_atPrinter (hat hs))).2, hp], hslot⟩
    · exact h.holds k i hk hs
  owner p k hslot := by
    obtain ⟨i, hi, hs, hp⟩ := h.owner p k hslot
    rw [Floor.job_setJob]
    split
    · next heq =>
        subst heq
        cases Option.some.inj (hj.symm.trans hi)
        exact ⟨j', rfl, (hown hs).1, by rw [(hown hs).2, hp]⟩
    · exact ⟨i, hi, hs, hp⟩
  cleared k i p hk hs hp := by
    rw [Floor.job_setJob] at hk
    split at hk
    · next heq =>
        subst heq
        cases hk
        have hown' := hown (owning_of_atPrinter (by rw [hup hs]; decide))
        exact h.cleared _ _ p hj (hup hs) (hown'.2 ▸ hp)
    · exact h.cleared k i p hk hs hp

/-- A new row that is not at a printer leaves the invariant alone. -/
theorem insertJob {id : JobId} {j : Job} (h : FloorInv f) (hnew : f.job id = none)
    (hs : j.status = .pending) : FloorInv (f.setJob id j) where
  holds k i hk hat := by
    rw [Floor.job_setJob] at hk
    split at hk
    · cases hk; exact absurd hat (by rw [hs]; decide)
    · exact h.holds k i hk hat
  owner p k hslot := by
    obtain ⟨i, hi, hown⟩ := h.owner p k hslot
    rw [Floor.job_setJob]
    split
    · next heq => subst heq; rw [hnew] at hi; cases hi
    · exact ⟨i, hi, hown⟩
  cleared k i p hk hup hp := by
    rw [Floor.job_setJob] at hk
    split at hk
    · cases hk; rw [hs] at hup; cases hup
    · exact h.cleared k i p hk hup hp

/-- A printer row that keeps its slot may change anything else, as long as the plate stays clear under an
    upload. -/
theorem setPrinter {p : PrinterID} {st : PrinterState} (h : FloorInv f)
    (hslot : st.currentJobId = (f.printers p).currentJobId)
    (hplate : st.plateCleared = (f.printers p).plateCleared ∨
      ∃ id j, (f.printers p).currentJobId = some id ∧ f.job id = some j ∧ j.status ≠ .uploading) :
    FloorInv (f.setPrinter p st) where
  holds k i hk hs := by
    obtain ⟨q, hq, hown⟩ := h.holds k i hk hs
    refine ⟨q, hq, ?_⟩
    rw [Floor.printers_setPrinter]
    split
    · next heq => subst heq; rw [hslot, hown]
    · exact hown
  owner q k hown := by
    rw [Floor.printers_setPrinter] at hown
    split at hown
    · next heq => subst heq; exact h.owner q k (hslot ▸ hown)
    · exact h.owner q k hown
  cleared k i q hk hs hq := by
    rw [Floor.printers_setPrinter]
    split
    · next heq =>
        subst heq
        rcases hplate with hsame | ⟨id, j, hid, hj, hne⟩
        · rw [hsame]; exact h.cleared k i q hk hs hq
        · -- the uploading job would own the slot, which another job owns
          have hown := h.slot_eq hk (by rw [hs]; decide) hq
          cases Option.some.inj (hid.symm.trans hown)
          cases Option.some.inj (hj.symm.trans hk)
          exact absurd hs hne
    · exact h.cleared k i q hk hs hq

/-- A slot whose owner has left its printer may be given up. -/
theorem freeSlot {p : PrinterID} {st : PrinterState} (h : FloorInv f)
    (hnone : st.currentJobId = none)
    (howner : ∀ id j, (f.printers p).currentJobId = some id → f.job id = some j → j.status ∉ atPrinter) :
    FloorInv (f.setPrinter p st) where
  holds k i hk hs := by
    obtain ⟨q, hq, hown⟩ := h.holds k i hk hs
    refine ⟨q, hq, ?_⟩
    rw [Floor.printers_setPrinter]
    split
    · next heq => subst heq; exact absurd hs (howner k i hown hk)
    · exact hown
  owner q k hown := by
    rw [Floor.printers_setPrinter] at hown
    split at hown
    · rw [hnone] at hown; cases hown
    · exact h.owner q k hown
  cleared k i q hk hs hq := by
    rw [Floor.printers_setPrinter]
    split
    · next heq =>
        subst heq
        have hat : i.status ∈ atPrinter := by rw [hs]; decide
        exact absurd hat (howner k i (h.slot_eq hk hat hq) hk)
    · exact h.cleared k i q hk hs hq

/-- A free slot may be claimed by the job that is sent to its printer. -/
theorem claimSlot {id : JobId} {j j' : Job} {p : PrinterID} {st : PrinterState} (h : FloorInv f)
    (hj : f.job id = some j) (hqueued : j.status ∉ owning) (hs : j'.status = .uploading)
    (hp : j'.assignedPrinter = some p) (hfree : (f.printers p).currentJobId = none)
    (hslot : st.currentJobId = some id) (hplate : st.plateCleared = true) :
    FloorInv ((f.setJob id j').setPrinter p st) where
  holds k i hk hat := by
    rw [Floor.job_setPrinter, Floor.job_setJob] at hk
    split at hk
    · next heq => subst heq; cases hk; exact ⟨p, hp, by simpa using hslot⟩
    · obtain ⟨q, hq, hown⟩ := h.holds k i hk hat
      have hne : q ≠ p := by rintro rfl; rw [hfree] at hown; cases hown
      exact ⟨q, hq, by simpa [hne] using hown⟩
  owner q k hown := by
    rw [Floor.printers_setPrinter] at hown
    rw [Floor.job_setPrinter, Floor.job_setJob]
    split at hown
    · next heq =>
        subst heq
        cases Option.some.inj (hslot.symm.trans hown)
        exact ⟨j', if_pos rfl, by rw [hs]; decide, hp⟩
    · obtain ⟨i, hi, hown', hq⟩ := h.owner q k hown
      have hne : k ≠ id := by
        rintro rfl
        cases Option.some.inj (hj.symm.trans hi)
        exact hqueued hown'
      exact ⟨i, by rw [if_neg hne, hi], hown', hq⟩
  cleared k i q hk hup hq := by
    rw [Floor.job_setPrinter, Floor.job_setJob] at hk
    rw [Floor.printers_setPrinter]
    split
    · exact hplate
    · next hne =>
        split at hk
        · cases hk; exact absurd (Option.some.inj (hq.symm.trans hp)) hne
        · exact h.cleared k i q hk hup hq

/-- Whoever holds a slot through the database is a job that exists. -/
theorem owner_row {p : PrinterID} {id : JobId} {j : Job} (h : FloorInv f)
    (hslot : (f.printers p).currentJobId = some id) (hj : f.job id = some j) :
    j.status ∈ owning ∧ j.assignedPrinter = some p := by
  obtain ⟨i, hi, hown⟩ := h.owner p id hslot
  cases Option.some.inj (hj.symm.trans hi)
  exact hown

end FloorInv

/-- **Every move keeps the slot discipline.** -/
theorem Move.inv {a : Act} {f f' : Floor} (h : Move a f f') (hI : FloorInv f) : FloorInv f' := by
  cases h with
  | submit hnew hs => exact hI.insertJob hnew hs
  | @swap _ id j now new err rej hj hedge hnew =>
      -- only a dispatch leads to UPLOADING, and it claims the slot along with it
      have hne : new ≠ .uploading := by rintro rfl; exact hnew (by decide)
      exact hI.setJob hj (fun hat => atPrinter_source hedge hat hne) (absurd · hne)
        fun hown => ⟨owning_closed hown hedge, rfl⟩
  | plan hj hs =>
      exact hI.setJob hj (fun hat => absurd hat (by simp [atPrinter])) (fun hc => by cases hc)
        fun hown => absurd hown (by rw [hs]; decide)
  | queue hj hs =>
      exact hI.setJob hj (fun hat => absurd hat (by simp [atPrinter])) (fun hc => by cases hc)
        fun hown => absurd hown (by rw [hs]; decide)
  | dispatch hj hs ha hfree =>
      exact hI.claimSlot hj (by rw [hs]; decide) rfl ha hfree.2.2 rfl hfree.2.1
  | @confirm f id j now p hj hs hslot =>
      have hJ : FloorInv (f.setJob id (j.transitioned now .printing none none)) :=
        hI.setJob hj (fun _ => by rw [hs]; decide) (fun hc => by cases hc)
          fun _ => ⟨by simp [owning, atPrinter], rfl⟩
      exact hJ.setPrinter rfl (.inr ⟨id, _, hslot, Floor.job_setJob_self .., fun hc => by cases hc⟩)
  | block hj hs hslot =>
      exact hI.setPrinter rfl (.inr ⟨_, _, hslot, hj, by rw [hs]; exact fun hc => by cases hc⟩)
  | @settle f id j now p new err status progress hj hs hedge hnew hslot =>
      have hne : new ≠ .uploading := by rintro rfl; exact absurd hnew (by decide)
      have hJ : FloorInv (f.setJob id { j.transitioned now new err none with printProgress := progress }) :=
        hI.setJob hj (fun _ => hs) (absurd · hne) fun hown => ⟨owning_closed hown hedge, rfl⟩
      exact hJ.setPrinter (by simp [PrinterState.blocked, hslot])
        (.inr ⟨id, _, hslot, Floor.job_setJob_self .., hne⟩)
  | restore hj hs hslot =>
      exact hI.setPrinter (by simp [PrinterState.blocked, hslot])
        (.inr ⟨_, _, hslot, hj, by rw [hs]; exact fun hc => by cases hc⟩)
  | @release f id j now p hj hs hslot =>
      refine hI.freeSlot rfl fun k i hk hi => ?_
      cases Option.some.inj (hslot.symm.trans hk)
      cases Option.some.inj (hj.symm.trans hi)
      rw [hs]; decide
  | telemetry => exact hI.setPrinter rfl (.inl rfl)
  | progress hj => exact hI.setJob hj (fun hat => hat) (fun hup => hup) fun hown => ⟨hown, rfl⟩
  | @clearOwned f id j now p msg hplate hslot hj hs =>
      have hown := hI.owner_row hslot hj
      -- an UPLOADING owner has a clear plate, so its request ends before this move
      have hne : j.status ≠ .uploading := fun hup => by
        have := hI.cleared id j p hj hup hown.2
        rw [hplate] at this; cases this
      have hJ : FloorInv (f.setJob id (j.inspected now msg)) := by
        refine hI.setJob hj ?_ ?_ fun hown => ⟨?_, Job.inspected_assignedPrinter ..⟩
        · rw [Job.inspected_status]
          cases j.status <;> decide
        · rw [Job.inspected_status]
          cases j.status <;> decide
        · rw [Job.inspected_status]
          revert hown
          cases j.status <;> decide
      refine hJ.freeSlot rfl fun k i hk hi => ?_
      cases Option.some.inj (hslot.symm.trans hk)
      cases Option.some.inj ((Floor.job_setJob_self ..).symm.trans hi)
      rw [Job.inspected_status]
      revert hs hne
      cases j.status <;> decide
  | clearEmpty hplate hslot =>
      refine hI.freeSlot rfl fun k i hk _ => ?_
      rw [hslot] at hk; cases hk

/-! ## Sequences of moves -/

/-- A transaction may make several moves; `ok` bounds which. -/
def Moves (ok : Act → Prop) : Floor → Floor → Prop :=
  Relation.ReflTransGen fun f f' => ∃ a, ok a ∧ Move a f f'

namespace Moves

variable {ok ok' : Act → Prop} {f f' g : Floor}

theorem refl : Moves ok f f := Relation.ReflTransGen.refl

theorem one {a : Act} (hok : ok a) (h : Move a f f') : Moves ok f f' :=
  Relation.ReflTransGen.single ⟨a, hok, h⟩

theorem trans (h : Moves ok f f') (h' : Moves ok f' g) : Moves ok f g := Relation.ReflTransGen.trans h h'

theorem mono (himp : ∀ a, ok a → ok' a) (h : Moves ok f f') : Moves ok' f f' :=
  Relation.ReflTransGen.mono (fun _ _ ⟨a, ha, hm⟩ => ⟨a, himp a ha, hm⟩) _ _ h

/-- What every admissible move keeps, their sequences keep. -/
theorem keeps {P : Floor → Prop} (hstep : ∀ a f f', ok a → Move a f f' → P f → P f')
    (h : Moves ok f f') (hP : P f) : P f' := by
  induction h with
  | refl => exact hP
  | tail _ hm ih =>
      obtain ⟨a, ha, hmove⟩ := hm
      exact hstep a _ _ ha hmove ih

theorem inv (h : Moves ok f f') (hI : FloorInv f) : FloorInv f' :=
  h.keeps (fun _ _ _ _ hm hP => hm.inv hP) hI

theorem sent {id : JobId} {j : Job} (h : Moves ok f f') (hj : f.job id = some j) (hs : j.status ∈ owning) :
    ∃ j', f'.job id = some j' ∧ j'.status ∈ owning ∧ j'.ticket = j.ticket := by
  refine h.keeps (P := fun g => ∃ j', g.job id = some j' ∧ j'.status ∈ owning ∧ j'.ticket = j.ticket)
    ?_ ⟨j, hj, hs, rfl⟩
  rintro a g g' - hm ⟨i, hi, hown, ht⟩
  obtain ⟨i', hi', hown', ht'⟩ := hm.sent hi hown
  exact ⟨i', hi', hown', ht'.trans ht⟩

/-- A set of statuses that no edge leaves is never left. -/
theorem closed {S : List JobStatus} {id : JobId} {j : Job}
    (hS : ∀ st ∈ S, ∀ st' ∈ allowedJobTransitions st, st' ∈ S) (h : Moves ok f f')
    (hj : f.job id = some j) (hs : j.status ∈ S) : ∃ j', f'.job id = some j' ∧ j'.status ∈ S := by
  refine h.keeps (P := fun g => ∃ j', g.job id = some j' ∧ j'.status ∈ S) ?_ ⟨j, hj, hs⟩
  rintro a g g' - hm ⟨i, hi, hst⟩
  obtain ⟨i', hi', -, hst' | hedge, -⟩ := hm.row hi
  · exact ⟨i', hi', hst' ▸ hst⟩
  · exact ⟨i', hi', hS _ hst _ hedge⟩

/-- A status without outgoing edges is final. -/
theorem final {id : JobId} {j : Job} (h : Moves ok f f') (hj : f.job id = some j)
    (hs : allowedJobTransitions j.status = []) : ∃ j', f'.job id = some j' ∧ j'.status = j.status := by
  refine h.keeps (P := fun g => ∃ j', g.job id = some j' ∧ j'.status = j.status) ?_ ⟨j, hj, rfl⟩
  rintro a g g' - hm ⟨i, hi, hst⟩
  obtain ⟨i', hi', -, hst' | hedge, -⟩ := hm.row hi
  · exact ⟨i', hi', hst'.trans hst⟩
  · rw [hst, hs] at hedge; cases hedge

end Moves

end BambuBabu
