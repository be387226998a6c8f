import Mathlib.Data.Rat.Defs
import BambuBabu.Storage.Table

/-!
# `Db.Models` — the rows of `backend/db/models.py`

`Job`, `PrinterState` and `LogEntry` with the columns the modelled code reads or writes. A job's primary key
is the key of its table row, so `Job` has no `id` column of its own. SQLite's `Float` columns are rationals and
a timestamp is a number of microseconds.
-/

namespace BambuBabu

open Storage

/-- `str(uuid.uuid4())`. -/
abbrev JobId := String

/-- Naive UTC, in microseconds. -/
abbrev Time := Nat

/-! ## Enumerations -/

inductive JobStatus where
  | pending | analysing | slicing | queued | uploading | starting
  | printing | completed | failed | rejected | cancelled | attention
  deriving DecidableEq, Repr

def JobStatus.value : JobStatus → String
  | pending => "pending"
  | analysing => "analysing"
  | slicing => "slicing"
  | queued => "queued"
  | uploading => "uploading"
  | starting => "starting"
  | printing => "printing"
  | completed => "completed"
  | failed => "failed"
  | rejected => "rejected"
  | cancelled => "cancelled"
  | attention => "attention"

inductive PrinterID where
  | p1s | a1Mini
  deriving DecidableEq, Repr

def PrinterID.value : PrinterID → String
  | p1s => "p1s"
  | a1Mini => "a1_mini"

inductive PrinterStatus where
  | idle | printing | paused | error | offline
  deriving DecidableEq, Repr

inductive LogLevel where
  | debug | info | warning | error
  deriving DecidableEq, Repr

/-! ## Rows -/

/-- The bounding box of a model, in millimetres. -/
structure Bbox where
  x : ℚ
  y : ℚ
  z : ℚ
  deriving DecidableEq

/-- The dictionary `analyse_stl` returns. -/
structure Analysis where
  faceCount : Nat
  volumeCm3 : ℚ
  overhangRatio : ℚ
  bbox : Bbox
  complexityScore : ℚ
  deriving DecidableEq

structure Job where
  userName : String
  userEmail : String
  description : Option String
  originalFilename : String
  stlPath : String
  slicedPath : Option String := none
  status : JobStatus := .pending
  errorMessage : Option String := none
  rejectionReason : Option String := none
  complexityScore : Option ℚ := none
  faceCount : Option Nat := none
  volumeCm3 : Option ℚ := none
  overhangRatio : Option ℚ := none
  bboxX : Option ℚ := none
  bboxY : Option ℚ := none
  bboxZ : Option ℚ := none
  assignedPrinter : Option PrinterID := none
  estimatedMinutes : Option Nat := none
  printProgress : Int := 0
  submittedAt : Time
  analysisStartedAt : Option Time := none
  slicingStartedAt : Option Time := none
  slicingDoneAt : Option Time := none
  printStartedAt : Option Time := none
  printEndedAt : Option Time := none
  plateClearedAt : Option Time := none
  deriving DecidableEq

structure PrinterState where
  status : PrinterStatus := .offline
  currentJobId : Option JobId := none
  plateCleared : Bool := true
  printProgress : Int := 0
  lastSeen : Option Time := none
  nozzleTemp : Option ℚ := none
  bedTemp : Option ℚ := none
  deriving DecidableEq

/-- `id` is the position in the log. -/
structure LogEntry where
  timestamp : Time
  level : LogLevel
  event : String
  message : String
  jobId : Option JobId
  printerId : Option String
  extra : Option Analysis
  deriving DecidableEq

/-! ## The database -/

/-- The three tables. `init_db` seeds one `printer_state` row for each printer and nothing deletes it, so the
    table is a function. -/
structure Db where
  jobs : Table JobId Job
  printers : PrinterID → PrinterState
  logs : List LogEntry

namespace Db

/-- What `init_db` makes of an empty database file. -/
def seeded : Db where
  jobs := Table.empty
  printers := fun _ => {}
  logs := []

/-- The job row under `id`. -/
def job (d : Db) (id : JobId) : Option Job := d.jobs.get id

/-- Change a job row in place. -/
def modifyJob (d : Db) (id : JobId) (f : Job → Job) : Db := { d with jobs := d.jobs.modify id f }

/-- Overwrite a job row. -/
def setJob (d : Db) (id : JobId) (j : Job) : Db := d.modifyJob id fun _ => j

/-- Append a job row. -/
def insertJob (d : Db) (id : JobId) (j : Job) : Db := { d with jobs := d.jobs.insertNew id j }

/-- Change a printer row in place. -/
def modifyPrinter (d : Db) (p : PrinterID) (f : PrinterState → PrinterState) : Db :=
  { d with printers := Function.update d.printers p (f (d.printers p)) }

/-- Overwrite a printer row. -/
def setPrinter (d : Db) (p : PrinterID) (st : PrinterState) : Db := d.modifyPrinter p fun _ => st

/-- Append a log row. -/
def insertLog (d : Db) (e : LogEntry) : Db := { d with logs := d.logs ++ [e] }

/-- Whether the job's row carries one of these statuses. -/
def statusIn (d : Db) (id : JobId) (ss : List JobStatus) : Bool :=
  (d.job id).any fun j => j.status ∈ ss

/-- The status of a job, if there is one. -/
def statusOf (d : Db) (id : JobId) : Option JobStatus := (d.job id).map Job.status

theorem statusOf_eq {d : Db} {id : JobId} {j : Job} (hj : d.job id = some j) :
    d.statusOf id = some j.status := by
  rw [statusOf, hj, Option.map_some]

/-! ### What each write is seen as -/

variable (d : Db) (id k : JobId) (p q : PrinterID)

@[simp] theorem job_modifyJob (f : Job → Job) :
    (d.modifyJob id f).job k = if k = id then (d.job k).map f else d.job k :=
  Table.get_modify d.jobs id k f

@[simp] theorem job_setJob (j : Job) :
    (d.setJob id j).job k = if k = id then (d.job k).map fun _ => j else d.job k :=
  job_modifyJob d id k _

theorem job_insertJob {d : Db} {id : JobId} (h : d.job id = none) (j : Job) (k : JobId) :
    (d.insertJob id j).job k = if k = id then some j else d.job k :=
  Table.get_insertNew h j k

@[simp] theorem job_modifyPrinter (f : PrinterState → PrinterState) :
    (d.modifyPrinter p f).job k = d.job k := rfl

@[simp] theorem job_setPrinter (st : PrinterState) : (d.setPrinter p st).job k = d.job k := rfl

@[simp] theorem job_insertLog (e : LogEntry) : (d.insertLog e).job k = d.job k := rfl

@[simp] theorem printers_modifyJob (f : Job → Job) : (d.modifyJob id f).printers = d.printers := rfl

@[simp] theorem printers_setJob (j : Job) : (d.setJob id j).printers = d.printers := rfl

@[simp] theorem printers_insertJob (j : Job) : (d.insertJob id j).printers = d.printers := rfl

@[simp] theorem printers_insertLog (e : LogEntry) : (d.insertLog e).printers = d.printers := rfl

@[simp] theorem printers_modifyPrinter (f : PrinterState → PrinterState) :
    (d.modifyPrinter p f).printers q = if q = p then f (d.printers p) else d.printers q := by
  simp only [modifyPrinter, Function.update_apply]

@[simp] theorem printers_setPrinter (st : PrinterState) :
    (d.setPrinter p st).printers q = if q = p then st else d.printers q :=
  printers_modifyPrinter d p q _

@[simp] theorem job_seeded : seeded.job k = none := rfl

@[simp] theorem printers_seeded : seeded.printers p = {} := rfl

/-- A guarded change of a row whose guard holds is an overwrite. -/
theorem modifyJob_eq_setJob {d : Db} {id : JobId} {j : Job} (h : d.job id = some j) (f : Job → Job) :
    d.modifyJob id f = d.setJob id (f j) := by
  have hrow : d.jobs.modify id f = d.jobs.modify id fun _ => f j := Table.modify_congr h rfl
  unfold setJob modifyJob
  rw [hrow]

/-- A change that keeps the row it meets changes nothing. -/
theorem modifyJob_eq_self {d : Db} {id : JobId} {f : Job → Job} (h : ∀ j, d.job id = some j → f j = j) :
    d.modifyJob id f = d := by
  unfold modifyJob
  rw [Table.modify_eq_self h]

theorem setJob_self {d : Db} {id : JobId} {j : Job} (h : d.job id = some j) : d.setJob id j = d :=
  modifyJob_eq_self fun _ hj => Option.some.inj (h.symm.trans hj)

/-- Only the last of two overwrites counts. -/
theorem setJob_setJob (d : Db) (id : JobId) (a b : Job) : (d.setJob id a).setJob id b = d.setJob id b := by
  unfold setJob modifyJob
  rw [Table.modify_modify]
  rfl

theorem setPrinter_setPrinter (d : Db) (p : PrinterID) (a b : PrinterState) :
    (d.setPrinter p a).setPrinter p b = d.setPrinter p b := by
  unfold setPrinter modifyPrinter
  simp only [Function.update_idem]

theorem setPrinter_self (d : Db) (p : PrinterID) : d.setPrinter p (d.printers p) = d := by
  unfold setPrinter modifyPrinter
  rw [Function.update_eq_self]

end Db

end BambuBabu
