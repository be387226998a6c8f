import BambuBabu.Core.Printer

/-!
# `Api.Responses` — the read endpoints

What the API answers to a GET: the jobs, one job, the logs of a job (`backend/api/jobs.py`), all logs
(`backend/api/logs.py`), the printers and their history (`backend/api/printers.py`) and the counts
(`backend/main.py`). A timestamp stands for its `isoformat()`. `limit` is one that FastAPI admits. Rows that a query
does not order stay in the order of insertion.
-/

namespace BambuBabu.Api

open Storage

/-! ## Jobs -/

/-- The dictionary `_job_to_dict` returns. -/
structure JobDict where
  id : JobId
  userName : String
  description : Option String
  originalFilename : String
  status : JobStatus
  assignedPrinter : Option PrinterID
  complexityScore : Option ℚ
  faceCount : Option Nat
  volumeCm3 : Option ℚ
  overhangRatio : Option ℚ
  bbox : Option (Option ℚ × Option ℚ × Option ℚ)
  estimatedMinutes : Option Nat
  printProgress : Int
  errorMessage : Option String
  rejectionReason : Option String
  submittedAt : Time
  slicingDoneAt : Option Time
  printStartedAt : Option Time
  printEndedAt : Option Time
  plateClearedAt : Option Time
  deriving DecidableEq

/-- `_job_to_dict` -/
def jobToDict (id : JobId) (job : Job) : JobDict where
  id := id
  userName := job.userName
  description := job.description
  originalFilename := job.originalFilename
  status := job.status
  assignedPrinter := job.assignedPrinter
  complexityScore := job.complexityScore
  faceCount := job.faceCount
  volumeCm3 := job.volumeCm3
  overhangRatio := job.overhangRatio
  bbox := if job.bboxX.isSome then some (job.bboxX, job.bboxY, job.bboxZ) else none
  estimatedMinutes := job.estimatedMinutes
  printProgress := job.printProgress
  errorMessage := job.errorMessage
  rejectionReason := job.rejectionReason
  submittedAt := job.submittedAt
  slicingDoneAt := job.slicingDoneAt
  printStartedAt := job.printStartedAt
  printEndedAt := job.printEndedAt
  plateClearedAt := job.plateClearedAt

/-- `desc(Job.submitted_at)` -/
def newestFirst (a b : JobId × Job) : Bool := decide (b.2.submittedAt ≤ a.2.submittedAt)

/-- `get_all_jobs` -/
def getAllJobs (d : Db) (limit : Nat) : List (JobId × Job) := (d.jobsWhere (fun _ => true) newestFirst).take limit

def listJobs (d : Db) (limit : Nat) : List JobDict := (getAllJobs d limit).map fun row => jobToDict row.1 row.2

/-- The endpoint `get_job`. -/
def getJob (d : Db) (id : JobId) : Except Exc JobDict :=
  match d.job id with
  | none => .error (.httpException 404 "Job not found")
  | some job => .ok (jobToDict id job)

/-! ## Logs -/

/-- An entry as `job_logs` lists it. -/
structure JobLogDict where
  id : Nat
  timestamp : Time
  level : LogLevel
  event : String
  message : String
  printerId : Option String
  extra : Option Analysis
  deriving DecidableEq

/-- An entry as the dashboard gets it. -/
structure LogDict extends JobLogDict where
  jobId : Option JobId
  deriving DecidableEq

/-- `crud.get_logs`: the newest entries with their ids, those of one job if a job is given. SQLite reads all entries
    along the index on `timestamp`, backwards, and those of one job in the order of insertion; this decides among
    entries of the same time. -/
def newestLogs (d : Db) (jobId : Option JobId) (limit : Nat) : List (LogEntry × Nat) :=
  let entries := d.logs.zipIdx 1
  let found := match jobId.filter (· ≠ "") with
    | none => entries.reverse
    | some k => entries.filter fun e => e.1.jobId = some k
  (found.insertionSort fun a b => b.1.timestamp ≤ a.1.timestamp).take limit

def jobLogDict (e : LogEntry × Nat) : JobLogDict where
  id := e.2
  timestamp := e.1.timestamp
  level := e.1.level
  event := e.1.event
  message := e.1.message
  printerId := e.1.printerId
  extra := e.1.extra

/-- The endpoint `job_logs`. -/
def jobLogs (d : Db) (id : JobId) (limit : Nat) : Except Exc (List JobLogDict) :=
  match d.job id with
  | none => .error (.httpException 404 "Job not found")
  | some _ => .ok ((newestLogs d (some id) limit).map jobLogDict)

/-- The endpoint `get_logs`. -/
def getLogs (d : Db) (limit : Nat) : List LogDict :=
  (newestLogs d none limit).map fun e => { jobLogDict e with jobId := e.1.jobId }

/-! ## Printers -/

structure PrinterDict where
  printerId : PrinterID
  enabled : Bool
  name : String
  status : String
  gcodeState : String
  progress : Int
  nozzleTemp : ℚ
  bedTemp : ℚ
  connected : Bool
  lastSeen : Option Time
  plateCleared : Bool
  currentJobId : Option JobId
  deriving DecidableEq

/-- `"Bambu Lab P1S" if pid == PrinterID.P1S else "Bambu Lab A1 Mini"` -/
def printerName : PrinterID → String
  | .p1s => "Bambu Lab P1S"
  | .a1Mini => "Bambu Lab A1 Mini"

/-- The entry of a printer in `get_snapshot`, with its row. The manager has a client for each enabled printer. -/
def printerDict (cfg : Settings) (live : PrinterID → BambuPrinter) (d : Db) (p : PrinterID) : PrinterDict :=
  let row := d.printers p
  if cfg.livePrinterEnabled p then
    let snap := (live p).snapshot
    { printerId := p, enabled := true, name := printerName p, status := snap.status.value,
      gcodeState := snap.gcodeState.value, progress := snap.progress, nozzleTemp := snap.nozzleTemp,
      bedTemp := snap.bedTemp, connected := snap.connected, lastSeen := snap.lastSeen,
      plateCleared := row.plateCleared, currentJobId := row.currentJobId }
  else
    { printerId := p, enabled := false, name := printerName p, status := "disabled", gcodeState := "DISABLED",
      progress := 0, nozzleTemp := 0, bedTemp := 0, connected := false, lastSeen := none,
      plateCleared := row.plateCleared, currentJobId := row.currentJobId }

def getPrinters (cfg : Settings) (live : PrinterID → BambuPrinter) (d : Db) : List PrinterDict :=
  [PrinterID.p1s, PrinterID.a1Mini].map (printerDict cfg live d)

structure HistoryDict where
  id : JobId
  originalFilename : String
  status : JobStatus
  printStartedAt : Option Time
  printEndedAt : Option Time
  deriving DecidableEq

/-- `desc(Job.print_ended_at)`: SQLite puts NULL behind every time. -/
def endedLater (a b : JobId × Job) : Bool :=
  match a.2.printEndedAt, b.2.printEndedAt with
  | some s, some t => decide (t ≤ s)
  | none, some _ => false
  | _, none => true

def printerHistory (d : Db) (p : PrinterID) : List HistoryDict :=
  let rows := d.jobsWhere (fun j => j.assignedPrinter = some p ∧ j.status ∈ [.completed, .failed]) endedLater
  (rows.take 20).map fun row =>
    { id := row.1, originalFilename := row.2.originalFilename, status := row.2.status,
      printStartedAt := row.2.printStartedAt, printEndedAt := row.2.printEndedAt }

/-! ## Counts -/

/-- The members of `JobStatus`, in its order. -/
def jobStatuses : List JobStatus :=
  [.pending, .analysing, .slicing, .queued, .uploading, .starting, .printing, .completed, .failed, .rejected,
    .cancelled, .attention]

structure Stats where
  jobCounts : List (JobStatus × Nat)
  total : Nat
  deriving DecidableEq

def stats (d : Db) : Stats :=
  let allJobs := getAllJobs d 1000
  { jobCounts := jobStatuses.map fun status => (status, allJobs.countP fun row => row.2.status = status)
    total := allJobs.length }

/-! ## All of them -/

inductive Query where
  | listJobs (limit : Nat)
  | getJob (id : JobId)
  | jobLogs (id : JobId) (limit : Nat)
  | getLogs (limit : Nat)
  | getPrinters
  | printerHistory (p : PrinterID)
  | stats

inductive Response where
  | jobs (rows : List JobDict)
  | job (row : Except Exc JobDict)
  | jobLogs (entries : Except Exc (List JobLogDict))
  | logs (entries : List LogDict)
  | printers (rows : List PrinterDict)
  | history (rows : List HistoryDict)
  | stats (counts : Stats)

def respond (cfg : Settings) (live : PrinterID → BambuPrinter) (d : Db) : Query → Response
  | .listJobs limit => .jobs (listJobs d limit)
  | .getJob id => .job (getJob d id)
  | .jobLogs id limit => .jobLogs (jobLogs d id limit)
  | .getLogs limit => .logs (getLogs d limit)
  | .getPrinters => .printers (getPrinters cfg live d)
  | .printerHistory p => .history (printerHistory d p)
  | .stats => .stats (stats d)

end BambuBabu.Api
