import Mathlib.Data.List.Sort
import BambuBabu.Storage.Txn
import BambuBabu.Db.Models

/-!
# `Db.Crud` — the database operations of `backend/db/crud.py`

Each operation is a transaction program over `Db`. A SQLAlchemy session keeps the rows it has loaded in its
identity map: a later `db.get` of the same row answers from there, and an ORM flush writes only the columns
whose value differs from the loaded one. Operations that go through the identity map therefore take the
loaded row as an argument and hand the refreshed one back.

Executed atomically a loaded row is the current one, and every operation has one spec lemma (`run_*`) that
says what it leaves; callers use those and never unfold the operation.
-/

namespace BambuBabu

open Storage

/-- The exception classes the modelled code raises or tells apart. `other` is any further subclass of
    `Exception`. -/
inductive Exc where
  | jobTransitionError (msg : String)
  | printStartUnconfirmed (msg : String)
  | printStartRejected (msg : String)
  | runtimeError (msg : String)
  | httpException (statusCode : Nat) (detail : String)
  | other (msg : String)
  deriving DecidableEq, Repr

/-- `str(exc)`. -/
def Exc.str : Exc → String
  | jobTransitionError m => m
  | printStartUnconfirmed m => m
  | printStartRejected m => m
  | runtimeError m => m
  | httpException _ m => m
  | other m => m

/-- `isinstance(exc, RuntimeError)`: the three named error classes derive from it. -/
def Exc.isRuntimeError : Exc → Bool
  | jobTransitionError _ => true
  | printStartUnconfirmed _ => true
  | printStartRejected _ => true
  | runtimeError _ => true
  | httpException _ _ => false
  | other _ => false

/-- A transaction of the service. -/
abbrev Tx := Txn Db Exc

/-! ## The transition graph -/

def activeJobStatuses : List JobStatus :=
  [.pending, .analysing, .slicing, .queued, .uploading, .starting, .printing, .attention]

def terminalJobStatuses : List JobStatus := [.completed, .failed, .rejected, .cancelled]

def allowedJobTransitions : JobStatus → List JobStatus
  | .pending => [.analysing, .cancelled, .failed]
  | .analysing => [.pending, .slicing, .rejected, .cancelled, .failed]
  | .slicing => [.pending, .queued, .cancelled, .failed]
  | .queued => [.slicing, .uploading, .cancelled, .failed]
  | .uploading => [.starting, .attention, .failed]
  | .starting => [.printing, .attention, .completed, .failed]
  | .printing => [.completed, .attention, .failed]
  | .attention => [.printing, .completed, .failed]
  | .completed => []
  | .failed => []
  | .rejected => []
  | .cancelled => []

/-- A status is active or terminal, and not both. -/
theorem active_iff_not_terminal (s : JobStatus) : s ∈ activeJobStatuses ↔ s ∉ terminalJobStatuses := by
  cases s <;> decide

/-- No edge leaves a terminal status. -/
theorem allowed_of_terminal {s : JobStatus} (h : s ∈ terminalJobStatuses) :
    allowedJobTransitions s = [] := by
  cases s <;> first | rfl | exact absurd h (by decide)

/-- Every status that is not terminal may fail. -/
theorem failed_allowed {s : JobStatus} (h : s ∉ terminalJobStatuses) :
    .failed ∈ allowedJobTransitions s := by
  cases s <;> first | decide | exact absurd (by decide) h

/-! ## Queries -/

/-- `db.get(Job, job_id)` of a row the session has not loaded. -/
def getJob (jobId : JobId) : Tx (Option Job) := Txn.select fun d => d.job jobId

/-- The listed order is `submitted_at`. -/
def bySubmission (a b : JobId × Job) : Bool := decide (a.2.submittedAt ≤ b.2.submittedAt)

/-- `estimated_minutes ASC NULLS LAST, submitted_at ASC`. -/
def byEstimate (a b : JobId × Job) : Bool :=
  match a.2.estimatedMinutes, b.2.estimatedMinutes with
  | none, none => bySubmission a b
  | none, some _ => false
  | some _, none => true
  | some m, some n => decide (m < n) || (m == n && bySubmission a b)

/-- The rows that satisfy `p`, in the order `le`. -/
def Db.jobsWhere (d : Db) (p : Job → Bool) (le : JobId × Job → JobId × Job → Bool) : List (JobId × Job) :=
  (d.jobs.rows.filter fun r => p r.2).insertionSort fun a b => le a b = true

def getJobsInStatuses (statuses : List JobStatus) : Tx (List (JobId × Job)) :=
  Txn.select fun d => d.jobsWhere (fun j => j.status ∈ statuses) bySubmission

def getJobsByStatus (status : JobStatus) : Tx (List (JobId × Job)) :=
  Txn.select fun d => d.jobsWhere (fun j => j.status = status) bySubmission

/-- The number of rows in an active status. -/
def Db.countActiveJobs (d : Db) : Nat := (d.jobs.rows.filter fun row => row.2.status ∈ activeJobStatuses).length

def countActiveJobs : Tx Nat := Txn.select Db.countActiveJobs

def getNextQueuedJobForPrinter (p : PrinterID) : Tx (Option (JobId × Job)) :=
  Txn.select fun d =>
    (d.jobsWhere (fun j => j.status = .queued ∧ j.assignedPrinter = some p) byEstimate).head?

/-- `db.get(PrinterState, printer_id)`: the row is there, since `init_db` seeds both. -/
def getPrinterState (p : PrinterID) : Tx (Option PrinterState) := Txn.select fun d => some (d.printers p)

/-! ## Job transitions -/

/-- The `values` of the UPDATE: the new status, the texts that are given, the timestamp it owns. -/
def Job.transitioned (j : Job) (now : Time) (newStatus : JobStatus)
    (errorMessage rejectionReason : Option String) : Job :=
  { j with
    status := newStatus
    errorMessage := errorMessage <|> j.errorMessage
    rejectionReason := rejectionReason <|> j.rejectionReason
    analysisStartedAt := if newStatus = .analysing then some now else j.analysisStartedAt
    slicingStartedAt := if newStatus = .slicing then some now else j.slicingStartedAt
    slicingDoneAt := if newStatus = .queued then some now else j.slicingDoneAt
    printStartedAt := if newStatus = .printing then some now else j.printStartedAt
    printEndedAt := if newStatus ∈ terminalJobStatuses then some now else j.printEndedAt }

/-- The comma-separated values of the error texts. -/
def statusNames (ss : List JobStatus) : String := ", ".intercalate (ss.map JobStatus.value)

/-- The compare-and-swap. `loaded` is the row the session holds, which the text of a lost swap quotes. -/
def transitionJobStatus (now : Time) (loaded : Option Job) (jobId : JobId) (expected : List JobStatus)
    (newStatus : JobStatus) (errorMessage rejectionReason : Option String) : Tx Job := do
  let invalidSources := expected.filter fun s => newStatus ∉ allowedJobTransitions s
  if invalidSources ≠ [] then
    let sources := statusNames invalidSources
    throw (.jobTransitionError s!"Illegal job transition {sources} -> {newStatus.value}")
  else
    let matched ← Txn.exec
      (fun d => d.modifyJob jobId fun j =>
        if j.status ∈ expected then j.transitioned now newStatus errorMessage rejectionReason else j)
      (fun d => d.statusIn jobId expected)
    let current ← getJob jobId
    if matched then
      match current with
      | none => throw (.jobTransitionError s!"Job {jobId} disappeared after transition")
      | some job => pure job
    else
      -- the identity map answers with the row it has loaded, not with what is stored now
      let actual := ((loaded <|> current).map fun j => j.status.value).getD "missing"
      let wanted := statusNames expected
      throw (.jobTransitionError
        s!"Job {jobId} transition {wanted} -> {newStatus.value} rejected; current={actual}")

/-- A swap whose loss is caught: whether it succeeded. -/
def trySwap (now : Time) (job : Job) (jobId : JobId) (expected newStatus : JobStatus)
    (errorMessage : Option String) : Tx Bool :=
  tryCatch
    (do
      let _ ← transitionJobStatus now (some job) jobId [expected] newStatus errorMessage none
      pure true)
    fun e => match e with
      | .jobTransitionError _ => pure false
      | e => throw e

/-! ## Writes through the ORM -/

/-- An ORM column write: untouched unless the new value differs from the loaded one. -/
def ormColumn {α : Type} [DecidableEq α] (loaded new current : α) : α :=
  if new = loaded then current else new

@[simp] theorem ormColumn_loaded {α : Type} [DecidableEq α] (loaded new : α) :
    ormColumn loaded new loaded = new := by
  unfold ormColumn; split
  · next h => exact h.symm
  · rfl

/-- Flush a changed job object: one UPDATE of the columns that differ, none when nothing differs. -/
def flushJob (jobId : JobId) (loaded new : Job) (columns : Job → Job) : Tx Job := do
  if new = loaded then pure loaded
  else
    Txn.exec (fun d => d.modifyJob jobId columns) fun _ => ()
    pure new

/-- The attributes `update_job_analysis` sets. -/
def Job.analysed (job : Job) (analysis : Analysis) (assignedPrinter : PrinterID) : Job :=
  { job with
    complexityScore := some analysis.complexityScore
    faceCount := some analysis.faceCount
    volumeCm3 := some analysis.volumeCm3
    overhangRatio := some analysis.overhangRatio
    bboxX := some analysis.bbox.x
    bboxY := some analysis.bbox.y
    bboxZ := some analysis.bbox.z
    assignedPrinter := some assignedPrinter }

def updateJobAnalysis (jobId : JobId) (job : Job) (analysis : Analysis) (assignedPrinter : PrinterID) :
    Tx Job :=
  let new := job.analysed analysis assignedPrinter
  flushJob jobId job new fun cur =>
    { cur with
      complexityScore := ormColumn job.complexityScore new.complexityScore cur.complexityScore
      faceCount := ormColumn job.faceCount new.faceCount cur.faceCount
      volumeCm3 := ormColumn job.volumeCm3 new.volumeCm3 cur.volumeCm3
      overhangRatio := ormColumn job.overhangRatio new.overhangRatio cur.overhangRatio
      bboxX := ormColumn job.bboxX new.bboxX cur.bboxX
      bboxY := ormColumn job.bboxY new.bboxY cur.bboxY
      bboxZ := ormColumn job.bboxZ new.bboxZ cur.bboxZ
      assignedPrinter := ormColumn job.assignedPrinter new.assignedPrinter cur.assignedPrinter }

def updateJobAssignment (jobId : JobId) (job : Job) (p : PrinterID) : Tx Job :=
  let new : Job := { job with assignedPrinter := some p }
  flushJob jobId job new fun cur =>
    { cur with assignedPrinter := ormColumn job.assignedPrinter new.assignedPrinter cur.assignedPrinter }

def updateJobSliced (jobId : JobId) (job : Job) (slicedPath : String) (estimatedMinutes : Option Nat) :
    Tx Job :=
  let new : Job := { job with slicedPath := some slicedPath, estimatedMinutes := estimatedMinutes }
  flushJob jobId job new fun cur =>
    { cur with
      slicedPath := ormColumn job.slicedPath new.slicedPath cur.slicedPath
      estimatedMinutes := ormColumn job.estimatedMinutes new.estimatedMinutes cur.estimatedMinutes }

/-- `max(0, min(int(progress), 100))` -/
def clampProgress (progress : Int) : Int := max 0 (min progress 100)

def updateJobProgress (jobId : JobId) (job : Job) (progress : Int) : Tx Job :=
  let new : Job := { job with printProgress := clampProgress progress }
  flushJob jobId job new fun cur =>
    { cur with printProgress := ormColumn job.printProgress new.printProgress cur.printProgress }

def updateJobPlateCleared (now : Time) (jobId : JobId) (job : Job) : Tx Job :=
  let new : Job := { job with plateClearedAt := some now }
  flushJob jobId job new fun cur =>
    { cur with plateClearedAt := ormColumn job.plateClearedAt new.plateClearedAt cur.plateClearedAt }

/-- The columns of a printer row that differ from the loaded ones. -/
def PrinterState.columns (loaded new cur : PrinterState) : PrinterState where
  status := ormColumn loaded.status new.status cur.status
  currentJobId := ormColumn loaded.currentJobId new.currentJobId cur.currentJobId
  plateCleared := ormColumn loaded.plateCleared new.plateCleared cur.plateCleared
  printProgress := ormColumn loaded.printProgress new.printProgress cur.printProgress
  lastSeen := ormColumn loaded.lastSeen new.lastSeen cur.lastSeen
  nozzleTemp := ormColumn loaded.nozzleTemp new.nozzleTemp cur.nozzleTemp
  bedTemp := ormColumn loaded.bedTemp new.bedTemp cur.bedTemp

/-- Flush a changed printer object. -/
def flushPrinter (p : PrinterID) (loaded new : PrinterState) : Tx PrinterState := do
  if new = loaded then pure loaded
  else
    Txn.exec (fun d => d.modifyPrinter p (PrinterState.columns loaded new)) fun _ => ()
    pure new

/-- `update_printer_state` on a row the session has loaded; `set` are its keyword arguments. -/
def updatePrinterState (now : Time) (p : PrinterID) (state : PrinterState)
    (set : PrinterState → PrinterState) : Tx PrinterState :=
  flushPrinter p state { set state with lastSeen := some now }

/-- `update_printer_state` on a row the session has not loaded yet. -/
def loadAndUpdatePrinterState (now : Time) (p : PrinterID) (set : PrinterState → PrinterState) :
    Tx (Option PrinterState) := do
  match ← getPrinterState p with
  | none => pure none
  | some state =>
      let state ← updatePrinterState now p state set
      pure (some state)

def setPlateCleared (p : PrinterID) (state : PrinterState) : Tx PrinterState :=
  flushPrinter p state { state with plateCleared := true }

def addLog (now : Time) (event message : String) (level : LogLevel) (jobId : Option JobId)
    (printerId : Option String) (extra : Option Analysis) : Tx Unit :=
  Txn.exec (fun d => d.insertLog
    { timestamp := now, level := level, event := event, message := message, jobId := jobId,
      printerId := printerId, extra := extra }) fun _ => ()

/-- The row `create_job` inserts. -/
def Job.submitted (now : Time) (userName userEmail : String) (description : Option String)
    (originalFilename stlPath : String) : Job :=
  { userName := userName, userEmail := userEmail, description := description,
    originalFilename := originalFilename, stlPath := stlPath, submittedAt := now }

/-- The INSERT fails on a primary key that is taken. -/
def createJob (now : Time) (jobId : JobId) (userName userEmail : String) (description : Option String)
    (originalFilename stlPath : String) : Tx Job := do
  let job := Job.submitted now userName userEmail description originalFilename stlPath
  let taken ← Txn.exec (fun d => d.insertJob jobId job) fun d => (d.job jobId).isSome
  if taken then throw (.other "UNIQUE constraint failed: jobs.id") else pure job

/-! ## Spec lemmas: the operations executed atomically -/

section spec

variable {now : Time} {d d' : Db} {id : JobId} {j job : Job} {p : PrinterID}

/-- **The swap succeeds** on a row that carries an expected status, along an edge of the graph. -/
theorem transition_run (now : Time) (loaded : Option Job) (expected : List JobStatus) (new : JobStatus)
    (err rej : Option String) (hedge : ∀ st ∈ expected, new ∈ allowedJobTransitions st)
    (hj : d.job id = some j) (hs : j.status ∈ expected) :
    (transitionJobStatus now loaded id expected new err rej).run d
      = (.ok (j.transitioned now new err rej), d.setJob id (j.transitioned now new err rej)) := by
  have hmod : d.modifyJob id (fun j => if j.status ∈ expected then j.transitioned now new err rej else j)
      = d.setJob id (j.transitioned now new err rej) := by
    rw [Db.modifyJob_eq_setJob hj, if_pos hs]
  have hmatch : d.statusIn id expected = true := by simp [Db.statusIn, hj, hs]
  simpa [transitionJobStatus, getJob, hmod, hmatch, hj] using hedge

/-- **The swap is lost** on a row that carries no expected status: nothing is written. -/
theorem transition_lost (now : Time) (loaded : Option Job) (expected : List JobStatus) (new : JobStatus)
    (err rej : Option String) (hno : ∀ j, d.job id = some j → j.status ∉ expected) :
    ∃ m, (transitionJobStatus now loaded id expected new err rej).run d
      = (.error (.jobTransitionError m), d) := by
  have hmod : d.modifyJob id (fun j => if j.status ∈ expected then j.transitioned now new err rej else j)
      = d := Db.modifyJob_eq_self fun j hj => if_neg (hno j hj)
  have hmatch : d.statusIn id expected = false := by
    cases hj : d.job id with
    | none => simp [Db.statusIn, hj]
    | some j => simpa [Db.statusIn, hj] using hno j hj
  unfold transitionJobStatus
  simp only [Txn.run_ite]
  split
  · exact ⟨_, rfl⟩
  · simp [getJob, hmod, hmatch]

/-- **Inversion of the swap**: it returned, so the row carried an expected status and only it changed. -/
theorem transition_ok {loaded : Option Job} {expected : List JobStatus} {new : JobStatus}
    {err rej : Option String} {a : Job}
    (h : (transitionJobStatus now loaded id expected new err rej).run d = (.ok a, d')) :
    ∃ j, d.job id = some j ∧ j.status ∈ expected ∧ new ∈ allowedJobTransitions j.status ∧
      a = j.transitioned now new err rej ∧ d' = d.setJob id a := by
  by_cases hedge : ∀ st ∈ expected, new ∈ allowedJobTransitions st
  · by_cases hj : ∃ j, d.job id = some j ∧ j.status ∈ expected
    · obtain ⟨j, hj, hs⟩ := hj
      rw [transition_run now loaded expected new err rej hedge hj hs] at h
      obtain ⟨ha, rfl⟩ := Prod.mk.inj h
      cases ha
      exact ⟨j, hj, hs, hedge _ hs, rfl, rfl⟩
    · push Not at hj
      obtain ⟨m, hm⟩ := transition_lost now loaded expected new err rej hj
      rw [hm] at h
      cases h
  · push Not at hedge
    simp [transitionJobStatus, hedge] at h

theorem transition_raises {loaded : Option Job} {expected : List JobStatus} {new : JobStatus}
    {err rej : Option String} {e : Exc}
    (h : (transitionJobStatus now loaded id expected new err rej).run d = (.error e, d')) :
    ∃ m, e = .jobTransitionError m := by
  unfold transitionJobStatus at h
  simp only [Txn.run_ite] at h
  split at h
  · cases h; exact ⟨_, rfl⟩
  · rw [Txn.run_bind] at h
    simp only [Txn.run_exec, getJob, Txn.run_bind, Txn.run_select, Txn.run_ite] at h
    split at h
    · split at h <;> cases h
      exact ⟨_, rfl⟩
    · cases h; exact ⟨_, rfl⟩

theorem trySwap_run (now : Time) (job : Job) (expected new : JobStatus) (err : Option String)
    (hedge : new ∈ allowedJobTransitions expected) (hj : d.job id = some j) (hs : j.status = expected) :
    (trySwap now job id expected new err).run d
      = (.ok true, d.setJob id (j.transitioned now new err none)) := by
  have hrun := transition_run now (some job) [expected] new err none (by simpa using hedge) hj
    (by simpa using hs)
  simp [trySwap, hrun]

/-- A flush of the row that is there overwrites it. -/
theorem flushJob_run {new : Job} {columns : Job → Job} (hj : d.job id = some job)
    (hcol : columns job = new) : (flushJob id job new columns).run d = (.ok new, d.setJob id new) := by
  unfold flushJob
  simp only [Txn.run_ite]
  split
  · next h => subst h; rw [Db.setJob_self hj]; rfl
  · simp [Db.modifyJob_eq_setJob hj, hcol]

theorem updateJobAnalysis_run {a : Analysis} (hj : d.job id = some job) :
    (updateJobAnalysis id job a p).run d = (.ok (job.analysed a p), d.setJob id (job.analysed a p)) :=
  flushJob_run hj (by simp [Job.analysed])

theorem updateJobAssignment_run (hj : d.job id = some job) :
    (updateJobAssignment id job p).run d
      = (.ok { job with assignedPrinter := some p }, d.setJob id { job with assignedPrinter := some p }) :=
  flushJob_run hj (by simp)

theorem updateJobSliced_run {path : String} {est : Option Nat} (hj : d.job id = some job) :
    (updateJobSliced id job path est).run d
      = (.ok { job with slicedPath := some path, estimatedMinutes := est },
          d.setJob id { job with slicedPath := some path, estimatedMinutes := est }) :=
  flushJob_run hj (by simp)

theorem updateJobProgress_run {progress : Int} (hj : d.job id = some job) :
    (updateJobProgress id job progress).run d
      = (.ok { job with printProgress := clampProgress progress },
          d.setJob id { job with printProgress := clampProgress progress }) :=
  flushJob_run hj (by simp)

theorem updateJobPlateCleared_run (now : Time) (hj : d.job id = some job) :
    (updateJobPlateCleared now id job).run d
      = (.ok { job with plateClearedAt := some now }, d.setJob id { job with plateClearedAt := some now }) :=
  flushJob_run hj (by simp)

/-- A flush of the printer row that is there overwrites it. -/
theorem flushPrinter_run {loaded new : PrinterState} (hp : d.printers p = loaded) :
    (flushPrinter p loaded new).run d = (.ok new, d.setPrinter p new) := by
  unfold flushPrinter
  simp only [Txn.run_ite]
  split
  · next h => subst h; rw [← hp, Db.setPrinter_self]; rfl
  · have hcol : PrinterState.columns loaded new (d.printers p) = new := by
      simp [PrinterState.columns, hp]
    simp only [Txn.run_bind, Txn.run_exec, Txn.run_pure, Db.setPrinter, Db.modifyPrinter, hcol]

theorem updatePrinterState_run (now : Time) (set : PrinterState → PrinterState) {state : PrinterState}
    (hp : d.printers p = state) :
    (updatePrinterState now p state set).run d
      = (.ok { set state with lastSeen := some now },
          d.setPrinter p { set state with lastSeen := some now }) :=
  flushPrinter_run hp

theorem loadAndUpdatePrinterState_run {set : PrinterState → PrinterState} :
    (loadAndUpdatePrinterState now p set).run d
      = (.ok (some { set (d.printers p) with lastSeen := some now }),
          d.setPrinter p { set (d.printers p) with lastSeen := some now }) := by
  simp [loadAndUpdatePrinterState, getPrinterState, updatePrinterState_run now set rfl]

theorem setPlateCleared_run {state : PrinterState} (hp : d.printers p = state) :
    (setPlateCleared p state).run d
      = (.ok { state with plateCleared := true }, d.setPrinter p { state with plateCleared := true }) :=
  flushPrinter_run hp

@[simp] theorem addLog_run {event message : String} {level : LogLevel} {jobId : Option JobId}
    {printerId : Option String} {extra : Option Analysis} :
    (addLog now event message level jobId printerId extra).run d
      = (.ok (), d.insertLog
          { timestamp := now, level := level, event := event, message := message, jobId := jobId,
            printerId := printerId, extra := extra }) := rfl

section create

variable {userName userEmail originalFilename stlPath : String} {description : Option String}

/-- **The INSERT** goes through if the id is free. -/
theorem createJob_new (hj : d.job id = none) :
    (createJob now id userName userEmail description originalFilename stlPath).run d
      = (.ok (Job.submitted now userName userEmail description originalFilename stlPath),
          d.insertJob id (Job.submitted now userName userEmail description originalFilename stlPath)) := by
  unfold createJob
  rw [Txn.run_bind, Txn.run_exec, hj]
  rfl

theorem createJob_taken (hj : d.job id = some j) :
    ∃ d', (createJob now id userName userEmail description originalFilename stlPath).run d
      = (.error (.other "UNIQUE constraint failed: jobs.id"), d') := by
  unfold createJob
  rw [Txn.run_bind, Txn.run_exec, hj]
  exact ⟨_, rfl⟩

end create

@[simp] theorem getJob_run : (getJob id).run d = (.ok (d.job id), d) := rfl

@[simp] theorem getPrinterState_run : (getPrinterState p).run d = (.ok (some (d.printers p)), d) := rfl

theorem getJobsInStatuses_run (d : Db) (statuses : List JobStatus) :
    (getJobsInStatuses statuses).run d
      = (.ok (d.jobsWhere (fun j => j.status ∈ statuses) bySubmission), d) := rfl

theorem getJobsByStatus_run (d : Db) (status : JobStatus) :
    (getJobsByStatus status).run d = (.ok (d.jobsWhere (fun j => j.status = status) bySubmission), d) := rfl

/-- A query lists exactly the rows that satisfy its condition. -/
theorem mem_jobsWhere {q : Job → Bool} {le : JobId × Job → JobId × Job → Bool} :
    (id, j) ∈ d.jobsWhere q le ↔ d.job id = some j ∧ q j = true := by
  unfold Db.jobsWhere Db.job
  rw [List.mem_insertionSort, List.mem_filter, Table.mem_rows_iff]

/-- A query lists no row twice. -/
theorem Db.jobsWhere_nodup (d : Db) (q : Job → Bool) (le : JobId × Job → JobId × Job → Bool) :
    ((d.jobsWhere q le).map Prod.fst).Nodup := by
  have hperm := (List.perm_insertionSort (fun a b => le a b = true) (d.jobs.rows.filter fun r => q r.2)).map
    Prod.fst
  exact hperm.nodup_iff.mpr (d.jobs.nodup.sublist (List.filter_sublist.map Prod.fst))

end spec

end BambuBabu
