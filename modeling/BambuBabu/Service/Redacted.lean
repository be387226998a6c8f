import BambuBabu.Api.Responses
import BambuBabu.Service.Step
import BambuBabu.Storage.Image

/-!
# `Service.Redacted` — the service without the e-mail addresses

The address of a user is stored with the job and read by the mailer. Here it is blanked out, and every transaction
turns out to do the same without it: `*_blind` says so for each operation and each transaction.

* `Db.redacted` — the database without the addresses;
* `Service.step_redacted` — **a step commutes with blanking out the addresses**.
-/

namespace BambuBabu

open Storage

/-! ## What is blanked out -/

def Job.redacted (j : Job) : Job := { j with userEmail := "" }

/-- A row of the job table. -/
def redactedRow (row : JobId × Job) : JobId × Job := (row.1, row.2.redacted)

def Db.redacted (d : Db) : Db := { d with jobs := d.jobs.map Job.redacted }

def UploadForm.redacted (form : UploadForm) : UploadForm := { form with userEmail := "" }

def Event.redacted : Event → Event
  | .upload id form => .upload id form.redacted
  | e => e

def Service.redacted (s : Service) : Service := { s with db := s.db.redacted }

/-- The program does on a redacted database what it does on the database itself. -/
abbrev Blind {α β : Type} (φ : α → β) (t : Tx α) (t' : Tx β) : Prop := t.Maps Db.redacted φ t'

section db

variable (d : Db) (id : JobId)

@[simp] theorem Db.job_redacted : d.redacted.job id = (d.job id).map Job.redacted := Table.get_map ..

@[simp] theorem Db.printers_redacted : d.redacted.printers = d.printers := rfl

@[simp] theorem Db.logs_redacted : d.redacted.logs = d.logs := rfl

variable {d id}

/-- A write of a row that does not depend on the address. -/
theorem Db.modifyJob_redacted {g g' : Job → Job} (hg : ∀ j : Job, g' j.redacted = (g j).redacted) :
    d.redacted.modifyJob id g' = (d.modifyJob id g).redacted := by
  unfold modifyJob redacted
  dsimp only
  rw [Table.map_modify hg]

/-- A query that does not look at the addresses. -/
theorem Db.jobsWhere_redacted {p : Job → Bool} {le : JobId × Job → JobId × Job → Bool}
    (hp : ∀ j : Job, p j.redacted = p j) (hle : ∀ a b, le (redactedRow a) (redactedRow b) = le a b) :
    d.redacted.jobsWhere p le = (d.jobsWhere p le).map redactedRow :=
  Table.map_sorted hp hle

/-- Blanking out one address loses no other difference. -/
theorem Job.redacted_inj {a b : Job} (h : a.userEmail = b.userEmail) : a.redacted = b.redacted ↔ a = b := by
  refine ⟨fun hred => ?_, congrArg _⟩
  have hback : ∀ j : Job, j = { j.redacted with userEmail := j.userEmail } := fun _ => rfl
  rw [hback a, hback b, hred, h]

theorem byEstimate_redacted (a b : JobId × Job) : byEstimate (redactedRow a) (redactedRow b) = byEstimate a b := rfl

end db

/-! ## The operations -/

section operations

variable {α : Type} {now : Time} {k : JobId} {p : PrinterID}

theorem getJob_blind : Blind (Option.map Job.redacted) (getJob k) (getJob k) := .select fun d => d.job_redacted k

theorem getPrinterState_blind : Blind id (getPrinterState p) (getPrinterState p) := .select fun _ => rfl

/-- Most blocks read a job and return when there is none. -/
theorem block_blind {f f' : Option Job → Tx α} (hnone : Blind id (f none) (f' none))
    (hsome : ∀ j : Job, Blind id (f (some j)) (f' (some j.redacted))) :
    Blind id (getJob k >>= f) (getJob k >>= f') :=
  getJob_blind.bind fun job => by
    cases job with
    | none => exact hnone
    | some j => exact hsome j

theorem statusIn_redacted (d : Db) (ss : List JobStatus) : d.redacted.statusIn k ss = d.statusIn k ss := by
  unfold Db.statusIn
  rw [Db.job_redacted, Option.any_map]
  rfl

/-- **The swap.** -/
theorem transition_blind {loaded : Option Job} {expected : List JobStatus} {new : JobStatus}
    {err rej : Option String} :
    Blind Job.redacted (transitionJobStatus now loaded k expected new err rej)
      (transitionJobStatus now (loaded.map Job.redacted) k expected new err rej) := by
  refine .ite Iff.rfl (fun _ => .throw) fun _ => ?_
  refine Txn.Maps.bind (φ := id) (.exec (fun d => Db.modifyJob_redacted fun j => ?_) fun d =>
    statusIn_redacted d expected) fun matched => getJob_blind.bind fun current => ?_
  · by_cases hs : j.status ∈ expected
    · rw [if_pos hs, if_pos (show j.redacted.status ∈ expected from hs)]
      rfl
    · rw [if_neg hs, if_neg (show j.redacted.status ∉ expected from hs)]
  · refine .ite Iff.rfl (fun _ => ?_) fun _ => ?_
    · cases current with
      | none => exact .throw
      | some job => exact .pure rfl
    · have hactual : ((loaded.map Job.redacted <|> current.map Job.redacted).map fun j : Job => j.status.value)
          = (loaded <|> current).map fun j => j.status.value := by
        cases loaded <;> cases current <;> rfl
      dsimp only
      rw [hactual]
      exact .throw

/-- A swap that the caller loads the row for. -/
theorem swap_blind {job : Job} {expected : List JobStatus} {new : JobStatus} {err rej : Option String} :
    Blind Job.redacted (transitionJobStatus now (some job) k expected new err rej)
      (transitionJobStatus now (some job.redacted) k expected new err rej) :=
  transition_blind

theorem trySwap_blind {job : Job} {expected new : JobStatus} {err : Option String} :
    Blind id (trySwap now job k expected new err) (trySwap now job.redacted k expected new err) := by
  refine .tryCatch (swap_blind.bind fun _ => .pure rfl) fun e => ?_
  cases e with
  | jobTransitionError m => exact .pure rfl
  | _ => exact .throw

theorem flushJob_blind {loaded new : Job} {columns columns' : Job → Job} (hmail : new.userEmail = loaded.userEmail)
    (hcol : ∀ j : Job, columns' j.redacted = (columns j).redacted) :
    Blind Job.redacted (flushJob k loaded new columns) (flushJob k loaded.redacted new.redacted columns') :=
  .ite (Job.redacted_inj hmail) (fun _ => .pure rfl) fun _ =>
    Txn.Maps.bind (φ := id) (.exec (fun _ => Db.modifyJob_redacted hcol) fun _ => rfl) fun _ => .pure rfl

theorem flushPrinter_blind {loaded new : PrinterState} :
    Blind id (flushPrinter p loaded new) (flushPrinter p loaded new) :=
  .ite Iff.rfl (fun _ => .pure rfl) fun _ =>
    Txn.Maps.bind (φ := id) (.exec (fun _ => rfl) fun _ => rfl) fun _ => .pure rfl

theorem loadAndUpdatePrinterState_blind {set : PrinterState → PrinterState} :
    Blind id (loadAndUpdatePrinterState now p set) (loadAndUpdatePrinterState now p set) :=
  getPrinterState_blind.bind fun st => by
    cases st with
    | none => exact .pure rfl
    | some st => exact flushPrinter_blind.bind fun _ => .pure rfl

theorem addLog_blind {event message : String} {level : LogLevel} {jobId : Option JobId} {printerId : Option String}
    {extra : Option Analysis} :
    Blind id (addLog now event message level jobId printerId extra)
      (addLog now event message level jobId printerId extra) :=
  .exec (fun _ => rfl) fun _ => rfl

/-- The log entry that a block ends with, and what it returns. -/
theorem logged_blind {event message : String} {level : LogLevel} {jobId : Option JobId} {printerId : Option String}
    {extra : Option Analysis} {a : α} :
    Blind id (do addLog now event message level jobId printerId extra; pure a)
      (do addLog now event message level jobId printerId extra; pure a) :=
  addLog_blind.bind fun _ => .pure rfl

end operations

/-! ## The transactions -/

section transactions

variable {s : Settings} {now : Time} {k : JobId} {p : PrinterID}

theorem commitUpload_blind {form : UploadForm} :
    Blind id (commitUpload s now k form) (commitUpload s now k form.redacted) := by
  refine Txn.Maps.bind (φ := Job.redacted) ?_ fun job => addLog_blind
  refine Txn.Maps.bind (φ := id) (.exec (fun d => ?_) fun d => ?_) fun taken =>
    .ite Iff.rfl (fun _ => .throw) fun _ => .pure rfl
  · unfold Db.insertJob Db.redacted
    dsimp only
    rw [← Table.map_insertNew]
    rfl
  · rw [Db.job_redacted, Option.isSome_map]
    rfl

theorem cancelJob_blind : Blind id (cancelJob now k) (cancelJob now k) := by
  refine block_blind .throw fun job => Txn.Maps.bind (φ := Job.redacted) ?_ fun _ => logged_blind
  refine .tryCatch swap_blind fun e => ?_
  cases e with
  | jobTransitionError m =>
      refine getJob_blind.bind fun current => ?_
      cases current <;> exact .throw
  | _ => exact .throw

theorem cancelPendingJob_blind : Blind id (cancelPendingJob now k) (cancelPendingJob now k) :=
  block_blind (.pure rfl) fun _ => .ite Iff.rfl (fun _ => .pure rfl) fun _ => swap_blind.bind fun _ => logged_blind

theorem startAnalysis_blind : Blind id (startAnalysis now k) (startAnalysis now k) :=
  transition_blind.bind fun _ => logged_blind

theorem planSlice_blind {analysis : Analysis} {choice : Option PrinterID × Option String} :
    Blind id (planSlice now k analysis choice) (planSlice now k analysis choice) := by
  refine block_blind (.pure rfl) fun job => .ite Iff.rfl (fun _ => .pure rfl) fun _ => ?_
  obtain ⟨_ | q, _ | rejection⟩ := choice
  · exact .throw
  · exact swap_blind.bind fun _ => logged_blind
  · exact Txn.Maps.bind (φ := Job.redacted) (flushJob_blind rfl fun _ => rfl) fun _ =>
      swap_blind.bind fun _ => logged_blind
  · exact swap_blind.bind fun _ => logged_blind

theorem storeSlice_blind {path : String} {est : Option Nat} :
    Blind id (storeSlice now k p path est) (storeSlice now k p path est) :=
  block_blind (.pure rfl) fun _ => .ite Iff.rfl (fun _ => .pure rfl) fun _ =>
    Txn.Maps.bind (φ := Job.redacted) (flushJob_blind rfl fun _ => rfl) fun _ => swap_blind.bind fun _ => addLog_blind

theorem storeReslice_blind {path : String} {est : Option Nat} :
    Blind id (storeReslice now k p path est) (storeReslice now k p path est) :=
  block_blind (.pure rfl) fun _ => .ite Iff.rfl (fun _ => .pure rfl) fun _ =>
    Txn.Maps.bind (φ := Job.redacted) (flushJob_blind rfl fun _ => rfl) fun _ =>
      Txn.Maps.bind (φ := Job.redacted) (flushJob_blind rfl fun _ => rfl) fun _ =>
        swap_blind.bind fun _ => addLog_blind

theorem failJob_blind {message : String} : Blind id (failJob now k message) (failJob now k message) :=
  block_blind (.pure rfl) fun _ => .ite Iff.rfl (fun _ => .pure rfl) fun _ =>
    trySwap_blind.bind fun _ => .ite Iff.rfl (fun _ => addLog_blind) fun _ => .pure rfl

theorem checkReslice_blind : Blind id (checkReslice k) (checkReslice k) :=
  block_blind (.pure rfl) fun _ => .ite Iff.rfl (fun _ => .pure rfl) fun _ => .pure rfl

theorem abortReslice_blind {exc : String} : Blind id (abortReslice now k exc) (abortReslice now k exc) :=
  block_blind (.pure rfl) fun _ => .ite Iff.rfl (fun _ => swap_blind.bind fun _ => addLog_blind) fun _ => .pure rfl

theorem reserveCandidate_blind {target : PrinterID} {reserved : JobId → Bool} (rows : List (JobId × Job)) :
    Blind id (reserveCandidate s now target reserved rows)
      (reserveCandidate s now target reserved (rows.map redactedRow)) := by
  induction rows with
  | nil => exact .pure rfl
  | cons row rest ih =>
      obtain ⟨k, job⟩ := row
      rw [List.map_cons]
      unfold reserveCandidate redactedRow
      refine .ite Iff.rfl (fun _ => ih) fun _ => ?_
      have hsource : job.redacted.assignedPrinter = job.assignedPrinter := rfl
      rw [hsource]
      cases job.assignedPrinter with
      | none => exact .throw
      | some source =>
          exact getPrinterState_blind.bind fun _ => .ite Iff.rfl (fun _ => ih) fun _ =>
            trySwap_blind.bind fun _ => .ite Iff.rfl (fun _ => logged_blind) fun _ => ih

theorem tryScheduleFallback_blind {target : PrinterID} {reserved : JobId → Bool} :
    Blind id (tryScheduleFallback s now target reserved) (tryScheduleFallback s now target reserved) := by
  refine .ite Iff.rfl (fun _ => .pure rfl) fun _ => getPrinterState_blind.bind fun st => ?_
  cases st with
  | none => exact .pure rfl
  | some st =>
      exact .ite Iff.rfl (fun _ => .pure rfl) fun _ =>
        Txn.Maps.bind (φ := List.map redactedRow) (.select fun _ => Db.jobsWhere_redacted (fun _ => rfl)
          byEstimate_redacted) reserveCandidate_blind

theorem tryDispatch_blind : Blind id (tryDispatch s now p) (tryDispatch s now p) := by
  refine .ite Iff.rfl (fun _ => .pure rfl) fun _ => getPrinterState_blind.bind fun st => ?_
  cases st with
  | none => exact .pure rfl
  | some st =>
      refine .ite Iff.rfl (fun _ => .pure rfl) fun _ => ?_
      refine Txn.Maps.bind (φ := Option.map redactedRow) (.select fun d => ?_) fun row => ?_
      · rw [Db.jobsWhere_redacted (fun _ => rfl) byEstimate_redacted, List.head?_map]
      · cases row with
        | none => exact .pure rfl
        | some row =>
            exact trySwap_blind.bind fun _ => .ite Iff.rfl
              (fun _ => flushPrinter_blind.bind fun _ => logged_blind) fun _ => .pure rfl

theorem requestStart_blind : Blind id (requestStart now k p) (requestStart now k p) :=
  transition_blind.bind fun _ => addLog_blind

theorem confirmStart_blind : Blind id (confirmStart now k p) (confirmStart now k p) :=
  block_blind (.pure rfl) fun _ => .ite Iff.rfl
    (fun _ => swap_blind.bind fun _ => addLog_blind.bind fun _ =>
      loadAndUpdatePrinterState_blind.bind fun _ => .pure rfl)
    fun _ => .ite Iff.rfl (fun _ => .pure rfl) fun _ => loadAndUpdatePrinterState_blind.bind fun _ => .pure rfl

theorem quarantineStart_blind {exc : Exc} : Blind id (quarantineStart now k p exc) (quarantineStart now k p exc) :=
  block_blind (.pure rfl) fun _ => .ite Iff.rfl
    (fun _ => swap_blind.bind fun _ => loadAndUpdatePrinterState_blind.bind fun _ => addLog_blind)
    fun _ => .pure rfl

theorem releaseFailed_blind : Blind id (releaseFailed now k p) (releaseFailed now k p) :=
  getPrinterState_blind.bind fun st => getJob_blind.bind fun job => by
    cases st <;> cases job <;> first
      | exact .pure rfl
      | exact .ite Iff.rfl (fun _ => flushPrinter_blind.bind fun _ => .pure rfl) fun _ => .pure rfl

theorem acknowledgeChecks_blind : Blind id (acknowledgeChecks s p) (acknowledgeChecks s p) := by
  refine .ite Iff.rfl (fun _ => .throw) fun _ => getPrinterState_blind.bind fun st => ?_
  cases st with
  | none => exact .throw
  | some st =>
      exact .ite Iff.rfl (fun _ => .throw) fun _ => .ite Iff.rfl (fun _ => .throw) fun _ => .pure rfl

theorem logAcknowledged_blind : Blind id (logAcknowledged now p) (logAcknowledged now p) := addLog_blind

section callback

variable {snap : Snapshot} {state : PrinterState} {job : Job}

theorem confirmOwner_blind :
    Blind Job.redacted (confirmOwner now p snap k job) (confirmOwner now p snap k job.redacted) := by
  refine .ite Iff.rfl (fun _ => ?_) fun _ => .pure rfl
  refine .ite Iff.rfl (fun _ => ?_) fun _ => flushJob_blind rfl fun _ => rfl
  refine Txn.Maps.bind (φ := Job.redacted) ?_ fun _ => flushJob_blind rfl fun _ => rfl
  refine .tryCatch (swap_blind.bind fun _ => addLog_blind.bind fun _ => .pure rfl) fun e => ?_
  cases e with
  | jobTransitionError m => exact .pure rfl
  | _ => exact .throw

theorem quarantineOwner_blind : Blind (Prod.map id Job.redacted) (quarantineOwner now p snap state k job)
    (quarantineOwner now p snap state k job.redacted) :=
  .ite Iff.rfl (fun _ => swap_blind.bind fun _ => flushPrinter_blind.bind fun _ => addLog_blind.bind fun _ => .pure rfl)
    fun _ => .pure rfl

theorem reportTerminal_blind :
    Blind id (reportTerminal now p snap state k job) (reportTerminal now p snap state k job.redacted) := by
  have hfinished : Blind id (handlePrintFinished now p state k job) (handlePrintFinished now p state k job.redacted) :=
    swap_blind.bind fun _ => Txn.Maps.bind (φ := Job.redacted) (flushJob_blind rfl fun _ => rfl) fun _ =>
      flushPrinter_blind.bind fun _ => addLog_blind
  have hfailed : Blind id (handlePrintFailed now p state k job) (handlePrintFailed now p state k job.redacted) :=
    swap_blind.bind fun _ => flushPrinter_blind.bind fun _ => addLog_blind
  exact .ite Iff.rfl (fun _ => hfinished.bind fun _ => .pure rfl) fun _ =>
    .ite Iff.rfl (fun _ => hfailed.bind fun _ => .pure rfl) fun _ => .pure rfl

theorem onStatusUpdate_blind : Blind id (onStatusUpdate now p snap) (onStatusUpdate now p snap) := by
  refine getPrinterState_blind.bind fun st => ?_
  cases st with
  | none => exact .pure rfl
  | some st =>
      refine flushPrinter_blind.bind fun state => ?_
      show Blind id (reportToSlot now p snap state) (reportToSlot now p snap state)
      unfold reportToSlot
      cases state.currentJobId with
      | none => exact .pure rfl
      | some k =>
          exact block_blind (.pure rfl) fun _ => confirmOwner_blind.bind fun _ => quarantineOwner_blind.bind fun _ =>
            reportTerminal_blind

end callback

theorem clearPlate_blind {state : PrinterState} (current : Option (JobId × Job)) :
    Blind id (clearPlate now p state current) (clearPlate now p state (current.map redactedRow)) := by
  refine Txn.Maps.bind (φ := id) ?_ fun _ => logged_blind
  cases current with
  | none => exact flushPrinter_blind.bind fun _ => flushPrinter_blind
  | some row =>
      refine Txn.Maps.bind (φ := Job.redacted) (.ite Iff.rfl (fun _ => swap_blind) fun _ => .pure rfl) fun _ =>
        flushPrinter_blind.bind fun _ => ?_
      exact Txn.Maps.bind (φ := Job.redacted) (flushJob_blind rfl fun _ => rfl) fun _ => flushPrinter_blind

theorem markPlateCleared_blind : Blind id (markPlateCleared s now p) (markPlateCleared s now p) := by
  refine .ite Iff.rfl (fun _ => .throw) fun _ => getPrinterState_blind.bind fun st => ?_
  rcases st with _ | ⟨status, current, cleared, progress, seen, nozzle, bed⟩
  · exact .throw
  · refine .ite Iff.rfl (fun _ => .pure rfl) fun _ => .ite Iff.rfl (fun _ => .throw) fun _ => ?_
    cases current with
    | none => exact clearPlate_blind none
    | some k =>
        exact block_blind (clearPlate_blind none) fun job => .ite Iff.rfl (fun _ => .throw) fun _ =>
          clearPlate_blind (some (k, job))

section recovery

variable (row : JobId × Job)

theorem recoverRetryable_blind : Blind id (recoverRetryable now row) (recoverRetryable now (redactedRow row)) :=
  swap_blind.bind fun _ => addLog_blind

theorem quarantineInterrupted_blind :
    Blind id (quarantineInterrupted now row) (quarantineInterrupted now (redactedRow row)) := by
  refine swap_blind.bind fun _ => ?_
  have hsame : row.2.redacted.assignedPrinter = row.2.assignedPrinter := rfl
  rw [hsame]
  cases row.2.assignedPrinter with
  | none => exact addLog_blind
  | some p => exact loadAndUpdatePrinterState_blind.bind fun _ => addLog_blind

theorem restorePrinting_blind : Blind id (restorePrinting now row) (restorePrinting now (redactedRow row)) := by
  obtain ⟨k, job⟩ := row
  have hsame : job.redacted.assignedPrinter = job.assignedPrinter := rfl
  unfold restorePrinting redactedRow
  dsimp only
  rw [hsame]
  cases job.assignedPrinter with
  | none => exact .pure rfl
  | some p => exact loadAndUpdatePrinterState_blind.bind fun _ => .pure rfl

theorem repairProgress_blind : Blind id (repairProgress row) (repairProgress (redactedRow row)) :=
  .ite Iff.rfl (fun _ => Txn.Maps.bind (φ := Job.redacted) (flushJob_blind rfl fun _ => rfl) fun _ => .pure rfl)
    fun _ => .pure rfl

theorem reconcileInterruptedJobs_blind : Blind id (reconcileInterruptedJobs now) (reconcileInterruptedJobs now) := by
  have hrows : ∀ {q : Job → Bool}, (∀ j : Job, q j.redacted = q j) → Blind (List.map redactedRow)
      (Txn.select fun d => d.jobsWhere q bySubmission) (Txn.select fun d => d.jobsWhere q bySubmission) :=
    fun hq => .select fun _ => Db.jobsWhere_redacted hq fun _ _ => rfl
  refine (hrows fun _ => rfl).bind fun retryable => Txn.Maps.bind (.forM recoverRetryable_blind retryable) fun _ => ?_
  refine (hrows fun _ => rfl).bind fun ambiguous => Txn.Maps.bind (.forM quarantineInterrupted_blind ambiguous) fun _ => ?_
  refine (hrows fun _ => rfl).bind fun printing => Txn.Maps.bind (.forM restorePrinting_blind printing) fun _ => ?_
  exact (hrows fun _ => rfl).bind fun completed => .forM repairProgress_blind completed

end recovery

end transactions

/-! ## A step -/

/-- What a transaction commits, and its result. -/
theorem commit_redacted {α : Type} {t t' : Tx α} (ht : Blind id t t') (d : Db) :
    t'.commit d.redacted = ((t.commit d).1, (t.commit d).2.redacted) := by
  rw [ht.commit]
  rcases (t.commit d).1 with e | a <;> rfl

theorem pendingIds_redacted (d : Db) : (d.redacted.jobsWhere (fun j => j.status = .pending) bySubmission).map Prod.fst
    = (d.jobsWhere (fun j => j.status = .pending) bySubmission).map Prod.fst := by
  rw [Db.jobsWhere_redacted (fun _ => rfl) fun _ _ => rfl, List.map_map]
  rfl

namespace Service

variable (s : Service)

theorem submitSlice_redacted (k : JobId) (task : SliceTask) :
    s.redacted.submitSlice k task = (s.submitSlice k task).redacted := by
  unfold submitSlice
  show (if s.reserved k = true then _ else _) = _
  split <;> rfl

theorem tickStep_redacted : s.redacted.tickStep = s.tickStep.redacted := by
  obtain ⟨cfg, phase, now, d, live, pending, slices, handoffs, loop, history⟩ := s
  cases loop with
  | sleeping =>
      simp only [redacted, tickStep, pendingIds_redacted]
  | submitting ids =>
      cases ids with
      | nil => rfl
      | cons k rest =>
          exact congrArg (fun t : Service => { t with loop := .submitting rest }) (submitSlice_redacted _ k .start)
  | dispatching ps =>
      cases ps with
      | nil => rfl
      | cons p rest =>
          simp only [redacted, tickStep, commit_redacted tryDispatch_blind]
          rcases (tryDispatch cfg now p).commit d with ⟨e | _ | ⟨k, path⟩, d'⟩ <;> rfl
  | fallback p rest =>
      simp only [redacted, tickStep]
      delta reserved
      simp only [commit_redacted tryScheduleFallback_blind]
      rcases (tryScheduleFallback cfg now p fun k => (slices k).isSome).commit d with ⟨e | _ | k, d'⟩ <;> rfl

theorem liveStep_redacted (p : PrinterID) (e : LiveEvent) :
    s.redacted.liveStep p e = (s.liveStep p e).map redacted := by
  cases e with
  | connectMqtt =>
      simp only [liveStep]
      show (if s.networkIdle p = true then _ else _) = _
      split <;> rfl
  | connectFailed => rfl
  | onConnect rc =>
      simp only [liveStep]
      show (if ((s.live p).client && s.networkIdle p) = true then _ else _) = _
      split <;> rfl
  | onDisconnect =>
      simp only [liveStep]
      show (if ((s.live p).client && s.networkIdle p) = true then _ else _) = _
      split <;> rfl
  | message report =>
      simp only [liveStep]
      show (if ((s.live p).client && s.networkIdle p) = true then _ else _) = _
      split <;> rfl

theorem processSnapshot_redacted (p : PrinterID) (snap : Snapshot) :
    s.redacted.processSnapshot p snap = (s.processSnapshot p snap).redacted := by
  simp only [processSnapshot, redacted, commitDb, record, commit_redacted onStatusUpdate_blind]

theorem callbackStep_redacted (i : Nat) : s.redacted.callbackStep i = (s.callbackStep i).map redacted := by
  unfold callbackStep
  have hpending : s.redacted.pending = s.pending := rfl
  rw [hpending]
  cases s.pending[i]? with
  | none => rfl
  | some pc =>
      obtain ⟨p, c⟩ := pc
      let rest : Service := { s with pending := s.pending.eraseIdx i }
      cases c with
      | report snap => exact congrArg some (rest.processSnapshot_redacted p snap)
      | disconnected snap => exact congrArg some (rest.processSnapshot_redacted p snap)
      | acknowledging =>
          have hlive : s.redacted.live = s.live := rfl
          dsimp only
          rw [hlive]
          cases (s.live p).acknowledgePhysicallyIdle p <;> rfl
      | acknowledged snap =>
          exact congrArg (fun t : Service => some (t.addCallback p .acknowledgeLog)) (rest.processSnapshot_redacted p snap)
      | acknowledgeLog =>
          simp only [redacted, commitDb, commit_redacted logAcknowledged_blind, Option.map_some]

theorem acknowledgeIdle_redacted (p : PrinterID) : s.redacted.acknowledgeIdle p = (s.acknowledgeIdle p).redacted := by
  obtain ⟨cfg, phase, now, d, live, pending, slices, handoffs, loop, history⟩ := s
  simp only [redacted, acknowledgeIdle, commit_redacted acknowledgeChecks_blind]
  rcases (acknowledgeChecks cfg p).commit d with ⟨e | a, d'⟩ <;> rfl

theorem sliceStep_redacted (k : JobId) (task : SliceTask) (e : SliceEvent) :
    s.redacted.sliceStep k task e = (s.sliceStep k task e).map redacted := by
  -- each block is blind to the addresses, and a worker's position holds none
  obtain ⟨cfg, phase, now, d, live, pending, slices, handoffs, loop, history⟩ := s
  cases task with
  | start =>
      cases e with
      | next =>
          simp only [redacted, sliceStep, commit_redacted startAnalysis_blind]
          rcases (startAnalysis now k).commit d with ⟨e | stl, d'⟩ <;> rfl
      | _ => rfl
  | analyse stl =>
      cases e with
      | analysed r => cases r <;> rfl
      | _ => rfl
  | plan stl a =>
      cases e with
      | next =>
          simp only [redacted, sliceStep, commit_redacted planSlice_blind]
          rcases (planSlice now k a (selectPrinter cfg a)).commit d with ⟨e | _ | _, d'⟩ <;>
            cases (selectPrinter cfg a).1 <;> rfl
      | _ => rfl
  | slice stl p =>
      cases e with
      | sliced o =>
          simp only [redacted, sliceStep]
          rcases sliceStl cfg stl p o with m | ⟨path, est⟩ <;> rfl
      | _ => rfl
  | store p path est =>
      cases e with
      | next =>
          simp only [redacted, sliceStep, commit_redacted storeSlice_blind]
          rcases (storeSlice now k p path est).commit d with ⟨e | _, d'⟩ <;> rfl
      | _ => rfl
  | failing m =>
      cases e with
      | next =>
          simp only [redacted, sliceStep, commit_redacted failJob_blind]
          rfl
      | _ => rfl
  | recheck p =>
      cases e with
      | next =>
          simp only [redacted, sliceStep, commit_redacted checkReslice_blind]
          rcases (checkReslice k).commit d with ⟨e | _ | stl, d'⟩ <;> rfl
      | _ => rfl
  | reslice stl p =>
      cases e with
      | sliced o =>
          simp only [redacted, sliceStep]
          rcases sliceStl cfg stl p o with m | ⟨path, est⟩ <;> rfl
      | _ => rfl
  | restore p path est =>
      cases e with
      | next =>
          simp only [redacted, sliceStep, commit_redacted storeReslice_blind]
          rcases (storeReslice now k p path est).commit d with ⟨e | _, d'⟩ <;> rfl
      | _ => rfl
  | aborting m =>
      cases e with
      | next =>
          simp only [redacted, sliceStep, commit_redacted abortReslice_blind]
          rfl
      | _ => rfl
  | finished => cases e <;> rfl

theorem handoffStep_redacted (i : Nat) (h : Handoff) (e : HandoffEvent) :
    s.redacted.handoffStep i h e = (s.handoffStep i h e).map redacted := by
  obtain ⟨cfg, phase, now, d, live, pending, slices, handoffs, loop, history⟩ := s
  obtain ⟨k, p, path, pc⟩ := h
  cases pc with
  | begin =>
      cases e with
      | next =>
          simp only [redacted, handoffStep]
          cases uploadArgument cfg ⟨k, p, path, .begin⟩ <;> rfl
      | _ => rfl
  | transfer =>
      cases e with
      | transferred failure => cases failure <;> rfl
      | _ => rfl
  | request =>
      cases e with
      | next =>
          simp only [redacted, handoffStep, commit_redacted requestStart_blind]
          rcases (requestStart now k p).commit d with ⟨e | _, d'⟩ <;> rfl
      | _ => rfl
  | check =>
      cases e with
      | next =>
          simp only [redacted, handoffStep]
          rcases (live p).startCheck p with e | ⟨baseline, c⟩ <;> rfl
      | _ => rfl
  | publish baseline =>
      cases e with
      | next =>
          simp only [redacted, handoffStep]
          cases (live p).publishGate p <;> rfl
      | _ => rfl
  | published baseline =>
      cases e with
      | answered o =>
          simp only [redacted, handoffStep]
          cases startPublished o <;> rfl
      | _ => rfl
  | await baseline =>
      cases e with
      | awaited timedOut =>
          simp only [redacted, handoffStep]
          rcases (live p).startWait cfg baseline timedOut with _ | e | _ <;> rfl
      | _ => rfl
  | confirm =>
      cases e with
      | next =>
          simp only [redacted, handoffStep, commit_redacted confirmStart_blind]
          rcases (confirmStart now k p).commit d with ⟨e | _, d'⟩ <;> rfl
      | _ => rfl
  | ambiguous exc =>
      cases e with
      | next =>
          simp only [redacted, handoffStep, commit_redacted quarantineStart_blind]
          rfl
      | _ => rfl
  | failing exc =>
      cases e with
      | next =>
          simp only [redacted, handoffStep, commit_redacted failJob_blind]
          rfl
      | _ => rfl
  | releasing =>
      cases e with
      | next =>
          simp only [redacted, handoffStep, commit_redacted releaseFailed_blind]
          rfl
      | _ => rfl

/-- **A step commutes with blanking out the addresses**: none of them decides whether it is possible, or anything that
    it leaves. -/
theorem step_redacted (e : Event) : s.redacted.step e.redacted = (s.step e).map redacted := by
  have hphase : s.redacted.phase = s.phase := rfl
  unfold step
  rw [hphase]
  cases hp : s.phase with
  | down =>
      cases e with
      | clock now => rfl
      | boot cfg =>
          simp only [Event.redacted]
          cases cfg.validateRuntime <;> rfl
      | offlineCancel k =>
          simp only [Event.redacted, redacted, commitDb, commit_redacted cancelPendingJob_blind, Option.map_some]
      | _ => rfl
  | booting =>
      cases e with
      | clock now => rfl
      | crash => rfl
      | reconcile =>
          simp only [Event.redacted]
          have hclock : s.redacted.clock = s.clock := rfl
          have hdb : s.redacted.db = s.db.redacted := rfl
          rw [hclock, hdb, commit_redacted reconcileInterruptedJobs_blind]
          rcases (reconcileInterruptedJobs s.clock).commit s.db with ⟨e | _, d⟩ <;> rfl
      | live p e =>
          simp only [Event.redacted]
          show (if s.settings.livePrinterEnabled p = true then _ else _) = _
          rw [liveStep_redacted]
          split <;> rfl
      | callback i => exact s.callbackStep_redacted i
      | _ => rfl
  | running =>
      cases e with
      | clock now => rfl
      | crash => rfl
      | live p e =>
          simp only [Event.redacted]
          show (if s.settings.livePrinterEnabled p = true then _ else _) = _
          rw [liveStep_redacted]
          split <;> rfl
      | callback i => exact s.callbackStep_redacted i
      | upload k form =>
          simp only [Event.redacted, redacted, commitDb, commit_redacted commitUpload_blind, Option.map_some]
      | cancel k =>
          simp only [Event.redacted, redacted, commitDb, commit_redacted cancelJob_blind, Option.map_some]
      | plateCleared p =>
          simp only [Event.redacted, redacted, commitDb, commit_redacted markPlateCleared_blind, Option.map_some]
      | acknowledgeIdle p => exact congrArg some (s.acknowledgeIdle_redacted p)
      | tick => exact congrArg some s.tickStep_redacted
      | slice k e =>
          simp only [Event.redacted]
          have hslices : s.redacted.slices = s.slices := rfl
          rw [hslices]
          cases s.slices k with
          | none => rfl
          | some task => exact s.sliceStep_redacted k task e
      | handoff i e =>
          simp only [Event.redacted]
          have hhandoffs : s.redacted.handoffs = s.handoffs := rfl
          rw [hhandoffs]
          cases s.handoffs[i]? with
          | none => rfl
          | some h => exact s.handoffStep_redacted i h e
      | _ => rfl

end Service

end BambuBabu
