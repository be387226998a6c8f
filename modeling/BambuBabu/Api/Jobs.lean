import BambuBabu.Core.Config
import BambuBabu.Db.Crud

/-!
# `Api.Jobs` — the write endpoints of `backend/api/jobs.py`
-/

namespace BambuBabu

open Storage

def cancellable : List JobStatus := [.pending, .analysing, .slicing, .queued]

/-- The form values of an upload, after `upload_job` has normalised them. -/
structure UploadForm where
  userName : String
  userEmail : String
  description : Option String
  originalFilename : String
  deriving DecidableEq

/-- `settings.UPLOAD_DIR / f"{job_id}.stl"` -/
def uploadPath (s : Settings) (id : JobId) : String := s!"{s.uploadDir}/{id}.stl"

/-- The transaction an accepted upload ends in. -/
def commitUpload (s : Settings) (now : Time) (id : JobId) (form : UploadForm) : Tx Unit := do
  let job ← createJob now id form.userName form.userEmail form.description form.originalFilename
    (uploadPath s id)
  addLog now "JOB_UPLOADED" s!"{form.originalFilename} uploaded by {job.userName}" .info (some id) none none

/-- `cancel_job`: one compare-and-swap out of the cancellable statuses. -/
def cancelJob (now : Time) (id : JobId) : Tx String := do
  match ← getJob id with
  | none => throw (.httpException 404 "Job not found")
  | some job =>
    let _ ← tryCatch (transitionJobStatus now (some job) id cancellable .cancelled none none)
      fun e => match e with
        | .jobTransitionError _ => do
          let current ← getJob id
          let status := (current.map fun j => j.status.value).getD "missing"
          throw (.httpException 409 s!"Cannot cancel a job in '{status}' state")
        | e => throw e
    addLog now "JOB_CANCELLED" "Cancelled by user" .info (some id) none none
    pure "Job cancelled"

/-- The commit of `scripts/cancel_pending_job.py`, which runs while the service is stopped; it refuses a
    job that is not cancellable. -/
def cancelPendingJob (now : Time) (id : JobId) : Tx Bool := do
  match ← getJob id with
  | none => pure false
  | some job =>
    if job.status ∉ cancellable then pure false
    else
      let _ ← transitionJobStatus now (some job) id [job.status] .cancelled none none
      addLog now "JOB_CANCELLED" "Cancelled by offline operator recovery tool before printer handoff" .info
        (some id) none none
      pure true

/-! ## An upload -/

variable {s : Settings} {now : Time} {d : Db} {id : JobId} {form : UploadForm} {j : Job}

/-- It adds a row and a log entry. -/
theorem commitUpload_new (hj : d.job id = none) : (commitUpload s now id form).run d
    = (.ok (), (d.insertJob id (Job.submitted now form.userName form.userEmail form.description
        form.originalFilename (uploadPath s id))).insertLog
        { timestamp := now, level := .info, event := "JOB_UPLOADED",
          message := s!"{form.originalFilename} uploaded by {form.userName}", jobId := some id,
          printerId := none, extra := none }) := by
  unfold commitUpload
  rw [Txn.run_bind_of_ok (createJob_new hj)]
  rfl

/-- Under an id that is taken it raises. -/
theorem commitUpload_taken (hj : d.job id = some j) :
    ∃ d', (commitUpload s now id form).run d = (.error (.other "UNIQUE constraint failed: jobs.id"), d') := by
  obtain ⟨d', hrun⟩ := createJob_taken hj
  exact ⟨d', by unfold commitUpload; rw [Txn.run_bind_of_error hrun]⟩

end BambuBabu
