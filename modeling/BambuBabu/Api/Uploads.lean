import BambuBabu.Api.Jobs

/-!
# `Api.Uploads` — `upload_job` between its awaits

`upload_job` waits for `UPLOAD_LOCK` and, holding it, for every chunk of the file. What it runs between two
awaits is one definition here. The checks of the form come before the first await and touch nothing shared; the
size of the storage, the chunks and the outcome of validating the file are inputs.
-/

namespace BambuBabu

open Storage

/-- The settings that bound an upload. -/
structure UploadLimits where
  maxActiveJobs : Nat
  maxStlSizeMb : Nat
  maxStorageMb : Nat

/-- `MAX_BYTES` -/
def UploadLimits.maxBytes (limits : UploadLimits) : Nat := limits.maxStlSizeMb * 1024 * 1024

/-- `storage_limit` -/
def UploadLimits.storageLimit (limits : UploadLimits) : Nat := limits.maxStorageMb * 1024 * 1024

/-- The checks a request makes as soon as it holds the lock; `storage` is `_storage_bytes()`. -/
def admitUpload (limits : UploadLimits) (storage : Nat) : Tx Unit := do
  let active ← countActiveJobs
  if active ≥ limits.maxActiveJobs then
    throw (.httpException 429 "The print queue is at capacity; try again later")
  else if storage ≥ limits.storageLimit then
    throw (.httpException 507 "Print storage quota is exhausted")
  else pure ()

/-- One iteration of the loop of `_stream_upload`: what has been written after a chunk. -/
def receiveChunk (limits : UploadLimits) (written chunk : Nat) : Except Exc Nat :=
  if written + chunk > limits.maxBytes then
    .error (.httpException 413 s!"File exceeds the {limits.maxStlSizeMb} MB limit")
  else .ok (written + chunk)

/-- What a request does once its file is complete. `stored` is how `_validate_stl_file` and the move of the file
    to its final name end. -/
def acceptUpload (limits : UploadLimits) (storage written : Nat) (stored : Except Exc Unit) (s : Settings)
    (now : Time) (id : JobId) (form : UploadForm) : Tx Unit :=
  if storage + written > limits.storageLimit then
    throw (.httpException 507 "Upload would exceed the print storage quota")
  else
    match stored with
    | .error e => throw e
    | .ok _ => commitUpload s now id form

variable {limits : UploadLimits} {d : Db}

/-- Who is admitted found room. -/
theorem admitUpload_ok {storage : Nat} {d' : Db} (h : (admitUpload limits storage).commit d = (.ok (), d')) :
    d.countActiveJobs < limits.maxActiveJobs := by
  have hrun := Txn.run_of_commit_ok h
  unfold admitUpload at hrun
  rw [Txn.run_bind_of_ok (show countActiveJobs.run d = (.ok d.countActiveJobs, d) from rfl)] at hrun
  split at hrun
  · cases hrun
  · next hroom => exact Nat.not_le.mp hroom

/-- A request that is not accepted leaves the database alone. -/
theorem acceptUpload_commit (limits : UploadLimits) (d : Db) (storage written : Nat) (stored : Except Exc Unit)
    (s : Settings) (now : Time)
    (id : JobId) (form : UploadForm) :
    ((acceptUpload limits storage written stored s now id form).commit d).2 = d ∨
      acceptUpload limits storage written stored s now id form = commitUpload s now id form := by
  unfold acceptUpload
  split
  · exact .inl rfl
  · cases stored with
    | error e => exact .inl rfl
    | ok => exact .inr rfl

end BambuBabu
