import Mathlib.Data.List.Infix
import BambuBabu.Api.Uploads
import BambuBabu.Core.Slicer
import BambuBabu.Core.Text
import BambuBabu.Runs.Code
import BambuBabu.Storage.Files

/-!
# `Api.UploadJob` — one upload request, operation by operation

`upload_job` with everything it calls, over the files and the database it finds. Every operation of the request
that can raise has a point (`UploadPoint`), and `fails` says at which points the environment lets it raise; the
exceptions of the checks come on top. What has been done stays done: the handlers of the source are all there is to
undo it.

* `uploadJob` — the endpoint; `handleUpload` — the endpoint inside `get_db`.
* `streamUpload`, `validateStlFile`, `storageBytes` — its helpers.
-/

namespace BambuBabu

open Storage Runs

abbrev Bytes := List UInt8

/-! ## The form -/

/-- `value.split()` -/
def words (value : String) : List (List Char) := (value.toList.splitOnP isSpace).filter (· ≠ [])

/-- Remove control characters from values that reach logs, HTML, or headers. -/
def singleLine (value : String) (limit : Nat) : String :=
  let joined := [' '].intercalate (words value)
  String.ofList (((joined.take limit).dropWhile isSpace).reverse.dropWhile isSpace).reverse

/-- `Path(value).name` of any text: the last component that is neither empty nor a dot. -/
def fileName (value : String) : String :=
  String.ofList ((((value.toList.splitOnP (· = '/')).filter (· ∉ [[], ['.']])).getLast?).getD [])

/-- `Path(value).suffix`: from the last dot of the name on, unless that is its first or last character. -/
def fileSuffix (value : String) : String :=
  let name := (fileName value).toList
  let suffix := name.reverse.takeWhile (· ≠ '.')
  if suffix.isEmpty || name.length ≤ suffix.length + 1 then ""
  else String.ofList (name.drop (name.length - suffix.length - 1))

/-- A chunk that `file.read` returned; the empty read that ends the file is not one. -/
structure Chunk where
  bytes : Bytes
  nonempty : bytes ≠ []

/-- The form of a request as it arrives, and its file. -/
structure UploadRequest where
  filename : Option String
  userName : String
  userEmail : String
  description : String
  chunks : List Chunk

/-- What the file holds. -/
def UploadRequest.content (r : UploadRequest) : Bytes := r.chunks.flatMap Chunk.bytes

/-- The checks `upload_job` makes on its form. `emailStr` is `EmailStr`'s validation, followed by `lower()`. -/
def UploadRequest.form (emailStr : String → Option String) (r : UploadRequest) : Except Exc UploadForm :=
  let originalFilename := singleLine (fileName (r.filename.getD "")) 256
  if originalFilename = "" ∨ (fileSuffix originalFilename).toLower ≠ ".stl" then
    .error (.httpException 400 "Only .stl files are accepted")
  else
    match emailStr r.userEmail with
    | none => .error (.httpException 422 "A valid email address is required")
    | some normalizedEmail =>
        let safeName := singleLine r.userName 128
        let safeDescription := singleLine r.description 2000
        if safeName = "" then .error (.httpException 422 "A non-empty name is required")
        else
          .ok { userName := safeName
                userEmail := normalizedEmail
                description := if safeDescription = "" then none else some safeDescription
                originalFilename := originalFilename }

/-! ## The file -/

/-- `struct.unpack("<I", …)` -/
def littleEndian (bs : Bytes) : Nat := bs.foldr (fun b n => b.toNat + 256 * n) 0

/-- `bytes.lower()` -/
def lowerBytes (bs : Bytes) : Bytes := bs.map fun b => if 65 ≤ b ∧ b ≤ 90 then b + 32 else b

/-- `b"solid"` -/
def solidMark : Bytes := [115, 111, 108, 105, 100]

/-- `b"endsolid"` -/
def endsolidMark : Bytes := [101, 110, 100] ++ solidMark

/-- `_validate_stl_file`: a binary STL has the length its triangle count says, an ASCII one the two marks. -/
def validateStlFile (content : Bytes) : Except Exc Unit :=
  if content.length < 84 then .error (.httpException 400 "File is too small to be a valid STL")
  else if 84 + littleEndian ((content.drop 80).take 4) * 50 = content.length then .ok ()
  else if lowerBytes (content.take 5) = solidMark ∧
      endsolidMark <:+: lowerBytes (content.drop (content.length - 4096)) then .ok ()
  else .error (.httpException 400 "STL structure is invalid or truncated")

/-- `settings.UPLOAD_DIR / f"{job_id}.stl.part"` -/
def partialPath (s : Settings) (id : JobId) : String := s!"{s.uploadDir}/{id}.stl.part"

/-- `str(Path(path).parent)` -/
def parentDir (path : String) : String :=
  String.ofList ((path.toList.reverse.dropWhile (· ≠ '/')).drop 1).reverse

/-- What `_storage_bytes` adds up for one of its directories; `size` is `stat().st_size`. -/
def directoryBytes {φ : Type} (size : φ → Nat) (directory : String) : Files String φ → Nat :=
  Files.total fun path file => if parentDir path = directory then size file else 0

/-- `_storage_bytes` -/
def storageBytes {φ : Type} (size : φ → Nat) (s : Settings) (files : Files String φ) : Nat :=
  directoryBytes size s.uploadDir files + directoryBytes size s.slicedDir files

/-! ## The operations -/

/-- Where a request can raise. -/
inductive UploadPoint where
  | countActiveJobs | storageBytes
  /-- `destination.open("xb")` -/
  | openPart
  | read (i : Nat)
  | write (i : Nat)
  | flush | fsync
  /-- Leaving the `with` block. -/
  | closePart
  /-- `file.close()` in the `finally` of `_stream_upload` -/
  | closeUpload
  /-- An error of the file system in `_validate_stl_file`. -/
  | validate
  | replace | createJob | addLog | commit | rollback
  | unlinkPart | unlinkFinal
  deriving DecidableEq

/-- What a request works on: the files, the committed database, and the working copy of its session while a
    transaction is in progress. -/
structure Host where
  files : Files String Bytes
  db : Db
  session : Option Db := none

variable (fails : UploadPoint → Option Exc)

/-- `path.unlink(missing_ok=True)` -/
def unlink (p : UploadPoint) (path : String) : Code Host Exc Unit := do
  Code.attempt fails p
  .assign fun h => { h with files := h.files.erase path }

/-- `path.open("xb")` -/
def openExclusive (path : String) : Code Host Exc Unit := do
  Code.attempt fails .openPart
  .act fun h =>
    if (h.files.lookup path).isSome then (.error (.other "File exists"), h)
    else (.ok (), { h with files := h.files.insert path [] })

/-- `output.write(chunk)` -/
def append (path : String) (bytes : Bytes) : Code Host Exc Unit :=
  .assign fun h => { h with files := h.files.insert path ((h.files.lookup path).getD [] ++ bytes) }

/-- Statements of the request's session: they begin a transaction when none is in progress. -/
def inSession {α : Type} (t : Tx α) : Code Host Exc α :=
  .act fun h => ((t.run (h.session.getD h.db)).1, { h with session := some (t.run (h.session.getD h.db)).2 })

/-- `db.commit()`; without a transaction in progress it does nothing. -/
def commitSession : Code Host Exc Unit :=
  .act fun h =>
    match h.session with
    | none => (.ok (), h)
    | some d => (fails .commit).elim (.ok (), { h with db := d, session := none }) fun e => (.error e, h)

/-- `db.rollback()` -/
def rollbackSession : Code Host Exc Unit := do
  Code.attempt fails .rollback
  .assign fun h => { h with session := none }

/-! ## `upload_job` -/

variable (limits : UploadLimits) (s : Settings)

/-- The loop of `_stream_upload` from the `i`-th read on. -/
def receive (path : String) : Nat → Nat → List Chunk → Code Host Exc Nat
  | i, written, [] => do
      Code.attempt fails (.read i)
      return written
  | i, written, chunk :: chunks => do
      Code.attempt fails (.read i)
      -- a chunk that is too much is not written
      let written ← Code.lift (receiveChunk limits written chunk.bytes.length)
      Code.attempt fails (.write i)
      append path chunk.bytes
      receive path (i + 1) written chunks

def streamUpload (chunks : List Chunk) (destination : String) : Code Host Exc Nat :=
  .ensuring
    (tryCatch
      (do
        openExclusive fails destination
        .ensuring
          (do
            let written ← receive fails limits destination 0 0 chunks
            Code.attempt fails .flush
            Code.attempt fails .fsync
            return written)
          (Code.attempt fails .closePart))
      -- this handler does not cover the `finally` below
      fun e => do
        unlink fails .unlinkPart destination
        throw e)
    (Code.attempt fails .closeUpload)

/-- The `try` block at the end of `upload_job`. -/
def storeUpload (now : Time) (id : JobId) (form : UploadForm) : Code Host Exc Unit := do
  Code.attempt fails .validate
  .act fun h =>
    ((h.files.lookup (partialPath s id)).elim (.error (.other "No such file or directory")) validateStlFile, h)
  Code.attempt fails .replace
  .assign fun h => { h with files := h.files.rename (partialPath s id) (uploadPath s id) }
  Code.attempt fails .createJob
  let job ← inSession (createJob now id form.userName form.userEmail form.description form.originalFilename
    (uploadPath s id))
  Code.attempt fails .addLog
  inSession (addLog now "JOB_UPLOADED" s!"{form.originalFilename} uploaded by {job.userName}" .info (some id) none
    none)
  commitSession fails

/-- `upload_job`, for the job id that `uuid4` returned. -/
def uploadJob (emailStr : String → Option String) (now : Time) (id : JobId) (request : UploadRequest) :
    Code Host Exc String := do
  let form ← Code.lift (request.form emailStr)
  Code.attempt fails .countActiveJobs
  let active ← inSession countActiveJobs
  if active ≥ limits.maxActiveJobs then
    throw (.httpException 429 "The print queue is at capacity; try again later")
  else
    Code.attempt fails .storageBytes
    let currentStorage ← .act fun h => (.ok (storageBytes List.length s h.files), h)
    if currentStorage ≥ limits.storageLimit then throw (.httpException 507 "Print storage quota is exhausted")
    else
      -- the `try` of `upload_job` begins only after this
      let written ← streamUpload fails limits request.chunks (partialPath s id)
      -- the sum from before the stream, not measured again
      if currentStorage + written > limits.storageLimit then
        unlink fails .unlinkPart (partialPath s id)
        throw (.httpException 507 "Upload would exceed the print storage quota")
      else
        tryCatch (storeUpload fails s now id form) fun e => do
          unlink fails .unlinkPart (partialPath s id)
          unlink fails .unlinkFinal (uploadPath s id)
          rollbackSession fails
          throw e
        return "Job accepted for analysis"

/-- `get_db` around an endpoint: commit what is left of a transaction, or roll back; then close. -/
def getDb {α : Type} (endpoint : Code Host Exc α) : Code Host Exc α :=
  .ensuring
    (tryCatch
      (do
        let a ← endpoint
        commitSession fails
        return a)
      fun e => do
        rollbackSession fails
        throw e)
    (.assign fun h => { h with session := none })

/-- The request, with the session it is given. -/
def handleUpload (emailStr : String → Option String) (now : Time) (id : JobId) (request : UploadRequest) :
    Code Host Exc String := do
  .assign fun h => { h with session := none }
  getDb fails (uploadJob fails limits s emailStr now id request)

example : singleLine "  ../a\tb\n" 256 = "../a b" := by decide +kernel

example : fileSuffix "part.v2.STL" = ".STL" ∧ fileSuffix ".stl" = "" := by decide +kernel

end BambuBabu
