import BambuBabu.Api.UploadEnds
import BambuBabu.Service.Step

/-!
# `Correctness.UploadAtomicity` — an upload happens as a whole or not at all

A request that fails has removed its file, wherever an operation raised, with one exception that its handlers cannot
deal with: `file.close()` stands in the `finally` of `_stream_upload`, outside the `try` of `upload_job`. When it
raises after the whole stream was written, the `.part` file stays.

* `AtomicUpload` — all or nothing; `upload_atomic` — **exactly when a request is**.
* `CleansUp` (`Api.UploadEnds`) — the condition: that close, and the removals of the handlers, return.
-/

namespace BambuBabu

open Storage Runs Runs.Code

/-- **A request that failed** has left no file, no row and no log entry. -/
structure UploadRefused (s : Settings) (id : JobId) (h₀ h : Host) : Prop where
  part : h.files.lookup (partialPath s id) = none
  final : h.files.lookup (uploadPath s id) = none
  row : h.db.job id = none
  log : ∀ e ∈ h.db.logs, e.jobId ≠ some id
  others : ∀ path, path ≠ partialPath s id → path ≠ uploadPath s id → h.files.lookup path = h₀.files.lookup path
  db : h.db = h₀.db

/-- **A request that succeeded** has committed one row and one log entry, and stored the file. -/
structure UploadAccepted (limits : UploadLimits) (s : Settings) (id : JobId) (content : Bytes) (h₀ h : Host) :
    Prop where
  row : ∃ j, h.db.jobs.rows = h₀.db.jobs.rows ++ [(id, j)] ∧ j.status = .pending ∧ j.stlPath = uploadPath s id
  log : ∃ e, h.db.logs = h₀.db.logs ++ [e] ∧ e.event = "JOB_UPLOADED" ∧ e.jobId = some id
  printers : h.db.printers = h₀.db.printers
  final : h.files.lookup (uploadPath s id) = some content
  size : content.length ≤ limits.maxBytes
  valid : validateStlFile content = .ok ()
  part : h.files.lookup (partialPath s id) = none
  others : ∀ path, path ≠ partialPath s id → path ≠ uploadPath s id → h.files.lookup path = h₀.files.lookup path

/-- **All or nothing**: how the request ended, and the host it left. -/
structure AtomicUpload (limits : UploadLimits) (s : Settings) (id : JobId) (content : Bytes) (h₀ : Host)
    (outcome : Except Exc String × Host) : Prop where
  refused : ∀ e, outcome.1 = .error e → UploadRefused s id h₀ outcome.2
  accepted : ∀ message, outcome.1 = .ok message → UploadAccepted limits s id content h₀ outcome.2

variable {fails : UploadPoint → Option Exc} {limits : UploadLimits} {s : Settings} {id : JobId} {now : Time}
  {h₀ h : Host} {content : Bytes} {decision : Except Exc UploadForm} {clean : Prop}

theorem Holding.refused (hnew : Unused s id h₀) (hh : Holding s id h₀ none none h) : UploadRefused s id h₀ h where
  part := hh.part
  final := hh.final
  row := hh.db ▸ hnew.row
  log := hh.db ▸ hnew.log
  others := hh.others
  db := hh.db

/-- A failed request has left nothing exactly if it has cleaned up. -/
theorem Failed.refused_iff {e : Exc} (hnew : Unused s id h₀) (hf : Failed fails s id h₀ clean decision e h) :
    UploadRefused s id h₀ h ↔ clean := by
  obtain ⟨⟨⟨a, b⟩, hh, hclean⟩, -⟩ := hf
  rw [← hclean]
  constructor
  · intro hr
    exact Prod.ext (hh.part.symm.trans hr.part) (hh.final.symm.trans hr.final)
  · intro hnone
    obtain ⟨rfl, rfl⟩ := Prod.mk.inj hnone
    exact hh.refused hnew

theorem Admitted.accepted {message : String} (hnew : Unused s id h₀) (hsize : content.length ≤ limits.maxBytes)
    (hvalid : validateStlFile content = .ok ()) (hh : Admitted s id now h₀ content decision message h) :
    UploadAccepted limits s id content h₀ h := by
  obtain ⟨form, hstored, -⟩ := hh
  constructor
  · rw [hstored.db]
    exact ⟨_, Table.insertNew_of_none hnew.row _, rfl, rfl⟩
  · rw [hstored.db]
    exact ⟨_, rfl, rfl, rfl⟩
  · rw [hstored.db]
    rfl
  · exact hstored.final
  · exact hsize
  · exact hvalid
  · exact hstored.part
  · exact hstored.others

/-- **When an upload is atomic.** Whatever is uploaded, whatever the request finds and wherever operations raise: it
    leaves nothing of its id when it fails, and has stored exactly the chunks, a valid STL of admissible size, with
    one PENDING row and one log entry when it succeeds, if and only if what has to return for that returns. -/
theorem upload_atomic (fails : UploadPoint → Option Exc) (limits : UploadLimits) (s : Settings)
    (emailStr : String → Option String) (now : Time) (id : JobId) (request : UploadRequest) (h₀ : Host)
    (hnew : Unused s id h₀) :
    AtomicUpload limits s id request.content h₀ ((handleUpload fails limits s emailStr now id request).exec h₀) ↔
      CleansUp fails limits s emailStr request h₀ := by
  have hends : Triple (· = h₀) (handleUpload fails limits s emailStr now id request) _ _ := handleUpload_ends hnew
  cases hanswer : ((handleUpload fails limits s emailStr now id request).exec h₀).1 with
  | error e =>
      have hfailed := hends.of_error hanswer
      rw [← hfailed.refused_iff hnew]
      constructor
      · intro hatomic
        exact hatomic.refused e hanswer
      · intro hrefused
        constructor
        · intro e' _
          exact hrefused
        · intro message hok
          cases hanswer.symm.trans hok
  | ok message =>
      obtain ⟨hadmitted, hclean⟩ := hends.of_ok hanswer
      have ⟨_, _, hdecision, _⟩ := hadmitted
      obtain ⟨hsize, hvalid⟩ := Host.decision_ok hdecision
      apply iff_of_true ?_ hclean
      constructor
      · intro e herr
        cases hanswer.symm.trans herr
      · intro message' _
        exact hadmitted.accepted hnew hsize hvalid

namespace Script

/-- A binary STL without triangles. -/
def emptyModel : UploadRequest where
  filename := some "part.stl"
  userName := "Ada"
  userEmail := "ada@example.org"
  description := ""
  chunks := [⟨List.replicate 84 0, by decide⟩]

/-- No file and no row. -/
def emptyHost : Host where
  files := ∅
  db := .seeded

/-- The upload of the model. -/
def uploadModel (fails : UploadPoint → Option Exc) : Except Exc String × Host :=
  (handleUpload fails ⟨10, 1, 1⟩ p1sOnly some 0 "ab-12" emptyModel).exec emptyHost

/-- The disk raises at one point. -/
def diskError (point p : UploadPoint) : Option Exc := if p = point then some (.other "EIO") else none

theorem unused_emptyHost : Unused p1sOnly "ab-12" emptyHost where
  row := rfl
  log := by
    intro e he
    cases he
  part := rfl
  final := rfl

/-- The file cannot be synced: the handlers remove it. -/
theorem diskError_cleansUp : CleansUp (diskError .fsync) ⟨10, 1, 1⟩ p1sOnly some emptyModel emptyHost :=
  ⟨fun _ _ => rfl, fun _ _ => rfl, fun _ _ _ _ _ => rfl⟩

end Script

/-- The model is accepted when nothing fails, and leaves nothing when the disk does. -/
theorem upload_atomic_disk_error :
    ((Script.uploadModel fun _ => none).1 = .ok "Job accepted for analysis" ∧
      AtomicUpload ⟨10, 1, 1⟩ Script.p1sOnly "ab-12" Script.emptyModel.content Script.emptyHost
        (Script.uploadModel fun _ => none)) ∧
    ((Script.uploadModel (Script.diskError .fsync)).1 = .error (.other "EIO") ∧
      AtomicUpload ⟨10, 1, 1⟩ Script.p1sOnly "ab-12" Script.emptyModel.content Script.emptyHost
        (Script.uploadModel (Script.diskError .fsync))) := by
  refine ⟨⟨by decide +kernel, ?_⟩, by decide +kernel, ?_⟩
  · exact (upload_atomic (fun _ => none) ⟨10, 1, 1⟩ Script.p1sOnly some 0 "ab-12" Script.emptyModel
      Script.emptyHost Script.unused_emptyHost).mpr
        ⟨fun _ _ => rfl, fun _ _ => rfl, fun _ _ _ _ _ => rfl⟩
  · exact (upload_atomic (Script.diskError .fsync) ⟨10, 1, 1⟩ Script.p1sOnly some 0 "ab-12" Script.emptyModel
      Script.emptyHost Script.unused_emptyHost).mpr Script.diskError_cleansUp

/-- `file.close()` raises once the whole model is written: the request fails, and the `.part` file stays. -/
theorem abandoned_part :
    Unused Script.p1sOnly "ab-12" Script.emptyHost ∧
    (Script.uploadModel (Script.diskError .closeUpload)).1 = .error (.other "EIO") ∧
    (Script.uploadModel (Script.diskError .closeUpload)).2.files.lookup (partialPath Script.p1sOnly "ab-12")
      = some Script.emptyModel.content ∧
    ¬ AtomicUpload ⟨10, 1, 1⟩ Script.p1sOnly "ab-12" Script.emptyModel.content Script.emptyHost
      (Script.uploadModel (Script.diskError .closeUpload)) := by
  have hraised : (Script.uploadModel (Script.diskError .closeUpload)).1 = .error (.other "EIO") := by decide +kernel
  have hleft : (Script.uploadModel (Script.diskError .closeUpload)).2.files.lookup
      (partialPath Script.p1sOnly "ab-12") = some Script.emptyModel.content := by decide +kernel
  refine ⟨Script.unused_emptyHost, hraised, hleft, ?_⟩
  intro hatomic
  cases hleft.symm.trans (hatomic.refused _ hraised).part

end BambuBabu
