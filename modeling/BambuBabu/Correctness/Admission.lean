import BambuBabu.Correctness.UploadAtomicity

/-!
# `Correctness.Admission` — which uploads are accepted?

`upload_job` decides bit by bit: some checks come before the stream, one is made with every chunk, and the last ones
read the file it has written. As long as no operation of the machine fails this comes to one decision on the form and
the content as a whole (`Host.decision`), made on the database and the files that the request finds.

* `upload_decision` — **the theorem**: the request answers what the decision says, and an accepted one leaves the
  database that the service's upload step leaves.
-/

namespace BambuBabu

open Storage Runs Runs.Code

/-- Nothing fails. -/
def reliable : UploadPoint → Option Exc := fun _ => none

theorem reliable_cleansUp {limits : UploadLimits} {s : Settings} {emailStr : String → Option String}
    {request : UploadRequest} {h : Host} : CleansUp reliable limits s emailStr request h :=
  ⟨fun _ _ => rfl, fun _ _ => rfl, fun _ _ _ _ _ => rfl⟩

/-- Without failures, only the check explains an exception. -/
theorem Caused.of_reliable {c : Prop} {e : Exc} (h : Caused reliable c e) : c :=
  h.resolve_left fun ⟨_, hp⟩ => nomatch hp

/-- What the request answers, and how it leaves the host. -/
inductive Answered (s : Settings) (now : Time) (id : JobId) (h₀ : Host) (content : Bytes) :
    Except Exc UploadForm → Except Exc String → Host → Prop
  | refused {e : Exc} {h : Host} (hh : UploadRefused s id h₀ h) : Answered s now id h₀ content (.error e) (.error e) h
  | accepted {form : UploadForm} {h : Host} (hcommit : (commitUpload s now id form).commit h₀.db = (.ok (), h.db))
      (hfinal : h.files.lookup (uploadPath s id) = some content) (hpart : h.files.lookup (partialPath s id) = none)
      (hothers : ∀ path, path ≠ partialPath s id → path ≠ uploadPath s id →
        h.files.lookup path = h₀.files.lookup path) :
      Answered s now id h₀ content (.ok form) (.ok "Job accepted for analysis") h

/-- **The request answers what the decision says**, whatever the chunks that the content arrives in. A refused request
    leaves nothing, and an accepted one the file and the database of the service's upload step. -/
theorem upload_decision (limits : UploadLimits) (s : Settings) (emailStr : String → Option String) (now : Time)
    (id : JobId) (request : UploadRequest) (h₀ : Host) (hnew : Unused s id h₀) :
    Answered s now id h₀ request.content (h₀.decision limits s emailStr request)
      ((handleUpload reliable limits s emailStr now id request).exec h₀).1
      ((handleUpload reliable limits s emailStr now id request).exec h₀).2 := by
  have hends : Triple (· = h₀) (handleUpload reliable limits s emailStr now id request) _ _ := handleUpload_ends hnew
  cases hanswer : ((handleUpload reliable limits s emailStr now id request).exec h₀).1 with
  | error e =>
      have hfailed := hends.of_error hanswer
      rw [hfailed.2.of_reliable]
      exact .refused ((hfailed.refused_iff hnew).mpr reliable_cleansUp)
  | ok message =>
      obtain ⟨⟨form, hstored, hdecision, rfl⟩, -⟩ := hends.of_ok hanswer
      rw [hdecision]
      refine .accepted ?_ hstored.final hstored.part hstored.others
      rw [hstored.db]
      exact commitUpload_uploaded now form hnew.row

end BambuBabu
