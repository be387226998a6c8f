import BambuBabu.Core.Slicer
import BambuBabu.Core.Text
import BambuBabu.Db.Crud
import BambuBabu.Storage.Files

/-!
# `Core.Maintenance` — the retention rules of `backend/core/maintenance.py`

Three rules delete files: the files of jobs that ended long ago, uploads that were never finished, and files that no
row refers to. Here a file is its modification time, under the path by which the rows refer to it. The backup at the
end of a pass copies the database and touches no file of a job.

* `cleanupTerminalFiles`, `cleanupPartialUploads`, `cleanupOrphanFiles` — the rules;
* `runOnce` — one pass;
* `removed_cases` — **why a pass deletes a file**.
-/

namespace BambuBabu

open Storage

/-- The modification times of the stored files. -/
abbrev StoredFiles := Files String Time

/-- The settings of the retention rules, each `Field(..., gt=0)`. -/
structure Retention where
  terminalFileRetentionDays : Nat
  partialUploadRetentionHours : Nat
  orphanFileRetentionHours : Nat
  terminal_pos : 0 < terminalFileRetentionDays
  partial_pos : 0 < partialUploadRetentionHours
  orphan_pos : 0 < orphanFileRetentionHours

namespace Retention

variable (r : Retention)

/-- The windows in microseconds. -/
def terminalWindow : Nat := r.terminalFileRetentionDays * 24 * 3600 * 1000000

def partialWindow : Nat := r.partialUploadRetentionHours * 3600 * 1000000

def orphanWindow : Nat := r.orphanFileRetentionHours * 3600 * 1000000

end Retention

variable (cfg : Settings) (r : Retention) (now : Time) (d : Db) (files : StoredFiles)

/-! ## The rules -/

/-- `directory.glob("*" + suffix)` -/
def globSuffix (directory suffix : String) : List String :=
  files.keys.filter fun path => path = s!"{directory}/{pathName path}" && endsWith suffix (pathName path)

/-- `path.stat().st_mtime < cutoff` -/
def olderThan (cutoff : Time) (path : String) : Bool := (files.lookup path).any fun mtime => mtime < cutoff

/-- The jobs that own a printer. -/
def protectedIds : List JobId :=
  ([PrinterID.p1s, PrinterID.a1Mini].filterMap fun p => (d.printers p).currentJobId).filter (· ≠ "")

/-- The rows that ended before the cutoff. The comparison is false of a row that has no time. -/
def expiredJobs (cutoff : Time) : List (JobId × Job) :=
  d.jobs.rows.filter fun row => row.2.status ∈ terminalJobStatuses && row.2.printEndedAt.any (· < cutoff)

/-- The row refers to the file at `path`. -/
def Job.refersTo (job : Job) (path : String) : Prop := job.stlPath = path ∨ job.slicedPath = some path

/-- The values of `(job.stl_path, job.sliced_path)` that are neither `None` nor empty. -/
def Job.storedPaths (job : Job) : List String :=
  ([some job.stlPath, job.slicedPath].filterMap id).filter (· ≠ "")

/-- `_cleanup_terminal_files`. A cutoff before year 1 is no cutoff here. -/
def cleanupTerminalFiles : StoredFiles :=
  let cutoff := now - r.terminalWindow
  let jobs := (expiredJobs d cutoff).filter fun row => row.1 ∉ protectedIds d
  files.eraseAll (jobs.flatMap fun row => row.2.storedPaths)

/-- `_cleanup_partial_uploads` -/
def cleanupPartialUploads : StoredFiles :=
  let cutoff := now - r.partialWindow
  files.eraseAll ((globSuffix files cfg.uploadDir ".part").filter (olderThan files cutoff))

/-- The paths that a row refers to. -/
def referencedPaths : List String := d.jobs.rows.flatMap fun row => row.2.storedPaths

/-- `_cleanup_orphan_files` -/
def cleanupOrphanFiles : StoredFiles :=
  let cutoff := now - r.orphanWindow
  let orphans := [(cfg.uploadDir, ".stl"), (cfg.slicedDir, ".3mf")].flatMap fun (directory, pattern) =>
    (globSuffix files directory pattern).filter fun path => path ∉ referencedPaths d && olderThan files cutoff path
  files.eraseAll orphans

/-- `run_once` without the backup; each rule reads the clock anew. -/
def runOnce (terminalNow partialNow orphanNow : Time) : StoredFiles :=
  cleanupOrphanFiles cfg r orphanNow d
    (cleanupPartialUploads cfg r partialNow (cleanupTerminalFiles r terminalNow d files))

/-! ## What is deleted -/

variable {cfg r now d files} {path directory suffix : String} {id : JobId} {job : Job} {cutoff : Time}

theorem mem_storedPaths : path ∈ job.storedPaths ↔ job.refersTo path ∧ path ≠ "" := by
  unfold Job.storedPaths Job.refersTo
  rw [List.mem_filter, List.mem_filterMap, decide_eq_true_iff]
  refine and_congr_left fun _ => ⟨?_, ?_⟩
  · rintro ⟨value, hvalue, hpath⟩
    rcases List.mem_pair.mp hvalue with rfl | rfl
    · exact .inl (Option.some.inj hpath)
    · exact .inr hpath
  · rintro (rfl | hsliced)
    · exact ⟨some job.stlPath, List.mem_cons_self, rfl⟩
    · exact ⟨job.slicedPath, List.mem_cons_of_mem _ List.mem_cons_self, hsliced⟩

theorem mem_referencedPaths : path ∈ referencedPaths d ↔
    ∃ id job, d.job id = some job ∧ job.refersTo path ∧ path ≠ "" := by
  constructor
  · intro hmem
    obtain ⟨⟨id, job⟩, hrow, hpath⟩ := List.mem_flatMap.mp hmem
    exact ⟨id, job, Table.mem_rows_iff.mp hrow, mem_storedPaths.mp hpath⟩
  · rintro ⟨id, job, hjob, hpath⟩
    exact List.mem_flatMap.mpr ⟨(id, job), Table.mem_rows_iff.mpr hjob, mem_storedPaths.mpr hpath⟩

theorem mem_protectedIds : id ∈ protectedIds d ↔ (∃ p, (d.printers p).currentJobId = some id) ∧ id ≠ "" := by
  unfold protectedIds
  rw [List.mem_filter, List.mem_filterMap, decide_eq_true_iff]
  refine and_congr_left fun _ => ⟨?_, ?_⟩
  · rintro ⟨p, -, hp⟩
    exact ⟨p, hp⟩
  · rintro ⟨p, hp⟩
    exact ⟨p, by cases p <;> decide, hp⟩

/-- A job has expired when it ended before the cutoff. -/
theorem mem_expiredJobs : (id, job) ∈ expiredJobs d cutoff ↔
    d.job id = some job ∧ job.status ∈ terminalJobStatuses ∧ ∃ t, job.printEndedAt = some t ∧ t < cutoff := by
  unfold expiredJobs
  rw [List.mem_filter, Table.mem_rows_iff, Bool.and_eq_true, decide_eq_true_iff, Option.any_eq_true]
  simp only [decide_eq_true_iff]
  rfl

/-- What `glob` finds ends in the suffix. -/
theorem endsWith_of_mem_glob (h : path ∈ globSuffix files directory suffix) : endsWith suffix path = true := by
  obtain ⟨-, hfound⟩ := List.mem_filter.mp h
  obtain ⟨hname, hsuffix⟩ := Bool.and_eq_true_iff.mp hfound
  have hpath : path = directory ++ "/" ++ pathName path := of_decide_eq_true hname
  obtain ⟨front, hfront⟩ := List.isSuffixOf_iff_suffix.mp hsuffix
  apply List.isSuffixOf_iff_suffix.mpr
  rw [hpath, String.toList_append, ← hfront]
  exact List.suffix_append_of_suffix (List.suffix_append front suffix.toList)

/-- A file inside the window is not old. -/
theorem olderThan_window {mtime window : Nat} (h : files.lookup path = some mtime) (hwindow : now ≤ mtime + window) :
    olderThan files (now - window) path = false := by
  unfold olderThan
  rw [h, Option.any_some, decide_eq_false_iff_not]
  exact Nat.not_lt.mpr (Nat.sub_le_of_le_add hwindow)

/-- What the first rule deletes. -/
theorem removed_terminal (hin : path ∈ files) (hout : path ∉ cleanupTerminalFiles r now d files) :
    ∃ id job, (id, job) ∈ expiredJobs d (now - r.terminalWindow) ∧ id ∉ protectedIds d ∧
      job.refersTo path := by
  have hgone : path ∈ ((expiredJobs d (now - r.terminalWindow)).filter fun row =>
      row.1 ∉ protectedIds d).flatMap fun row => row.2.storedPaths := by
    by_contra hkept
    exact hout (Files.mem_eraseAll.mpr ⟨hin, hkept⟩)
  obtain ⟨⟨id, job⟩, hrow, hpath⟩ := List.mem_flatMap.mp hgone
  obtain ⟨hexpired, hfree⟩ := List.mem_filter.mp hrow
  exact ⟨id, job, hexpired, of_decide_eq_true hfree, (mem_storedPaths.mp hpath).1⟩

/-- What the second rule deletes. -/
theorem removed_partial (hin : path ∈ files) (hout : path ∉ cleanupPartialUploads cfg r now files) :
    endsWith ".part" path = true ∧ olderThan files (now - r.partialWindow) path = true := by
  have hgone : path ∈ (globSuffix files cfg.uploadDir ".part").filter
      (olderThan files (now - r.partialWindow)) := by
    by_contra hkept
    exact hout (Files.mem_eraseAll.mpr ⟨hin, hkept⟩)
  obtain ⟨hglob, hold⟩ := List.mem_filter.mp hgone
  exact ⟨endsWith_of_mem_glob hglob, hold⟩

/-- What the third rule deletes. -/
theorem removed_orphan (hin : path ∈ files) (hout : path ∉ cleanupOrphanFiles cfg r now d files) :
    (∃ suffix ∈ [".stl", ".3mf"], endsWith suffix path = true) ∧ path ∉ referencedPaths d ∧
      olderThan files (now - r.orphanWindow) path = true := by
  have hgone : path ∈ [(cfg.uploadDir, ".stl"), (cfg.slicedDir, ".3mf")].flatMap fun (directory, pattern) =>
      (globSuffix files directory pattern).filter fun path =>
        path ∉ referencedPaths d && olderThan files (now - r.orphanWindow) path := by
    by_contra hkept
    exact hout (Files.mem_eraseAll.mpr ⟨hin, hkept⟩)
  obtain ⟨⟨directory, pattern⟩, hdir, hfile⟩ := List.mem_flatMap.mp hgone
  obtain ⟨hglob, hcond⟩ := List.mem_filter.mp hfile
  obtain ⟨hfree, hold⟩ := Bool.and_eq_true_iff.mp hcond
  refine ⟨⟨pattern, ?_, endsWith_of_mem_glob hglob⟩, of_decide_eq_true hfree, hold⟩
  have hpattern := List.mem_map_of_mem (f := Prod.snd) hdir
  exact hpattern

/-- A rule that leaves a file leaves its age. -/
theorem olderThan_eraseAll {gone : List String} (h : path ∈ Files.eraseAll files gone) :
    olderThan (Files.eraseAll files gone) cutoff path = olderThan files cutoff path := by
  unfold olderThan
  rw [Files.lookup_eraseAll (Files.mem_eraseAll.mp h).2]

/-- **Why a pass deletes a file**: it is one of an expired job, an upload that was not finished in time, or an old
    model or slice that no row refers to. -/
theorem removed_cases {terminalNow partialNow orphanNow : Time} (hin : path ∈ files)
    (hout : path ∉ runOnce cfg r d files terminalNow partialNow orphanNow) :
    (∃ id job, (id, job) ∈ expiredJobs d (terminalNow - r.terminalWindow) ∧ id ∉ protectedIds d ∧
      job.refersTo path) ∨
    (endsWith ".part" path = true ∧ olderThan files (partialNow - r.partialWindow) path = true) ∨
    ((∃ suffix ∈ [".stl", ".3mf"], endsWith suffix path = true) ∧ path ∉ referencedPaths d ∧
      olderThan files (orphanNow - r.orphanWindow) path = true) := by
  by_cases hterminal : path ∈ cleanupTerminalFiles r terminalNow d files
  · by_cases hpartial : path ∈ cleanupPartialUploads cfg r partialNow (cleanupTerminalFiles r terminalNow d files)
    · obtain ⟨hsuffix, hfree, hold⟩ := removed_orphan hpartial hout
      refine .inr (.inr ⟨hsuffix, hfree, ?_⟩)
      have hage : olderThan (cleanupTerminalFiles r terminalNow d files) (orphanNow - r.orphanWindow) path = true :=
        (olderThan_eraseAll hpartial).symm.trans hold
      exact (olderThan_eraseAll hterminal).symm.trans hage
    · obtain ⟨hsuffix, hold⟩ := removed_partial hterminal hpartial
      exact .inr (.inl ⟨hsuffix, (olderThan_eraseAll hterminal).symm.trans hold⟩)
  · exact .inl (removed_terminal hin hterminal)

end BambuBabu
