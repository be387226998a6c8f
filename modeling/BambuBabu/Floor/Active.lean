import BambuBabu.Floor.Writes

/-!
# `Floor.Active` — the number of active jobs

`count_active_jobs`, and what the transactions of the service do to it: an upload adds one job, and no UPDATE
of any other transaction brings a job into an active status, whatever its SELECTs have seen.
-/

namespace BambuBabu

open Storage

/-- The job is in an active status. -/
def Db.Active (d : Db) (id : JobId) : Prop := ∃ j, d.job id = some j ∧ j.status ∈ activeJobStatuses

/-- No job has become active. -/
def NoneActivated (d d' : Db) : Prop := ∀ id, d'.Active id → d.Active id

variable {d d' : Db} {id : JobId} {j : Job} {p : PrinterID} {now : Time} {s : Settings}

/-! ## Counting -/

theorem mem_active_rows : id ∈ (d.jobs.rows.filter fun row => row.2.status ∈ activeJobStatuses).map Prod.fst ↔
    d.Active id := by
  constructor
  · intro hmem
    obtain ⟨⟨k, j⟩, hrow, rfl⟩ := List.mem_map.mp hmem
    obtain ⟨hrow, hs⟩ := List.mem_filter.mp hrow
    exact ⟨j, Table.mem_rows_iff.mp hrow, of_decide_eq_true hs⟩
  · rintro ⟨j, hj, hs⟩
    exact List.mem_map.mpr ⟨(id, j), List.mem_filter.mpr ⟨Table.mem_rows_iff.mpr hj, decide_eq_true hs⟩, rfl⟩

/-- **Fewer active jobs count less.** -/
theorem NoneActivated.count_le (h : NoneActivated d d') : d'.countActiveJobs ≤ d.countActiveJobs := by
  have hnodup : ((d'.jobs.rows.filter fun row => row.2.status ∈ activeJobStatuses).map Prod.fst).Nodup :=
    d'.jobs.nodup.sublist (List.filter_sublist.map Prod.fst)
  have hsub := List.subperm_of_subset hnodup fun id hid => mem_active_rows.mpr (h id (mem_active_rows.mp hid))
  have hlen := hsub.length_le
  rwa [List.length_map, List.length_map] at hlen

/-- An INSERT adds at most one. -/
theorem count_insertJob_le : (d.insertJob id j).countActiveJobs ≤ d.countActiveJobs + 1 := by
  unfold Db.countActiveJobs Db.insertJob Table.insertNew
  split
  · exact Nat.le_succ _
  · rw [List.filter_append, List.length_append]
    exact Nat.add_le_add_left (List.length_filter_le _ _) _

/-- An upload adds at most one. -/
theorem commitUpload_count {form : UploadForm} :
    ((commitUpload s now id form).commit d).2.countActiveJobs ≤ d.countActiveJobs + 1 := by
  rcases commitUpload_run s now id form d with ⟨e, d', hrun⟩ | ⟨j, e, -, -, -, hrun⟩
  · rw [Txn.commit_of_error hrun]
    exact Nat.le_succ _
  · rw [Txn.commit_of_ok hrun]
    exact count_insertJob_le

/-! ## The writes -/

namespace NoneActivated

theorem refl (d : Db) : NoneActivated d d := fun _ h => h

theorem trans (d d' d'' : Db) (h : NoneActivated d d') (h' : NoneActivated d' d'') : NoneActivated d d'' :=
  fun id hid => h id (h' id hid)

/-- A write of a row that moves it along an edge at most. -/
theorem modifyJob (d : Db) {f : Job → Job}
    (hf : ∀ j, (f j).status ∈ activeJobStatuses → j.status ∈ activeJobStatuses) :
    NoneActivated d (d.modifyJob id f) := by
  rintro k ⟨j, hj, hs⟩
  rw [Db.job_modifyJob] at hj
  split at hj
  · obtain ⟨i, hi, rfl⟩ := Option.map_eq_some_iff.mp hj
    exact ⟨i, hi, hf i hs⟩
  · exact ⟨j, hj, hs⟩

/-- **The UPDATEs of the service activate no job**: a swap goes along an edge, and no edge leaves a terminal status;
    the ORM never writes a status. -/
theorem bounds (now : Time) : Bounds now NoneActivated where
  swap d id expected new err rej hedges := by
    apply modifyJob
    intro j hs
    by_cases hexp : j.status ∈ expected
    · rw [active_iff_not_terminal]
      intro hterm
      have hedge := hedges j.status hexp
      rw [allowed_of_terminal hterm] at hedge
      cases hedge
    · rwa [if_neg hexp] at hs
  columns d id f hf := modifyJob d fun j hs => (hf j).1 ▸ hs
  printer _ _ _ _ h := h
  log _ _ _ h := h

end NoneActivated

end BambuBabu
