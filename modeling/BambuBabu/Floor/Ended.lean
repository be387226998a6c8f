import BambuBabu.Floor.Writes

/-!
# `Floor.Ended` — when a job ended, and how it was submitted

A swap into a terminal status writes `print_ended_at`, and no other UPDATE does. A job that has ended therefore has
the time at which it ended, for good. Rows are added by uploads only.
-/

namespace BambuBabu

open Storage

/-- The job is in a terminal status. -/
def Db.Ended (d : Db) (id : JobId) : Prop := ∃ j, d.job id = some j ∧ j.status ∈ terminalJobStatuses

/-- Between `d` and `d'` jobs end at the time `now` only, and one that had ended before keeps its time. -/
structure Stamped (now : Time) (d d' : Db) : Prop where
  kept : ∀ id j, d.job id = some j → j.status ∈ terminalJobStatuses →
    ∃ j', d'.job id = some j' ∧ j'.status ∈ terminalJobStatuses ∧ j'.printEndedAt = j.printEndedAt
  stamped : ∀ id j', d'.job id = some j' → j'.status ∈ terminalJobStatuses → ¬ d.Ended id →
    j'.printEndedAt = some now

/-- No row is new. -/
def NoneAdded (d d' : Db) : Prop := ∀ id, d.job id = none → d'.job id = none

variable {d d' : Db} {id : JobId} {j : Job} {now : Time} {s : Settings}

/-! ## Times -/

namespace Stamped

theorem refl (now : Time) (d : Db) : Stamped now d d where
  kept _ j hj hs := ⟨j, hj, hs, rfl⟩
  stamped _ j hj hs hno := absurd ⟨j, hj, hs⟩ hno

theorem trans (d d' d'' : Db) (h : Stamped now d d') (h' : Stamped now d' d'') : Stamped now d d'' where
  kept id j hj hs := by
    obtain ⟨j', hj', hs', ht'⟩ := h.kept id j hj hs
    obtain ⟨j'', hj'', hs'', ht''⟩ := h'.kept id j' hj' hs'
    exact ⟨j'', hj'', hs'', ht''.trans ht'⟩
  stamped id j'' hj'' hs'' hno := by
    by_cases hmid : d'.Ended id
    · obtain ⟨j', hj', hs'⟩ := hmid
      obtain ⟨i, hi, -, ht⟩ := h'.kept id j' hj' hs'
      cases Option.some.inj (hi.symm.trans hj'')
      exact ht.trans (h.stamped id j' hj' hs' hno)
    · exact h'.stamped id j'' hj'' hs'' hmid

/-- A write of one row. -/
theorem modifyJob (d : Db) {f : Job → Job}
    (hkept : ∀ j, j.status ∈ terminalJobStatuses →
      (f j).status ∈ terminalJobStatuses ∧ (f j).printEndedAt = j.printEndedAt)
    (hnew : ∀ j, j.status ∉ terminalJobStatuses → (f j).status ∈ terminalJobStatuses →
      (f j).printEndedAt = some now) : Stamped now d (d.modifyJob id f) where
  kept k j hj hs := by
    rw [Db.job_modifyJob]
    split
    · exact ⟨f j, by rw [hj, Option.map_some], hkept j hs⟩
    · exact ⟨j, hj, hs, rfl⟩
  stamped k j' hj' hs' hno := by
    rw [Db.job_modifyJob] at hj'
    split at hj'
    · obtain ⟨j, hj, rfl⟩ := Option.map_eq_some_iff.mp hj'
      exact hnew j (fun hs => hno ⟨j, hj, hs⟩) hs'
    · exact absurd ⟨j', hj', hs'⟩ hno

/-- **The UPDATEs of the service stamp the jobs they end**, and no others. -/
theorem bounds (now : Time) : Bounds now (Stamped now) where
  swap d id expected new err rej hedges := by
    -- no edge leaves a terminal status, so the swap misses a job that has ended
    have hmiss : ∀ j : Job, j.status ∈ terminalJobStatuses → j.status ∉ expected := by
      intro j hs hexp
      have hedge := hedges j.status hexp
      rw [allowed_of_terminal hs] at hedge
      cases hedge
    apply modifyJob
    · intro j hs
      rw [if_neg (hmiss j hs)]
      exact ⟨hs, rfl⟩
    · intro j hno hs
      by_cases hexp : j.status ∈ expected
      · rw [if_pos hexp] at hs ⊢
        exact if_pos hs
      · rw [if_neg hexp] at hs
        exact absurd hs hno
  columns d id f hf := by
    apply modifyJob
    · intro j hs
      rw [(hf j).1]
      exact ⟨hs, (hf j).2⟩
    · intro j hno hs
      rw [(hf j).1] at hs
      exact absurd hs hno
  printer d _ _ := ⟨fun _ j hj hs => ⟨j, hj, hs, rfl⟩, fun _ j hj hs hno => absurd ⟨j, hj, hs⟩ hno⟩
  log d _ := ⟨fun _ j hj hs => ⟨j, hj, hs, rfl⟩, fun _ j hj hs hno => absurd ⟨j, hj, hs⟩ hno⟩

end Stamped

/-! ## New rows -/

namespace NoneAdded

theorem refl (d : Db) : NoneAdded d d := fun _ h => h

theorem trans (d d' d'' : Db) (h : NoneAdded d d') (h' : NoneAdded d' d'') : NoneAdded d d'' :=
  fun id hid => h' id (h id hid)

theorem modifyJob (d : Db) (f : Job → Job) : NoneAdded d (d.modifyJob id f) := by
  intro k hk
  rw [Db.job_modifyJob, hk]
  split <;> rfl

/-- **No UPDATE adds a row.** -/
theorem bounds (now : Time) : Bounds now NoneAdded where
  swap d _ _ _ _ _ _ := modifyJob d _
  columns d _ f _ := modifyJob d f
  printer _ _ _ _ h := h
  log _ _ _ h := h

end NoneAdded

/-! ## Uploads -/

/-- **An upload** adds the row of a pending job whose model is stored under the job's own name, or it changes
    nothing. -/
theorem commitUpload_row (s : Settings) (now : Time) (id : JobId) (form : UploadForm) (d : Db) :
    ((commitUpload s now id form).commit d).2 = d ∨
    d.job id = none ∧ ∃ e, ((commitUpload s now id form).commit d).2 = (d.insertJob id (Job.submitted now
      form.userName form.userEmail form.description form.originalFilename (uploadPath s id))).insertLog e := by
  cases hj : d.job id with
  | some j =>
      obtain ⟨d', hrun⟩ := commitUpload_taken hj
      rw [Txn.commit_of_error hrun]
      exact .inl rfl
  | none =>
      rw [Txn.commit_of_ok (commitUpload_new hj)]
      exact .inr ⟨rfl, _, rfl⟩

/-- It stamps nothing. -/
theorem commitUpload_stamped (form : UploadForm) :
    Stamped now d ((commitUpload s now id form).commit d).2 := by
  rcases commitUpload_row s now id form d with hsame | ⟨hnone, e, hrow⟩
  · rw [hsame]
    exact .refl now d
  · have hjob : ∀ k, ((commitUpload s now id form).commit d).2.job k = if k = id then some (Job.submitted now
        form.userName form.userEmail form.description form.originalFilename (uploadPath s id)) else d.job k := by
      intro k
      rw [hrow, Db.job_insertLog, Db.job_insertJob hnone]
    constructor
    · intro k j hj hs
      have hk : k ≠ id := by
        rintro rfl
        rw [hnone] at hj
        cases hj
      exact ⟨j, by rw [hjob, if_neg hk, hj], hs, rfl⟩
    · intro k j' hj' hs' hno
      rw [hjob] at hj'
      split at hj'
      · cases hj'
        exact absurd hs' (by show JobStatus.pending ∉ _; decide)
      · exact absurd ⟨j', hj', hs'⟩ hno

end BambuBabu
