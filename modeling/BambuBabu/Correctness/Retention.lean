import BambuBabu.Service.FileNames

/-!
# `Correctness.Retention` — maintenance never deletes a needed file

The three rules of a pass go by different keys: the time a job ended, the suffix and the age of a file, and whether a
row refers to it. A rule that deletes the files of one job must not hit a file of another, which is where the names of
the files come in (`owner_unique`), and the time it goes by must be the time at which the job ended, which is where the
stamps come in (`EndedAt.stamp`).

* `EndedAt` — when a job became terminal, read off the run;
* `Retained` — a pass keeps what is needed, and deletes only what has expired or belongs to nobody;
* `retention` — **the theorem**: in every reachable state, for any files and any clock.

The pass may run with other directories than the files were stored under. The modification times matter for files that
no row refers to: one inside its window stays (`Retained.recent`), such as a file that is being written.
-/

namespace BambuBabu

open Storage Runs

/-- The run to `s` has a step at the time `time` that made the job terminal. -/
def EndedAt (s : Service) (id : JobId) (time : Time) : Prop :=
  ∃ a e b, service.Reach uuidNames a ∧ ¬ a.db.Ended id ∧ uuidNames a e ∧ service.step a e = some b ∧
    b.db.Ended id ∧ a.clock = time ∧ service.Path uuidNames b s

/-- A file that is not to be deleted at the time `now`: a job that has not ended refers to it, or one that owns a
    printer, or one that ended less than the retention time ago. -/
def Needed (r : Retention) (now : Time) (s : Service) (path : String) : Prop :=
  ∃ id job, s.db.job id = some job ∧ job.refersTo path ∧
    (job.status ∉ terminalJobStatuses ∨ (∃ p, (s.db.printers p).currentJobId = some id) ∨
      ∃ time, EndedAt s id time ∧ now ≤ time + r.terminalWindow)

/-- A file of a job that ended longer ago and owns no printer. -/
def Expired (r : Retention) (now : Time) (s : Service) (path : String) : Prop :=
  ∃ id job, s.db.job id = some job ∧ job.refersTo path ∧ job.status ∈ terminalJobStatuses ∧
    (∀ p, (s.db.printers p).currentJobId ≠ some id) ∧ ∃ time, EndedAt s id time ∧ time + r.terminalWindow < now

/-- A pass that leaves `kept` of `files`, with the three clock readings, has deleted nothing that is needed. -/
structure Retained (r : Retention) (s : Service) (files kept : StoredFiles)
    (terminalNow partialNow orphanNow : Time) : Prop where
  needed : ∀ path ∈ files, Needed r terminalNow s path → path ∈ kept
  removed : ∀ path ∈ files, path ∉ kept → endsWith ".stl" path = true ∨ endsWith ".3mf" path = true →
    Expired r terminalNow s path ∨ ∀ id job, s.db.job id = some job → ¬ job.refersTo path
  recent : ∀ path mtime, files.lookup path = some mtime → partialNow ≤ mtime + r.partialWindow →
    orphanNow ≤ mtime + r.orphanWindow → path ∉ kept → Expired r terminalNow s path

variable {s s' : Service} {e : Event} {id : JobId} {job : Job} {time : Time} {path : String}

/-! ## Times -/

/-- What a job has ended with, it keeps. -/
theorem ended_path (hr : service.Reach uuidNames s) (hp : service.Path uuidNames s s')
    (hj : s.db.job id = some job) (hs : job.status ∈ terminalJobStatuses) :
    ∃ job', s'.db.job id = some job' ∧ job'.status ∈ terminalJobStatuses ∧ job'.printEndedAt = job.printEndedAt := by
  refine hp.keeps (P := fun t => ∃ job', t.db.job id = some job' ∧ job'.status ∈ terminalJobStatuses ∧
    job'.printEndedAt = job.printEndedAt) hr ⟨job, hj, hs, rfl⟩ ?_
  rintro a e b - ⟨i, hi, hst, htime⟩ - hstep
  obtain ⟨i', hi', hst', htime'⟩ := (stamped_step hstep).kept id i hi hst
  exact ⟨i', hi', hst', htime'.trans htime⟩

/-- **The stamp of a job is the time at which it ended.** -/
theorem EndedAt.stamp (h : EndedAt s id time) (hj : s.db.job id = some job) : job.printEndedAt = some time := by
  obtain ⟨a, e, b, hr, hno, hok, hstep, ⟨i, hi, hst⟩, rfl, hp⟩ := h
  have hstamp : i.printEndedAt = some a.clock := (stamped_step hstep).stamped id i hi hst hno
  obtain ⟨i', hi', -, htime⟩ := ended_path (hr.step hok hstep) hp hi hst
  cases Option.some.inj (hi'.symm.trans hj)
  exact htime.trans hstamp

/-- A job that is terminal has ended at some time. -/
theorem endedAt_of_ended (hr : service.Reach uuidNames s) (h : s.db.Ended id) : ∃ time, EndedAt s id time := by
  obtain ⟨s₀, hinit, hp⟩ := hr
  have hno : ¬ s₀.db.Ended id := by
    obtain ⟨cfg, now, rfl⟩ := hinit
    rintro ⟨j, hj, -⟩
    cases hj
  obtain ⟨a, e, b, hpre, hnot, hok, hstep, hrest⟩ := hp.established (P := fun t : Service => t.db.Ended id) hno h
  have hrest' : service.Path uuidNames b s := hrest.mono fun _ _ hok => hok.1
  have hb : b.db.Ended id := hrest.start (P := fun t : Service => t.db.Ended id) h
  exact ⟨a.clock, a, e, b, ⟨s₀, hinit, hpre⟩, hnot, hok, hstep, hb, rfl, hrest'⟩

/-! ## Names -/

/-- What a row refers to is neither empty nor an unfinished upload. -/
theorem Job.Named.stored (h : job.Named id) (href : job.refersTo path) :
    path ≠ "" ∧ endsWith ".part" path = false := by
  have hlast : path.toList.getLast? = some 'l' ∨ path.toList.getLast? = some 'f' := by
    obtain ⟨cfg, hstl⟩ := h.model
    rcases href with rfl | hsliced
    · rw [hstl]
      exact .inl uploadPath_getLast
    · obtain ⟨dir, p, rfl⟩ := h.slice path hsliced
      exact .inr sliceOutput_getLast
  constructor
  · rintro rfl
    rcases hlast with h | h <;> cases h
  · rw [Bool.eq_false_iff]
    intro hpart
    rw [endsWith_getLast hpart (by decide)] at hlast
    exact absurd hlast (by decide)

/-! ## The theorem -/

variable {r : Retention} {now : Time} {files : StoredFiles}

/-- What the first rule deletes is a file of an expired job. -/
theorem expired_of_mem (hr : service.Reach uuidNames s) (hexpired : (id, job) ∈ expiredJobs s.db (now - r.terminalWindow))
    (hfree : id ∉ protectedIds s.db) (href : job.refersTo path) : Expired r now s path := by
  obtain ⟨hj, hs, t, hstamp, hlt⟩ := mem_expiredJobs.mp hexpired
  have huuid : IsUuid id := ((fileNames_of_reach hr).rows id job hj).uuid
  obtain ⟨time, hended⟩ := endedAt_of_ended hr ⟨job, hj, hs⟩
  refine ⟨id, job, hj, href, hs, fun p hp => ?_, time, hended, ?_⟩
  · exact hfree (mem_protectedIds.mpr ⟨⟨p, hp⟩, huuid.ne_empty⟩)
  · cases Option.some.inj ((hended.stamp hj).symm.trans hstamp)
    exact Nat.add_lt_of_lt_sub hlt

/-- An expired file is not needed: its job is the only one that refers to it. -/
theorem Expired.not_needed (hr : service.Reach uuidNames s) (h : Expired r now s path) : ¬ Needed r now s path := by
  obtain ⟨id, job, hj, href, hs, hfree, time, hended, hlt⟩ := h
  rintro ⟨k, i, hi, href', hneed⟩
  have hN := fileNames_of_reach hr
  have hk : id = k := owner_unique (hN.rows id job hj) (hN.rows k i hi) href href'
  subst hk
  cases Option.some.inj (hj.symm.trans hi)
  rcases hneed with hactive | ⟨p, hp⟩ | ⟨time', hended', hle⟩
  · exact hactive hs
  · exact hfree p hp
  · cases Option.some.inj ((hended.stamp hj).symm.trans (hended'.stamp hj))
    exact Nat.not_le_of_lt hlt hle

/-- **Maintenance never deletes a needed file**: in every reachable state, for every set of files with any
    modification times, any directories and any readings of the clock, a pass keeps every file of a job that has not
    ended, owns a printer, or ended less than the retention time ago; and every model and slice it deletes belongs to
    an expired job that owns no printer, or no row refers to it. -/
theorem retention {cfg : Settings} {terminalNow partialNow orphanNow : Time} (hr : service.Reach uuidNames s) :
    Retained r s files (runOnce cfg r s.db files terminalNow partialNow orphanNow)
      terminalNow partialNow orphanNow := by
  have hN := fileNames_of_reach hr
  constructor
  · intro path hin hneed
    by_contra hout
    rcases removed_cases hin hout with ⟨id, job, hexpired, hfree, href⟩ | ⟨hpart, -⟩ | ⟨-, hunref, -⟩
    · exact (expired_of_mem hr hexpired hfree href).not_needed hr hneed
    -- the other two rules spare what a row refers to
    · obtain ⟨id, job, hj, href, -⟩ := hneed
      rw [((hN.rows id job hj).stored href).2] at hpart
      cases hpart
    · obtain ⟨id, job, hj, href, -⟩ := hneed
      exact hunref (mem_referencedPaths.mpr ⟨id, job, hj, href, ((hN.rows id job hj).stored href).1⟩)
  · intro path hin hout hsuffix
    rcases removed_cases hin hout with ⟨id, job, hexpired, hfree, href⟩ | ⟨hpart, -⟩ | ⟨-, hunref, -⟩
    · exact .inl (expired_of_mem hr hexpired hfree href)
    · -- a partial upload is neither a model nor a slice
      have hlast := endsWith_getLast hpart (by decide)
      rcases hsuffix with hstl | hslice
      · rw [endsWith_getLast hstl (by decide)] at hlast
        exact absurd hlast (by decide)
      · rw [endsWith_getLast hslice (by decide)] at hlast
        exact absurd hlast (by decide)
    · refine .inr fun id job hj href => hunref (mem_referencedPaths.mpr ⟨id, job, hj, href, ?_⟩)
      exact ((hN.rows id job hj).stored href).1
  · intro path mtime hm hpartial horphan hout
    have hin : path ∈ files := AList.lookup_isSome.mp (by rw [hm]; rfl)
    rcases removed_cases hin hout with ⟨id, job, hexpired, hfree, href⟩ | ⟨-, hold⟩ | ⟨-, -, hold⟩
    · exact expired_of_mem hr hexpired hfree href
    · rw [olderThan_window hm hpartial] at hold
      cases hold
    · rw [olderThan_window hm horphan] at hold
      cases hold

/-! ## A pass -/

/-- Whether an upload is named by a UUID. -/
def Event.uuidNamed (_ : Service) : Event → Bool
  | .upload id _ => IsUuid id
  | _ => true

theorem uuidNames_of_check (s : Service) (e : Event) (h : Event.uuidNamed s e = true) : uuidNames s e := by
  rintro id form rfl
  exact of_decide_eq_true h

namespace Script

/-- One day for the files of ended jobs, one hour for partial uploads, one day for orphans. -/
def shortRetention : Retention := ⟨1, 1, 24, by decide, by decide, by decide⟩

def cancelledId : JobId := "123e4567-e89b-42d3-a456-426614174000"

def pendingId : JobId := "123e4567-e89b-42d3-a456-426614174001"

/-- Two uploads, one of which is cancelled. -/
def cancelOne : List Event := [.boot p1sOnly, .reconcile, upload cancelledId, upload pendingId, .cancel cancelledId]

def later : Time := 1000000000000

/-- The models of both jobs, a model and an upload of a request that was cut short, and a slice that is being
    written. -/
def oldFiles : StoredFiles :=
  let old : List (String × Time) := [(uploadPath p1sOnly cancelledId, 0), (uploadPath p1sOnly pendingId, 0),
    ("data/uploads/cut-short.stl", 0), ("data/uploads/cut-short.stl.part", 0), ("data/sliced/new.gcode.3mf", later)]
  old.foldr (fun file files => files.insert file.1 file.2) ∅

/-- What a pass eleven days later leaves. -/
def keptFiles (s : Service) : StoredFiles := runOnce p1sOnly shortRetention s.db oldFiles later later later

end Script

/-- The pass keeps the model of the pending job and the slice that is being written, and deletes the rest. -/
theorem retention_cancelled : ∃ s, service.Reach uuidNames s ∧
    (Script.keptFiles s).keys = [uploadPath Script.p1sOnly Script.pendingId, "data/sliced/new.gcode.3mf"] ∧
    Retained Script.shortRetention s Script.oldFiles (Script.keptFiles s) Script.later Script.later Script.later := by
  obtain ⟨s, hr, hs⟩ := Machine.reach_of_run (M := service) uuidNames_of_check Script.cancelOne
    (fun s => (Script.keptFiles s).keys = [uploadPath Script.p1sOnly Script.pendingId, "data/sliced/new.gcode.3mf"])
    (service_init Script.p1sOnly 0) (by decide +kernel)
  exact ⟨s, hr, of_decide_eq_true hs, retention hr⟩

end BambuBabu
