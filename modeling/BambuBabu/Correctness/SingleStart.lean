import BambuBabu.Service.Views

/-!
# `Correctness.SingleStart` — at most one physical start per job

A job is sent to a printer by one edge of the transition graph, QUEUED → UPLOADING, and no edge leads back
before it. So at most one dispatch worker ever exists for a job; its position only moves forward, and it
uploads and publishes at one position each. Crashes lose workers, and reconciliation never returns a job that
was sent to the queue.

* `Counted` — the invariant: what has been called agrees with where the job and its worker are.
* `single_start` — **the theorem**: one upload and one start command per job at most, over any run with any
  number of restarts, and none for a job that was cancelled or rejected.
-/

namespace BambuBabu

open Runs

/-- How often `upload_file` was called for a job. -/
def uploads (id : JobId) (history : List Occurrence) : Nat :=
  history.countP fun o => match o with
    | .uploaded k _ _ => k = id
    | _ => false

/-- How often the start command of a job was published. -/
def publishes (id : JobId) (history : List Occurrence) : Nat :=
  history.countP fun o => match o with
    | .published k _ => k = id
    | _ => false

section counts

variable (id k : JobId) (p : PrinterID) (h : List Occurrence)

@[simp] theorem uploads_uploaded (path : String) :
    uploads id (.uploaded k p path :: h) = uploads id h + if k = id then 1 else 0 := by
  simp [uploads, List.countP_cons]

@[simp] theorem uploads_published : uploads id (.published k p :: h) = uploads id h := by
  simp [uploads]

@[simp] theorem publishes_uploaded (path : String) :
    publishes id (.uploaded k p path :: h) = publishes id h := by
  simp [publishes]

@[simp] theorem publishes_published :
    publishes id (.published k p :: h) = publishes id h + if k = id then 1 else 0 := by
  simp [publishes, List.countP_cons]

end counts

variable {s s' : Service}

/-- What has been called agrees with where the jobs and the workers are. -/
structure Counted (s : Service) : Prop where
  /-- Nothing was called for a job that has not been sent to a printer. -/
  unsent : ∀ id, (∀ j, s.db.job id = some j → j.status ∉ owning) →
    uploads id s.history = 0 ∧ publishes id s.history = 0
  /-- A worker that has not reached a call has not made it. -/
  beforeUpload : ∀ h ∈ s.handoffs, h.pc.order < 1 → uploads h.id s.history = 0
  beforePublish : ∀ h ∈ s.handoffs, h.pc.order < 5 → publishes h.id s.history = 0
  /-- No call was made twice. -/
  once : ∀ id, uploads id s.history ≤ 1 ∧ publishes id s.history ≤ 1

/-- Two workers of one job are at one position. -/
theorem Disciplined.same_position (hD : Disciplined s) {i k : Nat} {h h' : Handoff}
    (hi : s.handoffs[i]? = some h) (hk : s.handoffs[k]? = some h') (hid : h'.id = h.id) : k = i := by
  have hi' : (s.handoffs.map Handoff.id)[i]? = some h.id := by rw [List.getElem?_map, hi]; rfl
  have hk' : (s.handoffs.map Handoff.id)[k]? = some h.id := by rw [List.getElem?_map, hk, Option.map_some, hid]
  obtain ⟨hlt, hval⟩ := List.getElem?_eq_some_iff.mp hi'
  obtain ⟨hlt', hval'⟩ := List.getElem?_eq_some_iff.mp hk'
  exact (hD.distinct.getElem_inj_iff).mp (hval'.trans hval.symm)

/-- After one worker moved on, another entry of the list is another job's. -/
theorem Disciplined.mem_set (hD : Disciplined s) {i : Nat} {h h' : Handoff} {pc : HandoffPc}
    (hi : s.handoffs[i]? = some h) (hh' : h' ∈ s.handoffs.set i { h with pc := pc }) :
    h' = { h with pc := pc } ∨ (h' ∈ s.handoffs ∧ h'.id ≠ h.id) := by
  obtain ⟨k, hlt, rfl⟩ := List.mem_iff_getElem.mp hh'
  rw [List.getElem_set]
  split
  · exact .inl rfl
  · next hne =>
      rw [List.length_set] at hlt
      exact .inr ⟨List.getElem_mem hlt, fun hid =>
        hne (hD.same_position hi (List.getElem?_eq_getElem hlt) hid).symm⟩

/-- A step without a call keeps the counts. -/
theorem Counted.quiet {e : Event} (hC : Counted s) (ht : Trans s e s')
    (hu : ∀ id, uploads id s'.history = uploads id s.history)
    (hp : ∀ id, publishes id s'.history = publishes id s.history) : Counted s' where
  unsent id h := by rw [hu, hp]; exact hC.unsent id (ht.unsent_before h)
  beforeUpload h' hh' hpc := by
    rw [hu]
    rcases ht.handoffs.mem hh' with ⟨h, hh, hid, -, -, hle⟩ | ⟨j, _, hj, hs, -⟩
    · rw [hid]; exact hC.beforeUpload h hh (by omega)
    · exact (hC.unsent h'.id fun i hi => by
        cases Option.some.inj (hj.symm.trans hi); rw [hs]; decide).1
  beforePublish h' hh' hpc := by
    rw [hp]
    rcases ht.handoffs.mem hh' with ⟨h, hh, hid, -, -, hle⟩ | ⟨j, _, hj, hs, -⟩
    · rw [hid]; exact hC.beforePublish h hh (by omega)
    · exact (hC.unsent h'.id fun i hi => by
        cases Option.some.inj (hj.symm.trans hi); rw [hs]; decide).2
  once id := by rw [hu, hp]; exact hC.once id

/-- **Every step keeps the counts.** -/
theorem Counted.step {e : Event} (hC : Counted s) (hD : Disciplined s) (ht : Trans s e s') : Counted s' := by
  cases ht.history with
  | same hist => exact hC.quiet ht (fun _ => by rw [hist]) (fun _ => by rw [hist])
  | sliced hist => exact hC.quiet ht (fun _ => by simp [hist, uploads]) (fun _ => by simp [hist, publishes])
  | reported _ hist =>
      exact hC.quiet ht (fun _ => by simp [hist, uploads]) (fun _ => by simp [hist, publishes])
  | processed _ _ _ hist =>
      exact hC.quiet ht (fun _ => by simp [hist, uploads]) (fun _ => by simp [hist, publishes])
  | dispatched _ _ _ _ _ _ _ hist =>
      exact hC.quiet ht (fun _ => by simp [hist, uploads]) (fun _ => by simp [hist, publishes])
  | @uploaded i h path hh hpc _ hs hdb hist =>
      have hmem : h ∈ s.handoffs := List.mem_of_getElem? hh
      -- the worker stands before its upload, so neither has been counted for its job
      have hzero := hC.beforeUpload h hmem (by rw [hpc]; decide)
      have hpub := hC.beforePublish h hmem (by rw [hpc]; decide)
      refine ⟨fun id hun => ?_, fun h' hh' hlt => ?_, fun h' hh' hlt => ?_, fun id => ?_⟩
      · -- the worker's job has been sent
        have hne : h.id ≠ id := by
          rintro rfl
          obtain ⟨j, hj, hown, -⟩ := hD.sent h hmem
          exact hun j (hdb ▸ hj) hown
        rw [hist, uploads_uploaded, publishes_uploaded, if_neg hne]
        exact hC.unsent id (hdb ▸ hun)
      · rw [hs] at hh'
        rcases hD.mem_set hh hh' with rfl | ⟨hold, hne⟩
        · exact absurd hlt (by simp [HandoffPc.order])
        · rw [hist, uploads_uploaded, if_neg (Ne.symm hne)]
          exact hC.beforeUpload h' hold hlt
      · rw [hs] at hh'
        rw [hist, publishes_uploaded]
        rcases hD.mem_set hh hh' with rfl | ⟨hold, -⟩
        · exact hpub
        · exact hC.beforePublish h' hold hlt
      · rw [hist, uploads_uploaded, publishes_uploaded]
        refine ⟨?_, (hC.once id).2⟩
        split
        · next heq => rw [← heq, hzero]
        · exact (hC.once id).1
  | @published i b h hh hpc hs hdb hist =>
      have hmem : h ∈ s.handoffs := List.mem_of_getElem? hh
      have hzero := hC.beforePublish h hmem (by simp [hpc, HandoffPc.order])
      refine ⟨fun id hun => ?_, fun h' hh' hlt => ?_, fun h' hh' hlt => ?_, fun id => ?_⟩
      · have hne : h.id ≠ id := by
          rintro rfl
          obtain ⟨j, hj, hown, -⟩ := hD.sent h hmem
          exact hun j (hdb ▸ hj) hown
        rw [hist, uploads_published, publishes_published, if_neg hne]
        exact hC.unsent id (hdb ▸ hun)
      · rw [hs] at hh'
        rw [hist, uploads_published]
        rcases hD.mem_set hh hh' with rfl | ⟨hold, -⟩
        · exact absurd hlt (by simp [HandoffPc.order])
        · exact hC.beforeUpload h' hold hlt
      · rw [hs] at hh'
        rcases hD.mem_set hh hh' with rfl | ⟨hold, hne⟩
        · exact absurd hlt (by simp [HandoffPc.order])
        · rw [hist, publishes_published, if_neg (Ne.symm hne)]
          exact hC.beforePublish h' hold hlt
      · rw [hist, uploads_published, publishes_published]
        refine ⟨(hC.once id).1, ?_⟩
        split
        · next heq => rw [← heq, hzero]
        · exact (hC.once id).2

theorem counted_of_reach {ok : Service → Event → Prop} (h : service.Reach ok s) : Counted s :=
  h.invariant
    (fun s hinit => by
      obtain ⟨cfg, now, rfl⟩ := hinit
      exact ⟨fun _ _ => ⟨rfl, rfl⟩, fun _ hh => (by cases hh), fun _ hh => (by cases hh),
        fun _ => ⟨Nat.zero_le _, Nat.zero_le _⟩⟩)
    fun _ _ _ hr hC _ hstep => hC.step (disciplined_of_reach hr) (trans_of_reach hr hstep)

/-- A job that was cancelled or rejected stays so over any run. -/
theorem withdrawn_stays {ok : Service → Event → Prop} {id : JobId} {j : Job} (h : service.Reach ok s)
    (hrun : service.Path ok s s') (hj : s.db.job id = some j) (hs : j.status ∈ [.cancelled, .rejected]) :
    ∃ j', s'.db.job id = some j' ∧ j'.status ∈ [.cancelled, .rejected] := by
  refine hrun.keeps (P := fun s => ∃ j, s.db.job id = some j ∧ j.status ∈ [.cancelled, .rejected]) h
    ⟨j, hj, hs⟩ ?_
  rintro s e s' hr ⟨i, hi, hst⟩ - hstep
  have hfinal : allowedJobTransitions i.status = [] :=
    allowed_of_terminal (by revert hst; cases i.status <;> decide)
  obtain ⟨i', hi', hst'⟩ := (trans_of_reach hr hstep).moves.final hi hfinal
  exact ⟨i', hi', hst' ▸ hst⟩

/-- **At most one physical start per job.** Over any run the file of a job is uploaded at most once and its
    start command published at most once, and from the moment a job is cancelled or rejected neither has
    been or will be done. -/
theorem single_start (h : service.Reach always s) (hrun : service.Path always s s') :
    (∀ id, uploads id s'.history ≤ 1 ∧ publishes id s'.history ≤ 1) ∧
    ∀ id j, s.db.job id = some j → j.status ∈ [.cancelled, .rejected] →
      uploads id s'.history = 0 ∧ publishes id s'.history = 0 := by
  have hC := counted_of_reach (h.path hrun)
  refine ⟨hC.once, fun id j hj hs => hC.unsent id fun j' hj' => ?_⟩
  obtain ⟨i, hi, hst⟩ := withdrawn_stays h hrun hj hs
  cases Option.some.inj (hj'.symm.trans hi)
  revert hst
  cases j'.status <;> decide

/-- One job is cancelled while another is printed. -/
theorem single_start_run : ∃ s s' : Service, (s.db.job "b").map Job.status = some .cancelled ∧
    uploads "a" s'.history = 1 ∧ publishes "a" s'.history = 1 ∧
    (∀ id, uploads id s'.history ≤ 1 ∧ publishes id s'.history ≤ 1) ∧
    ∀ id j, s.db.job id = some j → j.status ∈ [.cancelled, .rejected] →
      uploads id s'.history = 0 ∧ publishes id s'.history = 0 := by
  obtain ⟨s, s', hr, hb, hp, ha⟩ := Machine.reach_follows_of_run (M := service) Machine.always_of_anyStep
    (Script.online ++ Script.reportState .idle ++ [Script.upload "a"] ++ Script.slice "a" ++
      [Script.upload "b", .cancel "b"])
    (Script.dispatch ++ Script.transfer ++ Script.publish)
    (fun s => (s.db.job "b").map Job.status = some .cancelled)
    (fun s => uploads "a" s.history = 1 && publishes "a" s.history = 1)
    (service_init Script.p1sOnly 0) (by decide +kernel)
  simp only [Bool.and_eq_true, decide_eq_true_eq] at hb ha
  exact ⟨s, s', hb, ha.1, ha.2, single_start hr hp.path⟩

end BambuBabu
