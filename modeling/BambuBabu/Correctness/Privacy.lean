import BambuBabu.Correctness.Admission
import BambuBabu.Service.Redacted

/-!
# `Correctness.Privacy` — does the API tell anything about an e-mail address?

The dictionaries of the API leave `user_email` out. That alone does not keep the addresses private: a request could
succeed or fail by them, an error could quote them, and a worker could act on them. None of this happens; only that an
address is not valid is told, to the user who has entered it.

* `Service.answer`, `Service.reply`, `Service.uploadReply` — what a GET, any other request and an upload are answered
  with; `SameAnswers` — two states that answer alike.
* `privacy` — **the theorem**: two runs that differ in addresses only cannot be told apart by their answers.
-/

namespace BambuBabu

open Storage Runs

/-- What a request other than a GET returns. -/
inductive Api.Reply where
  | message (text : String)
  /-- `acknowledge-idle` adds two fields of the snapshot. -/
  | acknowledged (text : String) (status : LiveStatus) (gcodeState : GcodeState)

/-- The response to a GET. -/
def Service.answer (s : Service) (q : Api.Query) : Api.Response := Api.respond s.settings s.live s.db q

/-- The response to `acknowledge-idle`, where it asks the live client and where it has been answered. -/
def Service.acknowledgeReply (s : Service) : PrinterID × Callback → Option (Except Exc Api.Reply)
  | (p, .acknowledging) =>
      match (s.live p).acknowledgePhysicallyIdle p with
      | .error exc => some (.error (.httpException 409 exc.str))
      | .ok _ => none
  | (p, .acknowledged snap) =>
      some (.ok (.acknowledged s!"{p.value} acknowledged as physically idle" snap.status snap.gcodeState))
  | _ => none

/-- The response to another request, if it is decided in this step. -/
def Service.reply (s : Service) : Event → Option (Except Exc Api.Reply)
  | .upload id form =>
      some (((commitUpload s.settings s.clock id form).commit s.db).1.map fun _ => .message "Job accepted for analysis")
  | .cancel id => some (((cancelJob s.clock id).commit s.db).1.map .message)
  | .plateCleared p => some (((markPlateCleared s.settings s.clock p).commit s.db).1.map .message)
  | .acknowledgeIdle p =>
      match ((acknowledgeChecks s.settings p).commit s.db).1 with
      | .error e => some (.error e)
      | .ok _ => none
  | .callback i => s.pending[i]?.bind s.acknowledgeReply
  | _ => none

/-- The response to an upload that finds these files, when nothing fails or comes in between. -/
def Service.uploadReply (s : Service) (limits : UploadLimits) (emailStr : String → Option String) (id : JobId)
    (files : Files String Bytes) (r : UploadRequest) : Except Exc String :=
  ((handleUpload reliable limits s.settings emailStr s.clock id r).exec ⟨files, s.db, none⟩).1

/-- Two uploads that differ in their addresses only, which are both valid or both not. -/
structure UploadRequest.Twin (emailStr : String → Option String) (r r' : UploadRequest) : Prop where
  same : r' = { r with userEmail := r'.userEmail }
  valid : (emailStr r.userEmail).isSome = (emailStr r'.userEmail).isSome

/-- **The two states answer every request alike**, up to the address in it. -/
structure Service.SameAnswers (s t : Service) : Prop where
  gets : ∀ q, s.answer q = t.answer q
  requests : ∀ e e', e.redacted = e'.redacted → s.reply e = t.reply e'
  uploads : ∀ limits emailStr id files (r r' : UploadRequest), Unused s.settings id ⟨files, s.db, none⟩ →
    r.Twin emailStr r' → s.uploadReply limits emailStr id files r = t.uploadReply limits emailStr id files r'

/-! ## The answers -/

namespace Api

variable (d : Db)

theorem getAllJobs_redacted (limit : Nat) : getAllJobs d.redacted limit = (getAllJobs d limit).map redactedRow := by
  unfold getAllJobs
  rw [Db.jobsWhere_redacted (fun _ => rfl) fun _ _ => rfl, List.map_take]

theorem listJobs_redacted (limit : Nat) : listJobs d.redacted limit = listJobs d limit := by
  unfold listJobs
  rw [getAllJobs_redacted, List.map_map]
  rfl

theorem getJob_redacted (id : JobId) : getJob d.redacted id = getJob d id := by
  unfold getJob
  rw [Db.job_redacted]
  cases d.job id <;> rfl

theorem jobLogs_redacted (id : JobId) (limit : Nat) : jobLogs d.redacted id limit = jobLogs d id limit := by
  unfold jobLogs
  rw [Db.job_redacted]
  cases d.job id <;> rfl

theorem printerHistory_redacted (p : PrinterID) : printerHistory d.redacted p = printerHistory d p := by
  unfold printerHistory
  dsimp only
  rw [Db.jobsWhere_redacted (fun _ => rfl) fun _ _ => rfl, ← List.map_take, List.map_map]
  rfl

theorem stats_redacted : stats d.redacted = stats d := by
  unfold stats
  dsimp only
  rw [getAllJobs_redacted, List.length_map]
  simp only [List.countP_map]
  rfl

/-- **No response looks at an address.** -/
theorem respond_redacted (cfg : Settings) (live : PrinterID → BambuPrinter) (q : Query) :
    respond cfg live d.redacted q = respond cfg live d q := by
  cases q with
  | listJobs limit => exact congrArg Response.jobs (listJobs_redacted d limit)
  | getJob id => exact congrArg Response.job (getJob_redacted d id)
  | jobLogs id limit => exact congrArg Response.jobLogs (jobLogs_redacted d id limit)
  | getLogs limit => rfl
  | getPrinters => rfl
  | printerHistory p => exact congrArg Response.history (printerHistory_redacted d p)
  | stats => exact congrArg Response.stats (stats_redacted d)

end Api

/-! ## Uploads -/

section upload

variable {limits : UploadLimits} {cfg : Settings} {emailStr : String → Option String} {now : Time} {id : JobId}
  {r r' : UploadRequest} {h : Host} {decision decision' : Except Exc UploadForm}

/-- The address decides nothing but whether there is a form. -/
theorem UploadRequest.Twin.form (ht : r.Twin emailStr r') :
    (r'.form emailStr).map UploadForm.redacted = (r.form emailStr).map UploadForm.redacted := by
  have hvalid := ht.valid
  rw [ht.same]
  unfold UploadRequest.form
  dsimp only
  by_cases hfile : singleLine (fileName (r.filename.getD "")) 256 = "" ∨
      (fileSuffix (singleLine (fileName (r.filename.getD "")) 256)).toLower ≠ ".stl"
  · rw [if_pos hfile, if_pos hfile]
  · rw [if_neg hfile, if_neg hfile]
    cases hmail : emailStr r.userEmail <;> cases hmail' : emailStr r'.userEmail <;> rw [hmail, hmail'] at hvalid
    · cases hvalid
    · cases hvalid
    · dsimp only
      by_cases hname : singleLine r.userName 128 = ""
      · rw [if_pos hname, if_pos hname]
      · rw [if_neg hname, if_neg hname]
        rfl

/-- The decision on two forms that differ in their addresses only. -/
theorem admission_twin {form form' : Except Exc UploadForm} {active storage : Nat} {content : Bytes} {text : String}
    (hform : form'.map UploadForm.redacted = form.map UploadForm.redacted) :
    (admission limits form' active storage content).map (fun _ => text)
      = (admission limits form active storage content).map fun _ => text := by
  cases form with
  | error e =>
      cases form' with
      | error e' => cases hform; rfl
      | ok form' => cases hform
  | ok form =>
      cases form' with
      | error e' => cases hform
      | ok form' =>
          unfold admission
          dsimp only [bind, Except.bind]
          split_ifs <;> first
            | rfl
            | cases validateStlFile content <;> rfl

theorem Db.countActiveJobs_redacted (d : Db) : d.redacted.countActiveJobs = d.countActiveJobs := by
  have hrows : d.redacted.jobs.rows = d.jobs.rows.map redactedRow := rfl
  unfold countActiveJobs
  rw [hrows, List.filter_map, List.length_map]
  rfl

theorem unused_redacted {files : Files String Bytes} {d : Db} :
    Unused cfg id ⟨files, d.redacted, none⟩ ↔ Unused cfg id ⟨files, d, none⟩ := by
  have hrow : d.redacted.job id = none ↔ d.job id = none := by rw [Db.job_redacted, Option.map_eq_none_iff]
  constructor
  · rintro ⟨hjob, hlog, hpart, hfinal⟩
    exact ⟨hrow.mp hjob, hlog, hpart, hfinal⟩
  · rintro ⟨hjob, hlog, hpart, hfinal⟩
    exact ⟨hrow.mpr hjob, hlog, hpart, hfinal⟩

/-- The answer is the decision, without the form. -/
theorem Answered.reply {content : Bytes} {answer : Except Exc String} {h₀ : Host}
    (h' : Answered cfg now id h₀ content decision answer h) :
    answer = decision.map fun _ => "Job accepted for analysis" := by
  cases h' <;> rfl

end upload

namespace Service

variable (s : Service)

theorem answer_redacted (q : Api.Query) : s.redacted.answer q = s.answer q := Api.respond_redacted ..

/-- **An upload is decided without its address.** -/
theorem uploadReply_redacted {limits : UploadLimits} {emailStr : String → Option String} {id : JobId}
    {files : Files String Bytes} {r r' : UploadRequest} (hnew : Unused s.settings id ⟨files, s.db, none⟩)
    (ht : r.Twin emailStr r') :
    s.redacted.uploadReply limits emailStr id files r' = s.uploadReply limits emailStr id files r := by
  have hnew' : Unused s.redacted.settings id ⟨files, s.redacted.db, none⟩ := unused_redacted.mpr hnew
  unfold uploadReply
  rw [(upload_decision limits _ emailStr _ id r' _ hnew').reply, (upload_decision limits _ emailStr _ id r _ hnew).reply]
  have hcontent : r'.content = r.content := by
    rw [ht.same]
    rfl
  unfold Host.decision
  rw [show s.redacted.db = s.db.redacted from rfl, Db.countActiveJobs_redacted, hcontent]
  exact admission_twin ht.form

theorem reply_redacted (e : Event) : s.redacted.reply e.redacted = s.reply e := by
  cases e with
  | upload id form =>
      simp only [Event.redacted, reply, redacted, commit_redacted commitUpload_blind]
  | cancel id =>
      simp only [Event.redacted, reply, redacted, commit_redacted cancelJob_blind]
  | plateCleared p =>
      simp only [Event.redacted, reply, redacted, commit_redacted markPlateCleared_blind]
  | acknowledgeIdle p =>
      simp only [Event.redacted, reply, redacted, commit_redacted acknowledgeChecks_blind]
  -- what the live client answers does not come from the database
  | callback i => rfl
  | _ => rfl

/-- A step from one of two states that differ in addresses only. -/
theorem step_twin {s t s' : Service} {e e' : Event} (hst : s.redacted = t.redacted) (he : e.redacted = e'.redacted)
    (h : s.step e = some s') : ∃ t', t.step e' = some t' ∧ s'.redacted = t'.redacted := by
  have hred : t.redacted.step e'.redacted = some s'.redacted := by
    rw [← hst, ← he, step_redacted, h, Option.map_some]
  rw [step_redacted] at hred
  obtain ⟨t', ht', hsame⟩ := Option.map_eq_some_iff.mp hred
  exact ⟨t', ht', hsame.symm⟩

/-- A run. -/
theorem follows_twin {es es' : List Event} {s t s' : Service} (hst : s.redacted = t.redacted)
    (hes : es.map Event.redacted = es'.map Event.redacted) (h : service.Follows always s es s') :
    ∃ t', service.Follows always t es' t' ∧ s'.redacted = t'.redacted := by
  induction h generalizing t es' with
  | nil =>
      cases List.map_eq_nil_iff.mp hes.symm
      exact ⟨t, .nil, hst⟩
  | cons _ hstep _ ih =>
      rw [List.map_cons] at hes
      obtain ⟨e', rest, rfl, he, hrest⟩ := List.map_eq_cons_iff.mp hes.symm
      obtain ⟨t₁, ht₁, hsame⟩ := step_twin hst he.symm hstep
      obtain ⟨t', ht', hend⟩ := ih hsame hrest.symm
      exact ⟨t', .cons trivial ht₁ ht', hend⟩

end Service

/-- States that differ in addresses only answer alike. -/
theorem Service.sameAnswers {s t : Service} (hsame : s.redacted = t.redacted) : s.SameAnswers t := by
  constructor
  · intro q
    rw [← s.answer_redacted, hsame, t.answer_redacted]
  · intro e e' he
    rw [← s.reply_redacted, hsame, he, t.reply_redacted]
  · intro limits emailStr id files r r' hnew ht
    have hself : r.Twin emailStr r := ⟨rfl, rfl⟩
    have hback : r'.Twin emailStr r := ⟨by rw [ht.same], ht.valid.symm⟩
    have hnew' : Unused t.settings id ⟨files, t.db, none⟩ := by
      have hred : Unused t.redacted.settings id ⟨files, t.redacted.db, none⟩ := hsame ▸ unused_redacted.mpr hnew
      exact unused_redacted.mp hred
    rw [← s.uploadReply_redacted hnew hself, hsame, t.uploadReply_redacted hnew' hback]

/-- **The addresses stay private**: take two states, and two schedules of uploads, requests, reports, steps of the
    workers and crashes, that differ in e-mail addresses only. Wherever the one leads the other leads as well, and there
    every request is answered in the same way. -/
theorem privacy {s t s' : Service} {es es' : List Event} (hst : s.redacted = t.redacted)
    (hes : es.map Event.redacted = es'.map Event.redacted) (h : service.Follows always s es s') :
    ∃ t', service.Follows always t es' t' ∧ s'.SameAnswers t' := by
  obtain ⟨t', ht', hsame⟩ := Service.follows_twin hst hes h
  exact ⟨t', ht', Service.sameAnswers hsame⟩

/-- A job is uploaded under some address, and sliced. -/
def addressed (email : String) : List Event :=
  Script.online ++ Script.reportState .idle ++ [.upload "a" ⟨"Ada", email, none, "part.stl"⟩] ++ Script.slice "a"

theorem privacy_addressed : ∃ s' t',
    service.Follows always (Service.fresh Script.p1sOnly 0) (addressed "ada@example.org") s' ∧
    s'.db.statusOf "a" = some .queued ∧
    service.Follows always (Service.fresh Script.p1sOnly 0) (addressed "eve@example.org") t' ∧
    s'.SameAnswers t' := by
  have hrun : (service.run Machine.anyStep (Service.fresh Script.p1sOnly 0) (addressed "ada@example.org")).any
      (fun s => decide (s.db.statusOf "a" = some .queued)) = true := by decide +kernel
  obtain ⟨s', hs, hqueued⟩ := (Option.any_eq_true _ _).mp hrun
  have hfollows : service.Follows always (Service.fresh Script.p1sOnly 0) (addressed "ada@example.org") s' :=
    Machine.follows_of_run Machine.always_of_anyStep hs
  have hsame : (addressed "ada@example.org").map Event.redacted = (addressed "eve@example.org").map Event.redacted := rfl
  obtain ⟨t', ht', hanswers⟩ := privacy rfl hsame hfollows
  exact ⟨s', t', hfollows, of_decide_eq_true hqueued, ht', hanswers⟩

end BambuBabu
