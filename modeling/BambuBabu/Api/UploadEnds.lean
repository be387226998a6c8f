import BambuBabu.Api.UploadStream

/-!
# `Api.UploadEnds` — how an upload request ends

The parts of `upload_job` after the stream, its handlers and `get_db`.

* `handleUpload_ends` — **the triple of the request**: an accepted one has stored everything (`Admitted`), a failed
  one leaves a file exactly if it did not clean up (`LeftBehind`), and it raises what an operation raised or what the
  decision says.
-/

namespace BambuBabu

open Storage Runs Runs.Code

variable {fails : UploadPoint → Option Exc} {limits : UploadLimits} {s : Settings} {emailStr : String → Option String}
  {now : Time} {id : JobId} {request : UploadRequest} {form : UploadForm} {h₀ h : Host} {a b : Option Bytes}
  {content : Bytes} {w : Db} {e : Exc} {P : Host → Prop} {E : Exc → Host → Prop}

/-! ## The commit -/

/-- The row and the log entry an upload adds. -/
def Db.uploaded (d : Db) (s : Settings) (now : Time) (id : JobId) (form : UploadForm) : Db :=
  (d.insertJob id (Job.submitted now form.userName form.userEmail form.description form.originalFilename
    (uploadPath s id))).insertLog
    { timestamp := now, level := .info, event := "JOB_UPLOADED",
      message := s!"{form.originalFilename} uploaded by {form.userName}", jobId := some id, printerId := none,
      extra := none }

/-- It is what the service's upload step commits. -/
theorem commitUpload_uploaded {d : Db} (now : Time) (form : UploadForm) (hnew : d.job id = none) :
    (commitUpload s now id form).commit d = (.ok (), d.uploaded s now id form) :=
  Txn.commit_of_ok (commitUpload_new hnew)

/-- What is left when the last part of `upload_job` raises: the written file, under one of its names. -/
inductive StoreLeft (fails : UploadPoint → Option Exc) (content : Bytes) : Option Bytes → Option Bytes → Prop
  | unmoved (h : ¬ MovesFile fails content) : StoreLeft fails content (some content) none
  | moved (h : MovesFile fails content) (hcommit : ¬ StoresRow fails) : StoreLeft fails content none (some content)

/-- How it raises. -/
def StoreRaised (fails : UploadPoint → Option Exc) (s : Settings) (id : JobId) (h₀ : Host) (content : Bytes) (e : Exc)
    (h : Host) : Prop :=
  (∃ ab : Option Bytes × Option Bytes, Holding s id h₀ ab.1 ab.2 h ∧ StoreLeft fails content ab.1 ab.2) ∧
    Caused fails (validateStlFile content = .error e) e

/-- The row cannot be committed. -/
theorem During.storeRaised (hh : During s id h₀ none (some content) w h) (hmoved : MovesFile fails content)
    {p : UploadPoint} (hp : fails p = some e) (hcommit : ¬ StoresRow fails) : StoreRaised fails s id h₀ content e h :=
  ⟨⟨(none, some content), hh.1, .moved hmoved hcommit⟩, .of_fails hp⟩

/-- The file keeps its first name. -/
theorem Streamed.storeRaised {written : Nat} (hh : Streamed limits s id h₀ content written h)
    (hmove : ¬ MovesFile fails content) (he : Caused fails (validateStlFile content = .error e) e) :
    StoreRaised fails s id h₀ content e h :=
  ⟨⟨(some content, none), hh.1.1, .unmoved hmove⟩, he⟩

/-- A statement that returns leaves its working copy in the session. -/
theorem inSession_triple {α : Type} {t : Tx α} {x : α} {w' : Db} (hrun : t.run w = (.ok x, w')) :
    Triple (During s id h₀ a b w) (inSession t) (fun y h => During s id h₀ a b w' h ∧ y = x) E := by
  apply Triple.act
  · rintro h y h' ⟨hh, hsession⟩ hr
    simp only [hsession, Option.getD_some, hrun, Prod.mk.injEq, Except.ok.injEq] at hr
    obtain ⟨rfl, rfl⟩ := hr
    exact ⟨⟨hh.session _, rfl⟩, rfl⟩
  · rintro h e h' ⟨hh, hsession⟩ hr
    simp only [hsession, Option.getD_some, hrun, Prod.mk.injEq, reduceCtorEq, false_and] at hr

/-- The state an upload ends in: its file is stored, and the database holds what its session wrote. -/
structure Stored (s : Settings) (id : JobId) (h₀ : Host) (content : Bytes) (w : Db) (h : Host) : Prop where
  part : h.files.lookup (partialPath s id) = none
  final : h.files.lookup (uploadPath s id) = some content
  others : ∀ path, path ≠ partialPath s id → path ≠ uploadPath s id → h.files.lookup path = h₀.files.lookup path
  db : h.db = w
  session : h.session = none

theorem commitSession_ends : Triple (During s id h₀ none (some content) w) (commitSession fails)
    (fun _ h => Stored s id h₀ content w h ∧ fails .commit = none)
    (fun e h => During s id h₀ none (some content) w h ∧ fails .commit = some e) := by
  apply Triple.act
  · rintro h ⟨⟩ h' ⟨hh, hsession⟩ hr
    rw [hsession] at hr
    cases hc : fails .commit <;> rw [hc] at hr <;> cases hr
    exact ⟨⟨hh.part, hh.final, hh.others, rfl, rfl⟩, rfl⟩
  · rintro h e h' ⟨hh, hsession⟩ hr
    rw [hsession] at hr
    cases hc : fails .commit <;> rw [hc] at hr <;> cases hr
    exact ⟨⟨hh, hsession⟩, rfl⟩

/-- The check of the written file. -/
theorem validate_ends {written : Nat} :
    Triple (Streamed limits s id h₀ content written)
      (.act fun h => ((h.files.lookup (partialPath s id)).elim (.error (.other "No such file or directory"))
        validateStlFile, h) : Code Host Exc Unit)
      (fun _ h => Streamed limits s id h₀ content written h ∧ validateStlFile content = .ok ())
      (StoreRaised fails s id h₀ content) := by
  apply Triple.act
  · rintro h ⟨⟩ h' hh hr
    rw [hh.1.1.part] at hr
    obtain ⟨hvalid, rfl⟩ := Prod.mk.inj hr
    exact ⟨hh, hvalid⟩
  · rintro h e h' hh hr
    rw [hh.1.1.part] at hr
    obtain ⟨hinvalid, rfl⟩ := Prod.mk.inj hr
    have hmove : ¬ MovesFile fails content := by
      intro hmoved
      cases hinvalid.symm.trans hmoved.valid
    exact hh.storeRaised hmove (.inr hinvalid)

/-- **The last part of `upload_job`**: a valid file is moved to its final name and committed. -/
theorem storeUpload_ends {written : Nat} (hnew : h₀.db.job id = none) :
    Triple (Streamed limits s id h₀ content written) (storeUpload fails s now id form)
      (fun _ h => Stored s id h₀ content (h₀.db.uploaded s now id form) h ∧ MovesFile fails content ∧ StoresRow fails)
      (StoreRaised fails s id h₀ content) := by
  apply Triple.attempt_bind
  · intro e h hh hfails
    exact hh.storeRaised (fun hm => nomatch hfails.symm.trans hm.validated) (.of_fails hfails)
  intro hvalidated
  apply validate_ends.bind
  intro _
  apply Triple.assume
  intro hvalid
  apply Triple.attempt_bind
  · intro e h hh hfails
    exact hh.storeRaised (fun hm => nomatch hfails.symm.trans hm.replaced) (.of_fails hfails)
  intro hreplaced
  have hmoved : MovesFile fails content := ⟨hvalidated, hvalid, hreplaced⟩
  apply Triple.bind (Q := fun _ => During s id h₀ none (some content) h₀.db)
  · exact Triple.assign fun _ hh => ⟨hh.1.1.replace, hh.1.2⟩
  intro _
  apply Triple.attempt_bind
  · intro e h hh hfails
    exact hh.storeRaised hmoved hfails fun hc => nomatch hfails.symm.trans hc.createJob
  intro hcreateJob
  -- the row is new, so the INSERT succeeds
  apply (inSession_triple (createJob_new hnew)).bind
  intro job
  apply Triple.assume
  rintro rfl
  apply Triple.attempt_bind
  · intro e h hh hfails
    exact hh.storeRaised hmoved hfails fun hc => nomatch hfails.symm.trans hc.addLog
  intro haddLog
  apply (inSession_triple addLog_run).bind
  intro _
  apply Triple.assume
  intro _
  apply commitSession_ends.mono (fun _ hh => hh)
  · rintro _ h ⟨hh, hcommit⟩
    exact ⟨hh, hmoved, hcreateJob, haddLog, hcommit⟩
  · rintro e h ⟨hh, hfails⟩
    exact hh.storeRaised hmoved hfails fun hc => nomatch hfails.symm.trans hc.commit

/-! ## The request -/

/-- A request that raised has left a file, unless everything has returned that had to. -/
def LeftBehind (s : Settings) (id : JobId) (h₀ : Host) (clean : Prop) (h : Host) : Prop :=
  ∃ ab : Option Bytes × Option Bytes, Holding s id h₀ ab.1 ab.2 h ∧ (ab = (none, none) ↔ clean)

theorem Holding.leftBehind {clean : Prop} (hh : Holding s id h₀ none none h) (hc : clean) :
    LeftBehind s id h₀ clean h := ⟨(none, none), hh, iff_of_true rfl hc⟩

theorem LeftBehind.session {clean : Prop} (v : Option Db) (hh : LeftBehind s id h₀ clean h) :
    LeftBehind s id h₀ clean { h with session := v } := by
  obtain ⟨ab, hh, hclean⟩ := hh
  exact ⟨ab, hh.session v, hclean⟩

/-- The removals in the handler of the last part. -/
def Discards (fails : UploadPoint → Option Exc) (content : Bytes) : Prop :=
  fails .unlinkPart = none ∧ (MovesFile fails content → fails .unlinkFinal = none)

/-- A rollback concerns the session only. -/
theorem rollback_ends {Q : Unit → Host → Prop} (hE : ∀ e h, P h → fails .rollback = some e → E e h)
    (hQ : ∀ h, P h → Q () { h with session := none }) : Triple P (rollbackSession fails) Q E :=
  Triple.attempt_bind hE fun _ => Triple.assign hQ

theorem StoreLeft.raised (h : StoreLeft fails content a b) : ¬ (MovesFile fails content ∧ StoresRow fails) := by
  cases h with
  | unmoved hmove => exact fun hs => hmove hs.1
  | moved _ hcommit => exact fun hs => hcommit hs.2

/-- **The handler** removes both names, whichever the file has, and raises what it has caught unless it raises
    itself. -/
theorem discard_ends {α : Type} {Q : α → Host → Prop} {clean : Prop} (e : Exc)
    (hiff : ¬ (MovesFile fails content ∧ StoresRow fails) → (clean ↔ Discards fails content)) :
    Triple (StoreRaised fails s id h₀ content e)
      (do
        unlink fails .unlinkPart (partialPath s id)
        unlink fails .unlinkFinal (uploadPath s id)
        rollbackSession fails
        throw e)
      Q (fun e' h => LeftBehind s id h₀ clean h ∧ Caused fails (validateStlFile content = .error e') e') := by
  apply Triple.assume
  intro hcause
  apply Triple.ofExists
  rintro ⟨a, b⟩
  apply Triple.assume
  intro hleft
  rw [hiff hleft.raised]
  apply (unlink_ends (Q := fun _ h => Holding s id h₀ none b h ∧ fails .unlinkPart = none) ?_
    fun hpart h hh => ⟨hh.unlinkPart, hpart⟩).bind
  · intro _
    apply Triple.assume
    intro hpart
    apply (unlink_ends (Q := fun _ h => Holding s id h₀ none none h ∧ fails .unlinkFinal = none) ?_
      fun hfinal h hh => ⟨hh.unlinkFinal, hfinal⟩).bind
    · intro _
      apply Triple.assume
      intro hfinal
      have hclean : Discards fails content := ⟨hpart, fun _ => hfinal⟩
      -- the session is the request's own, so a rollback that raises leaves no file either
      apply (rollback_ends (Q := fun _ => Holding s id h₀ none none)
        (fun e' h hh hfails => ⟨hh.leftBehind hclean, .of_fails hfails⟩) fun h hh => hh.session none).bind
      intro _
      exact Triple.throw fun _ hh => ⟨hh.leftBehind hclean, hcause⟩
    -- that the final name is not removed matters if the file has it
    · intro e' h hh hfails
      refine ⟨?_, .of_fails hfails⟩
      cases hleft with
      | unmoved hmove => exact hh.leftBehind ⟨hpart, fun hm => absurd hm hmove⟩
      | moved hmoved _ =>
          refine ⟨(none, some content), hh, iff_of_false (by simp) ?_⟩
          intro hclean
          cases hfails.symm.trans (hclean.2 hmoved)
  · intro e' h hh hfails
    refine ⟨⟨(a, b), hh, iff_of_false ?_ ?_⟩, .of_fails hfails⟩
    · cases hleft <;> simp
    · intro hclean
      cases hfails.symm.trans hclean.1

/-- A request that does not get to its `.part` file has nothing to clean up. -/
theorem CleansUp.of_not_begins (h : ¬ Begins fails limits s emailStr request h₀) :
    CleansUp fails limits s emailStr request h₀ where
  close := fun hb => absurd hb h
  part := fun hb => absurd hb h
  final := fun hb => absurd hb h

/-- What `_stream_upload` leaves is a file if it does not clean up. -/
theorem StreamLeft.cleansUp (hb : fails .openPart = none → Begins fails limits s emailStr request h₀)
    (h : StreamLeft fails limits request.chunks.length request.content a) :
    (a, (none : Option Bytes)) = (none, none) ↔ CleansUp fails limits s emailStr request h₀ := by
  cases h with
  | notOpened hopen => exact iff_of_true rfl (.of_not_begins fun hb => hopen hb.opened)
  | removed hbreak hunlink =>
      exact iff_of_true rfl
        ⟨fun _ hdone => absurd hdone hbreak, fun _ _ => hunlink, fun _ hdone => absurd hdone hbreak⟩
  | kept hopen hbreak hunlink =>
      refine iff_of_false nofun ?_
      intro hclean
      exact hunlink (hclean.part (hb hopen) fun h => hbreak h.1)
  | finished hopen hdone hclose =>
      refine iff_of_false nofun ?_
      intro hclean
      exact hclose (hclean.close (hb hopen) hdone)

/-- The file is over the quota: it is to be removed. -/
theorem cleansUp_iff_of_quota (hb : Begins fails limits s emailStr request h₀) (hclose : fails .closeUpload = none)
    (hquota : ¬ h₀.Fits limits s request.content) :
    CleansUp fails limits s emailStr request h₀ ↔ fails .unlinkPart = none := by
  constructor
  · intro hclean
    exact hclean.part hb fun h => hquota h.2.1
  · intro hunlink
    exact ⟨fun _ _ => hclose, fun _ _ => hunlink, fun _ _ hfits => absurd hfits hquota⟩

/-- The last part raised: the handler is to remove what it finds. -/
theorem cleansUp_iff_discards (hb : Begins fails limits s emailStr request h₀)
    (hdone : WritesAll fails limits request.chunks.length request.content) (hclose : fails .closeUpload = none)
    (hfits : h₀.Fits limits s request.content)
    (hraised : ¬ (MovesFile fails request.content ∧ StoresRow fails)) :
    CleansUp fails limits s emailStr request h₀ ↔ Discards fails request.content := by
  constructor
  · intro hclean
    refine ⟨hclean.part hb fun h => hraised h.2.2, fun hmoved => ?_⟩
    exact hclean.final hb hdone hfits hmoved fun hcommit => hraised ⟨hmoved, hcommit⟩
  · rintro ⟨hpart, hfinal⟩
    exact ⟨fun _ _ => hclose, fun _ _ => hpart, fun _ _ _ hmoved _ => hfinal hmoved⟩

/-- It was accepted with this form, and everything is stored. -/
def Admitted (s : Settings) (id : JobId) (now : Time) (h₀ : Host) (content : Bytes)
    (decision : Except Exc UploadForm) (message : String) (h : Host) : Prop :=
  ∃ form, Stored s id h₀ content (h₀.db.uploaded s now id form) h ∧ decision = .ok form ∧
    message = "Job accepted for analysis"

/-- It raised: with or without a file left, because an operation did or because of the decision. -/
def Failed (fails : UploadPoint → Option Exc) (s : Settings) (id : JobId) (h₀ : Host) (clean : Prop)
    (decision : Except Exc UploadForm) (e : Exc) (h : Host) : Prop :=
  LeftBehind s id h₀ clean h ∧ Caused fails (decision = .error e) e

/-- A request that ends before its `.part` file leaves nothing. -/
theorem Unused.failed {v : Option Db} {decision : Except Exc UploadForm} (hnew : Unused s id h₀)
    (hbegins : ¬ Begins fails limits s emailStr request h₀) (he : Caused fails (decision = .error e) e) :
    Failed fails s id h₀ (CleansUp fails limits s emailStr request h₀) decision e { h₀ with session := v } :=
  ⟨(hnew.holding v).leftBehind (.of_not_begins hbegins), he⟩

section stream

variable (hform : request.form emailStr = .ok form) (hclose : fails .closeUpload = none)

include hform hclose

/-- The file is over the quota: it is removed again, and the request refused. -/
theorem overQuota_ends {Q : String → Host → Prop} (hb : Begins fails limits s emailStr request h₀)
    (hsize : request.content.length ≤ limits.maxBytes)
    (hquota : storageBytes List.length s h₀.files + request.content.length > limits.storageLimit) :
    Triple (Streamed limits s id h₀ request.content request.content.length)
      (do
        unlink fails .unlinkPart (partialPath s id)
        throw (.httpException 507 "Upload would exceed the print storage quota"))
      Q (Failed fails s id h₀ (CleansUp fails limits s emailStr request h₀)
        (h₀.decision limits s emailStr request)) := by
  have hclean := cleansUp_iff_of_quota hb hclose fun hfits => hfits hquota
  apply (unlink_ends (Q := fun _ h => Holding s id h₀ none none h ∧ fails .unlinkPart = none) ?_
    fun hunlink h hh => ⟨hh.1.1.unlinkPart, hunlink⟩).bind
  · intro _
    apply Triple.assume
    intro hunlink
    apply Triple.throw
    intro h hh
    refine ⟨hh.leftBehind (hclean.mpr hunlink), .inr ?_⟩
    rw [Host.decision, hform]
    exact admission_quota hb.room hb.stock hsize hquota
  · intro e h hh hfails
    refine ⟨⟨(some request.content, none), hh.1.1, iff_of_false (by simp) ?_⟩, .of_fails hfails⟩
    intro hc
    cases hfails.symm.trans (hclean.mp hc)

/-- The file is within it: it is stored, or the handler removes it. -/
theorem storeOrDiscard_ends (hnew : Unused s id h₀) (hb : Begins fails limits s emailStr request h₀)
    (hdone : WritesAll fails limits request.chunks.length request.content)
    (hfits : h₀.Fits limits s request.content) :
    Triple (Streamed limits s id h₀ request.content request.content.length)
      (do
        tryCatch (storeUpload fails s now id form) fun e => do
          unlink fails .unlinkPart (partialPath s id)
          unlink fails .unlinkFinal (uploadPath s id)
          rollbackSession fails
          throw e
        return "Job accepted for analysis")
      (fun message h => Admitted s id now h₀ request.content (h₀.decision limits s emailStr request) message h ∧
        CleansUp fails limits s emailStr request h₀)
      (Failed fails s id h₀ (CleansUp fails limits s emailStr request h₀) (h₀.decision limits s emailStr request)) := by
  -- only the check of the file is left of the decision
  rw [Host.decision, hform, admission_last hb.room hb.stock hdone.size hfits]
  apply Triple.bind (Q := fun _ h => Stored s id h₀ request.content (h₀.db.uploaded s now id form) h ∧
    (MovesFile fails request.content ∧ StoresRow fails))
  · apply Triple.tryCatch (storeUpload_ends hnew.row)
    intro e
    apply (discard_ends e (cleansUp_iff_discards hb hdone hclose hfits)).mono (fun _ hh => hh) (fun _ _ hh => hh)
    rintro e' h ⟨hleft, hcause⟩
    refine ⟨hleft, hcause.imp_right fun hinvalid => ?_⟩
    rw [hinvalid]
    rfl
  · intro _
    apply Triple.assume
    rintro ⟨hmoved, hcommit⟩
    apply Triple.pure
    intro h hh
    refine ⟨⟨form, hh, ?_, rfl⟩, fun _ _ => hclose, ?_, fun _ _ _ _ hc => absurd hcommit hc⟩
    · rw [hmoved.valid]
      rfl
    · intro _ hnot
      exact absurd ⟨hdone, hfits, hmoved, hcommit⟩ hnot

end stream

/-- `upload_job` from the opened stream on. -/
theorem uploadStream_ends (hnew : Unused s id h₀)
    (hb : fails .openPart = none → Begins fails limits s emailStr request h₀)
    (hform : request.form emailStr = .ok form) (hroom : ¬ h₀.db.countActiveJobs ≥ limits.maxActiveJobs)
    (hstock : ¬ storageBytes List.length s h₀.files ≥ limits.storageLimit) :
    Triple (During s id h₀ none none h₀.db)
      (do
        let written ← streamUpload fails limits request.chunks (partialPath s id)
        if storageBytes List.length s h₀.files + written > limits.storageLimit then
          unlink fails .unlinkPart (partialPath s id)
          throw (.httpException 507 "Upload would exceed the print storage quota")
        else
          tryCatch (storeUpload fails s now id form) fun e => do
            unlink fails .unlinkPart (partialPath s id)
            unlink fails .unlinkFinal (uploadPath s id)
            rollbackSession fails
            throw e
          return "Job accepted for analysis")
      (fun message h => Admitted s id now h₀ request.content (h₀.decision limits s emailStr request) message h ∧
        CleansUp fails limits s emailStr request h₀)
      (Failed fails s id h₀ (CleansUp fails limits s emailStr request h₀) (h₀.decision limits s emailStr request)) := by
  apply ((streamUpload_ends request.chunks).mono (fun _ hh => hh) (fun _ _ hh => hh) ?_).bind
  · intro written
    apply Triple.assume
    intro hclose
    apply Triple.mono (I := fun h => Streamed limits s id h₀ request.content written h ∧
        (written = request.content.length ∧ fails .openPart = none ∧
          WritesAll fails limits request.chunks.length request.content)) ?_
      (fun _ hh => ⟨hh.1, hh.1.2.1, hh.2⟩) (fun _ _ hh => hh) (fun _ _ hh => hh)
    apply Triple.assume
    rintro ⟨rfl, hopen, hdone⟩
    split
    · next hquota => exact overQuota_ends hform hclose (hb hopen) hdone.size hquota
    · next hquota => exact storeOrDiscard_ends hform hclose hnew (hb hopen) hdone hquota
  · rintro e h ⟨⟨a, hh, hleft⟩, hcause⟩
    refine ⟨⟨(a, none), hh, hleft.cleansUp hb⟩, hcause.imp_right ?_⟩
    rintro ⟨rfl, hover⟩
    rw [Host.decision, hform]
    exact admission_large hroom hstock hover

theorem uploadJob_ends (hnew : Unused s id h₀) :
    Triple (· = { h₀ with session := none }) (uploadJob fails limits s emailStr now id request)
      (fun message h => Admitted s id now h₀ request.content (h₀.decision limits s emailStr request) message h ∧
        CleansUp fails limits s emailStr request h₀)
      (Failed fails s id h₀ (CleansUp fails limits s emailStr request h₀) (h₀.decision limits s emailStr request)) := by
  apply (Triple.lift ?_).bind
  · intro form
    apply Triple.assume
    intro hform
    have hdecision : h₀.decision limits s emailStr request = admission limits (.ok form) h₀.db.countActiveJobs
        (storageBytes List.length s h₀.files) request.content := by rw [Host.decision, hform]
    apply Triple.attempt_bind
    · rintro e h rfl hfails
      exact hnew.failed (fun hb => nomatch hfails.symm.trans hb.counted) (.of_fails hfails)
    intro hcounted
    apply Triple.bind (Q := fun active h => h = { h₀ with session := some h₀.db } ∧ active = h₀.db.countActiveJobs)
    · apply Triple.act_ok
      rintro h rfl
      exact ⟨rfl, rfl⟩
    intro active
    apply Triple.assume
    rintro rfl
    split
    · next hfull =>
        apply Triple.throw
        rintro h rfl
        exact hnew.failed (fun hb => hb.room hfull) (.inr (hdecision.trans (admission_full hfull)))
    next hroom =>
    apply Triple.attempt_bind
    · rintro e h rfl hfails
      exact hnew.failed (fun hb => nomatch hfails.symm.trans hb.measured) (.of_fails hfails)
    intro hmeasured
    apply Triple.bind (Q := fun storage h => h = { h₀ with session := some h₀.db } ∧
      storage = storageBytes List.length s h₀.files)
    · apply Triple.act_ok
      rintro h rfl
      exact ⟨rfl, rfl⟩
    intro storage
    apply Triple.assume
    rintro rfl
    split
    · next hexhausted =>
        apply Triple.throw
        rintro h rfl
        exact hnew.failed (fun hb => hb.stock hexhausted)
          (.inr (hdecision.trans (admission_exhausted hroom hexhausted)))
    next hstock =>
    -- from here on there may be a file
    apply (uploadStream_ends hnew (fun hopen => ⟨⟨form, hform⟩, hcounted, hroom, hmeasured, hstock, hopen⟩) hform hroom
      hstock).mono ?_ (fun _ _ hh => hh) (fun _ _ hh => hh)
    rintro h rfl
    exact ⟨hnew.holding _, rfl⟩
  · rintro h e rfl herr
    refine hnew.failed ?_ (.inr ?_)
    · rintro ⟨⟨form, hform⟩, -⟩
      cases herr.symm.trans hform
    · rw [Host.decision, herr]
      rfl

/-- `get_db` has nothing left to commit after an accepted request, and nothing to undo after a failed one. -/
theorem getDb_ends {clean c : Prop} {decision : Except Exc UploadForm} {endpoint : Code Host Exc String}
    (hend : Triple P endpoint (fun message h => Admitted s id now h₀ content decision message h ∧ c)
      (Failed fails s id h₀ clean decision)) :
    Triple P (getDb fails endpoint) (fun message h => Admitted s id now h₀ content decision message h ∧ c)
      (Failed fails s id h₀ clean decision) := by
  have hcommit : ∀ message, Triple (fun h => Admitted s id now h₀ content decision message h ∧ c)
      (commitSession fails) (fun _ h => Admitted s id now h₀ content decision message h ∧ c)
      (Failed fails s id h₀ clean decision) := by
    intro message
    apply Triple.act
    · rintro h ⟨⟩ h' ⟨⟨form, hstored, hdecision⟩, hc⟩ hr
      rw [hstored.session] at hr
      cases hr
      exact ⟨⟨form, hstored, hdecision⟩, hc⟩
    · rintro h e h' ⟨⟨form, hstored, -⟩, -⟩ hr
      rw [hstored.session] at hr
      cases hr
  unfold getDb
  apply Triple.ensuring (G := fun message h => Admitted s id now h₀ content decision message h ∧ c)
    (F := Failed fails s id h₀ clean decision)
  · apply Triple.tryCatch (F := Failed fails s id h₀ clean decision)
    · apply hend.bind
      intro message
      apply (hcommit message).bind
      intro _
      exact Triple.pure fun _ hh => hh
    · intro e
      apply (rollback_ends (Q := fun _ => Failed fails s id h₀ clean decision e)
        (fun e' h hh hfails => ⟨hh.1, .of_fails hfails⟩) fun h hh => ⟨hh.1.session none, hh.2⟩).bind
      intro _
      exact Triple.throw fun _ hh => hh
  · intro message
    apply Triple.assign
    rintro h ⟨⟨form, hstored, hdecision⟩, hc⟩
    exact ⟨⟨form, ⟨hstored.part, hstored.final, hstored.others, hstored.db, rfl⟩, hdecision⟩, hc⟩
  · intro e
    exact Triple.assign fun h hh => ⟨hh.1.session none, hh.2⟩

/-- **How the request ends**, whatever it finds and wherever an operation raises. -/
theorem handleUpload_ends (hnew : Unused s id h₀) :
    Triple (· = h₀) (handleUpload fails limits s emailStr now id request)
      (fun message h => Admitted s id now h₀ request.content (h₀.decision limits s emailStr request) message h ∧
        CleansUp fails limits s emailStr request h₀)
      (Failed fails s id h₀ (CleansUp fails limits s emailStr request h₀) (h₀.decision limits s emailStr request)) := by
  apply Triple.bind (Q := fun _ => (· = { h₀ with session := none }))
  · exact Triple.assign fun _ hh => by rw [hh]
  · intro _
    exact getDb_ends (uploadJob_ends hnew)

end BambuBabu
