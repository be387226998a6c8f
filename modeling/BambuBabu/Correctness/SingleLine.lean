import BambuBabu.Correctness.UploadAtomicity
import BambuBabu.Text.Words

/-!
# `Correctness.SingleLine` — control characters in stored text

`_single_line` splits at whitespace, joins with blanks, cuts and strips. That removes the control characters which are
whitespace (tab, newline and the like) and no others: an escape or a NUL in a name is stored and logged.

* `SingleLine` — a value within its limit, without control characters and stripped; `single_line_iff` — **exactly when
  the value is one**, and the texts that an upload stores.
* `ControlsCutOff` — the condition: every control character that is not whitespace has at least `limit` characters
  before it, a run of whitespace counted as one.

The length, the stripped ends and the fixed point hold of every value (`length_singleLine`, `ends_singleLine`,
`singleLine_singleLine`).
-/

namespace BambuBabu

open Storage Runs Runs.Code Text

/-! ## One value -/

variable {value : String} {limit : Nat} {c : Char}

/-- `_single_line(value, limit)` keeps the limit, has no control character, and is stripped for good. -/
structure SingleLine (value : String) (limit : Nat) : Prop where
  length : (singleLine value limit).length ≤ limit
  noControl : ∀ c ∈ (singleLine value limit).toList, isControl c = false
  head : ∀ c, (singleLine value limit).toList.head? = some c → isSpace c = false
  last : ∀ c, (singleLine value limit).toList.getLast? = some c → isSpace c = false
  fixed : singleLine (singleLine value limit) limit = singleLine value limit

/-- The number of characters the text puts before what follows it: its characters other than whitespace, and one
    blank for each word that is over. -/
def lineColumn (text : List Char) : Nat := text.countP (fun c => !isSpace c) + wordEnds isSpace text

/-- Every control character that is not whitespace stands behind the limit. -/
def ControlsCutOff (value : String) (limit : Nat) : Prop :=
  ∀ before c after, value.toList = before ++ c :: after → isControl c = true → isSpace c = false →
    limit ≤ lineColumn before

/-- The text that is cut. -/
theorem joined_eq_squeeze (value : String) :
    [' '].intercalate (words value) = squeeze isSpace ' ' .start value.toList :=
  splitJoin_eq_squeeze value.toList

/-- Nothing is stripped in front. -/
theorem toList_singleLine (value : String) (limit : Nat) :
    (singleLine value limit).toList = stripEnd isSpace ((squeeze isSpace ' ' .start value.toList).take limit) := by
  have hfront : ((squeeze isSpace ' ' .start value.toList).take limit).dropWhile isSpace
      = (squeeze isSpace ' ' .start value.toList).take limit := by
    apply List.dropWhile_eq_self_iff.mpr
    intro hpos
    have hhead : (squeeze isSpace ' ' .start value.toList).head?
        = some ((squeeze isSpace ' ' .start value.toList).take limit)[0] := by
      rw [List.getElem_take, List.head?_eq_getElem?, List.getElem?_eq_getElem]
    rw [head_squeeze hhead]
    exact Bool.false_ne_true
  unfold singleLine
  simp only [String.toList_ofList, joined_eq_squeeze, hfront]
  rfl

/-- It is the squeezed text of something. -/
theorem exists_squeeze (value : String) (limit : Nat) :
    ∃ ys, (singleLine value limit).toList = squeeze isSpace ' ' .start ys := by
  rw [toList_singleLine]
  exact cut_squeeze (by decide) limit .start value.toList

theorem length_singleLine (value : String) (limit : Nat) : (singleLine value limit).toList.length ≤ limit := by
  rw [toList_singleLine]
  calc (stripEnd isSpace ((squeeze isSpace ' ' .start value.toList).take limit)).length
      ≤ ((squeeze isSpace ' ' .start value.toList).take limit).length :=
        (List.rdropWhile_prefix isSpace _).length_le
    _ ≤ limit := List.length_take_le _ _

/-- Neither end is whitespace. -/
theorem ends_singleLine (value : String) (limit : Nat) :
    (∀ c, (singleLine value limit).toList.head? = some c → isSpace c = false) ∧
    ∀ c, (singleLine value limit).toList.getLast? = some c → isSpace c = false := by
  obtain ⟨ys, hys⟩ := exists_squeeze value limit
  rw [hys]
  refine ⟨fun c hc => head_squeeze hc, fun c hc => ?_⟩
  have hstripped : (squeeze isSpace ' ' .start ys).rdropWhile isSpace = squeeze isSpace ' ' .start ys :=
    stripEnd_squeeze .start ys
  have hne : squeeze isSpace ' ' .start ys ≠ [] := by
    intro hnil
    rw [hnil] at hc
    cases hc
  have hlast : (squeeze isSpace ' ' .start ys).getLast hne = c :=
    Option.some.inj ((List.getLast?_eq_some_getLast hne).symm.trans hc)
  exact hlast ▸ Bool.eq_false_iff.mpr (List.rdropWhile_eq_self_iff.mp hstripped hne)

/-- **A second pass changes nothing.** -/
theorem singleLine_singleLine (value : String) (limit : Nat) :
    singleLine (singleLine value limit) limit = singleLine value limit := by
  apply String.toList_inj.mp
  obtain ⟨ys, hys⟩ := exists_squeeze value limit
  have hagain : squeeze isSpace ' ' .start (singleLine value limit).toList = (singleLine value limit).toList := by
    rw [hys]
    exact squeeze_squeeze (by decide) .start ys
  rw [toList_singleLine, hagain, List.take_of_length_le (length_singleLine value limit), hys]
  exact stripEnd_squeeze .start ys

/-- A control character that is whitespace is gone. -/
theorem not_space_of_mem (hmem : c ∈ (singleLine value limit).toList) (hc : isControl c = true) :
    isSpace c = false := by
  obtain ⟨ys, hys⟩ := exists_squeeze value limit
  rw [hys] at hmem
  rcases mem_squeeze hmem with rfl | hword
  · exact absurd hc (by decide)
  · exact hword

/-- **Which control characters stay.** -/
theorem mem_singleLine (hc : isSpace c = false) : c ∈ (singleLine value limit).toList ↔
    ∃ before after, value.toList = before ++ c :: after ∧ lineColumn before < limit := by
  rw [toList_singleLine, mem_stripEnd hc, mem_take_squeeze (by decide) hc]
  simp only [(column_eq _).1]
  rfl

/-- **When the text is free of control characters.** -/
theorem noControl_iff : (∀ c ∈ (singleLine value limit).toList, isControl c = false) ↔ ControlsCutOff value limit := by
  constructor
  · intro hfree before c after hsplit hc hspace
    by_contra hlt
    have hmem := (mem_singleLine hspace).mpr ⟨before, after, hsplit, Nat.not_le.mp hlt⟩
    rw [hfree c hmem] at hc
    cases hc
  · intro hcut c hmem
    apply Bool.eq_false_iff.mpr
    intro hc
    have hspace := not_space_of_mem hmem hc
    obtain ⟨before, after, hsplit, hlt⟩ := (mem_singleLine hspace).mp hmem
    exact absurd (hcut before c after hsplit hc hspace) (Nat.not_le.mpr hlt)

theorem singleLine_iff : SingleLine value limit ↔ ControlsCutOff value limit := by
  constructor
  · intro h
    exact noControl_iff.mp h.noControl
  · intro hcut
    obtain ⟨hhead, hlast⟩ := ends_singleLine value limit
    have hlength := length_singleLine value limit
    rw [String.length_toList] at hlength
    exact ⟨hlength, noControl_iff.mpr hcut, hhead, hlast, singleLine_singleLine value limit⟩

/-! ## What an upload stores -/

variable {fails : UploadPoint → Option Exc} {limits : UploadLimits} {s : Settings} {id : JobId} {now : Time}
  {emailStr : String → Option String} {request : UploadRequest} {form : UploadForm} {d w : Db} {h₀ : Host}

/-- The database as it is committed, and the session of the request. -/
def Host.tables (h : Host) : Db × Option Db := (h.db, h.session)

theorem unlink_keeps (p : UploadPoint) (path : String) : Keeps Host.tables (unlink fails p path) :=
  (Keeps.attempt fails p).bind fun _ => Keeps.assign fun _ => rfl

theorem openExclusive_keeps (path : String) : Keeps Host.tables (openExclusive fails path) := by
  apply (Keeps.attempt fails .openPart).bind
  intro _
  apply Keeps.act
  intro h
  split <;> rfl

theorem receive_keeps (path : String) : ∀ (chunks : List Chunk) (i written : Nat),
    Keeps Host.tables (receive fails limits path i written chunks)
  | [], i, written => (Keeps.attempt fails (.read i)).bind fun _ => Keeps.pure written
  | chunk :: chunks, i, written => by
      apply (Keeps.attempt fails (.read i)).bind
      intro _
      apply (Keeps.lift (receiveChunk limits written chunk.bytes.length)).bind
      intro written'
      apply (Keeps.attempt fails (.write i)).bind
      intro _
      have hwrite : Keeps Host.tables (append path chunk.bytes) := Keeps.assign fun _ => rfl
      exact hwrite.bind fun _ => receive_keeps path chunks (i + 1) written'

/-- **Streaming touches files only.** -/
theorem streamUpload_keeps (chunks : List Chunk) (path : String) :
    Keeps Host.tables (streamUpload fails limits chunks path) := by
  refine Keeps.ensuring (Keeps.tryCatch ?_ ?_) (Keeps.attempt fails .closeUpload)
  · apply (openExclusive_keeps path).bind
    intro _
    refine Keeps.ensuring ?_ (Keeps.attempt fails .closePart)
    apply (receive_keeps path chunks 0 0).bind
    intro written
    apply (Keeps.attempt fails .flush).bind
    intro _
    apply (Keeps.attempt fails .fsync).bind
    intro _
    exact Keeps.pure written
  · intro e
    apply (unlink_keeps .unlinkPart path).bind
    intro _
    exact Keeps.throw e

theorem db_of_tables {h : Host} {session : Option Db} (hh : h.tables = (d, session)) : h.db = d :=
  (Prod.mk.inj hh).1

/-- An operation that may raise leaves the committed database either way. -/
theorem during_of_keeps {α : Type} {x : Code Host Exc α} {session : Option Db} (hx : Keeps Host.tables x) :
    Triple (fun h => h.tables = (d, session)) x (fun _ h => h.tables = (d, session)) (fun _ h => h.db = d) :=
  (hx.triple (d, session)).mono (fun _ hh => hh) (fun _ _ hh => hh) fun _ _ hh => db_of_tables hh

/-- A statement works on the session's copy. -/
theorem inSession_tables {α : Type} {t : Tx α} : Triple (fun h => h.tables = (d, some w)) (inSession t)
    (fun a h => h.tables = (d, some (t.run w).2) ∧ (t.run w).1 = .ok a) (fun _ h => h.db = d) := by
  apply Triple.act
  · rintro h a h' hh hr
    obtain ⟨rfl, hsession⟩ := Prod.mk.inj hh
    rw [hsession, Option.getD_some] at hr
    obtain ⟨hok, rfl⟩ := Prod.mk.inj hr
    exact ⟨rfl, hok⟩
  · rintro h e h' hh hr
    obtain ⟨rfl, -⟩ := Prod.mk.inj hh
    obtain ⟨-, rfl⟩ := Prod.mk.inj hr
    rfl

theorem commitSession_tables : Triple (fun h => h.tables = (d, some w)) (commitSession fails)
    (fun _ h => h.tables = (w, none)) (fun _ h => h.db = d) := by
  apply Triple.act
  · rintro h ⟨⟩ h' hh hr
    obtain ⟨rfl, hsession⟩ := Prod.mk.inj hh
    rw [hsession] at hr
    cases hc : fails .commit <;> rw [hc] at hr <;> cases hr
    rfl
  · rintro h e h' hh hr
    obtain ⟨rfl, hsession⟩ := Prod.mk.inj hh
    rw [hsession] at hr
    cases hc : fails .commit <;> rw [hc] at hr <;> cases hr
    rfl

/-- What is kept for the database and the session is kept for the database. -/
theorem db_of_keeps {α : Type} {x : Code Host Exc α} (h : Keeps Host.tables x) : Keeps Host.db x :=
  fun h' => (Prod.mk.inj (h h')).1

/-- **The last part** commits the row and the log entry of the form, of a new id. -/
theorem storeUpload_tables : Triple (fun h => h.tables = (d, some d)) (storeUpload fails s now id form)
    (fun _ h => h.tables = (d.uploaded s now id form, none) ∧ d.job id = none) (fun _ h => h.db = d) := by
  apply (during_of_keeps (Keeps.attempt fails .validate)).bind
  intro _
  have hvalidate : Keeps Host.tables (.act fun h => ((h.files.lookup (partialPath s id)).elim
      (.error (.other "No such file or directory")) validateStlFile, h) : Code Host Exc Unit) :=
    Keeps.act fun _ => rfl
  apply (during_of_keeps hvalidate).bind
  intro _
  apply (during_of_keeps (Keeps.attempt fails .replace)).bind
  intro _
  have hrename : Keeps Host.tables (.assign fun h =>
      { h with files := h.files.rename (partialPath s id) (uploadPath s id) } : Code Host Exc Unit) :=
    Keeps.assign fun _ => rfl
  apply (during_of_keeps hrename).bind
  intro _
  apply (during_of_keeps (Keeps.attempt fails .createJob)).bind
  intro _
  apply inSession_tables.bind
  intro job
  apply Triple.assume
  intro hcreated
  -- the INSERT went through, so the id is new
  have hnew : d.job id = none := by
    cases hj : d.job id with
    | none => rfl
    | some j =>
        obtain ⟨d', htaken⟩ := createJob_taken hj
        rw [htaken] at hcreated
        cases hcreated
  rw [createJob_new hnew] at hcreated ⊢
  cases hcreated
  apply (during_of_keeps (Keeps.attempt fails .addLog)).bind
  intro _
  apply inSession_tables.bind
  intro _
  apply Triple.assume
  intro _
  exact commitSession_tables.mono (fun _ hh => hh) (fun _ _ hh => ⟨hh, hnew⟩) (fun _ _ hh => hh)

/-- The commit of an accepted request, by the form it was checked to. -/
def Committed (emailStr : String → Option String) (request : UploadRequest) (s : Settings) (now : Time) (id : JobId)
    (d : Db) (h : Host) : Prop :=
  ∃ form, request.form emailStr = .ok form ∧ h.tables = (d.uploaded s now id form, none) ∧ d.job id = none

theorem uploadJob_tables : Triple (fun h => h.tables = (d, none)) (uploadJob fails limits s emailStr now id request)
    (fun _ => Committed emailStr request s now id d) (fun _ h => h.db = d) := by
  apply Triple.bind (Q := fun form h => h.tables = (d, none) ∧ request.form emailStr = .ok form)
  · exact Triple.lift fun _ _ hh _ => db_of_tables hh
  intro form
  apply Triple.assume
  intro hform
  apply (during_of_keeps (Keeps.attempt fails .countActiveJobs)).bind
  intro _
  have hcount : Triple (fun h => h.tables = (d, none)) (inSession countActiveJobs)
      (fun _ h => h.tables = (d, some d)) (fun _ h => h.db = d) := by
    apply Triple.act_ok
    intro h hh
    obtain ⟨rfl, hsession⟩ := Prod.mk.inj hh
    rw [hsession]
    rfl
  apply hcount.bind
  intro active
  split
  · exact Triple.throw fun _ hh => db_of_tables hh
  apply (during_of_keeps (Keeps.attempt fails .storageBytes)).bind
  intro _
  have hmeasure : Keeps Host.tables
      (.act fun h => (.ok (storageBytes List.length s h.files), h) : Code Host Exc Nat) := Keeps.act fun _ => rfl
  apply (during_of_keeps hmeasure).bind
  intro currentStorage
  split
  · exact Triple.throw fun _ hh => db_of_tables hh
  apply (during_of_keeps (streamUpload_keeps request.chunks (partialPath s id))).bind
  intro written
  split
  · apply (during_of_keeps (unlink_keeps .unlinkPart (partialPath s id))).bind
    intro _
    exact Triple.throw fun _ hh => db_of_tables hh
  · apply Triple.bind (Q := fun _ => Committed emailStr request s now id d)
    · apply Triple.tryCatch (F := fun _ h => h.db = d)
      · exact storeUpload_tables.mono (fun _ hh => hh) (fun _ _ hh => ⟨form, hform, hh⟩) (fun _ _ hh => hh)
      · -- the handler removes files and gives the session up
        intro e
        apply ((db_of_keeps (unlink_keeps .unlinkPart (partialPath s id))).triple d).bind
        intro _
        apply ((db_of_keeps (unlink_keeps .unlinkFinal (uploadPath s id))).triple d).bind
        intro _
        have hrollback : Keeps Host.db (rollbackSession fails) :=
          (Keeps.attempt fails .rollback).bind fun _ => Keeps.assign fun _ => rfl
        apply (hrollback.triple d).bind
        intro _
        exact Triple.throw fun _ hh => hh
    · intro _
      exact Triple.pure fun _ hh => hh

/-- **What a request leaves in the database**: the row and the log entry of its form, or nothing when it raises. -/
theorem handleUpload_tables (fails : UploadPoint → Option Exc) (limits : UploadLimits) (s : Settings)
    (emailStr : String → Option String) (now : Time) (id : JobId) (request : UploadRequest) (h₀ : Host) :
    Triple (· = h₀) (handleUpload fails limits s emailStr now id request)
      (fun _ => Committed emailStr request s now id h₀.db) (fun _ h => h.db = h₀.db) := by
  apply Triple.bind (Q := fun _ h => h.tables = (h₀.db, none))
  · apply Triple.assign
    rintro h rfl
    rfl
  intro _
  have hcommit : Triple (Committed emailStr request s now id h₀.db) (commitSession fails)
      (fun _ => Committed emailStr request s now id h₀.db) (fun _ h => h.db = h₀.db) := by
    apply Triple.act
    · rintro h ⟨⟩ h' ⟨form, hform, htables, hnew⟩ hr
      obtain ⟨hdb, hsession⟩ := Prod.mk.inj htables
      rw [hsession] at hr
      cases hr
      exact ⟨form, hform, htables, hnew⟩
    · rintro h e h' ⟨form, hform, htables, hnew⟩ hr
      obtain ⟨hdb, hsession⟩ := Prod.mk.inj htables
      rw [hsession] at hr
      cases hr
  unfold getDb
  apply Triple.ensuring (G := fun _ => Committed emailStr request s now id h₀.db) (F := fun _ h => h.db = h₀.db)
  · apply Triple.tryCatch (F := fun _ h => h.db = h₀.db)
    · apply uploadJob_tables.bind
      intro reply
      apply hcommit.bind
      intro _
      exact Triple.pure fun _ hh => hh
    · intro e
      have hrollback : Keeps Host.db (rollbackSession fails) :=
        (Keeps.attempt fails .rollback).bind fun _ => Keeps.assign fun _ => rfl
      apply (hrollback.triple h₀.db).bind
      intro _
      exact Triple.throw fun _ hh => hh
  · intro _
    apply Triple.assign
    rintro h ⟨form, hform, htables, hnew⟩
    obtain ⟨hdb, -⟩ := Prod.mk.inj htables
    exact ⟨form, hform, Prod.ext hdb rfl, hnew⟩
  · intro _
    exact Triple.assign fun _ hh => hh

/-! ## The texts an upload stores -/

/-- No control character. -/
def FreeOfControls (text : String) : Prop := ∀ c ∈ text.toList, isControl c = false

/-- The user's texts in the rows that are new, and the messages that are new. -/
def storedTexts (before after : Db) : List String :=
  (after.jobs.rows.drop before.jobs.rows.length).flatMap (fun row =>
      [row.2.userName, row.2.originalFilename] ++ row.2.description.toList) ++
    (after.logs.drop before.logs.length).map LogEntry.message

/-- The condition on a request. -/
def RequestCutOff (request : UploadRequest) : Prop :=
  ControlsCutOff request.userName 128 ∧ ControlsCutOff request.description 2000 ∧
    ControlsCutOff (fileName (request.filename.getD "")) 256

theorem storedTexts_uploaded (hnew : d.job id = none) : storedTexts d (d.uploaded s now id form) =
    [form.userName, form.originalFilename] ++ form.description.toList ++
      [s!"{form.originalFilename} uploaded by {form.userName}"] := by
  have hrows : (d.uploaded s now id form).jobs.rows = d.jobs.rows ++ [(id, Job.submitted now form.userName
      form.userEmail form.description form.originalFilename (uploadPath s id))] := Table.insertNew_of_none hnew _
  have hlogs : (d.uploaded s now id form).logs = d.logs ++ [{
      timestamp := now, level := .info, event := "JOB_UPLOADED",
      message := s!"{form.originalFilename} uploaded by {form.userName}", jobId := some id, printerId := none,
      extra := none }] := rfl
  unfold storedTexts
  rw [hrows, hlogs, List.drop_left, List.drop_left]
  simp [Job.submitted]

/-- The message is as clean as the two texts in it. -/
theorem free_message {a b : String} :
    FreeOfControls s!"{a} uploaded by {b}" ↔ FreeOfControls a ∧ FreeOfControls b := by
  have htext : s!"{a} uploaded by {b}" = a ++ " uploaded by " ++ b := rfl
  have hmiddle : (" uploaded by ".toList.any isControl) = false := by decide
  unfold FreeOfControls
  rw [htext, String.toList_append, String.toList_append]
  constructor
  · intro h
    exact ⟨fun c hc => h c (List.mem_append_left _ (List.mem_append_left _ hc)),
      fun c hc => h c (List.mem_append_right _ hc)⟩
  · rintro ⟨ha, hb⟩ c hc
    rcases List.mem_append.mp hc with hc | hc
    · rcases List.mem_append.mp hc with hc | hc
      · exact ha c hc
      · exact Bool.eq_false_iff.mpr (List.any_eq_false.mp hmiddle c hc)
    · exact hb c hc

/-- **The texts of a form** are the single lines of the request. -/
theorem form_texts (h : request.form emailStr = .ok form) :
    form.userName = singleLine request.userName 128 ∧
    form.originalFilename = singleLine (fileName (request.filename.getD "")) 256 ∧
    ((∀ text ∈ form.description.toList, FreeOfControls text) ↔
      FreeOfControls (singleLine request.description 2000)) := by
  unfold UploadRequest.form at h
  simp only at h
  split at h
  · cases h
  split at h
  · cases h
  split at h
  · cases h
  obtain rfl := Except.ok.inj h
  refine ⟨rfl, rfl, ?_⟩
  by_cases hempty : singleLine request.description 2000 = ""
  · simp [hempty, FreeOfControls]
  · simp [hempty]

/-- **What an upload stores is clean** exactly when its request is. -/
theorem stored_clean_iff (hform : request.form emailStr = .ok form) (hnew : d.job id = none) :
    (∀ text ∈ storedTexts d (d.uploaded s now id form), FreeOfControls text) ↔ RequestCutOff request := by
  obtain ⟨huser, hfile, hdescription⟩ := form_texts hform
  have hfree : ∀ value limit, FreeOfControls (singleLine value limit) ↔ ControlsCutOff value limit :=
    fun _ _ => noControl_iff
  have hlist : ∀ {P : String → Prop} {a b m : String} {texts : List String},
      (∀ text ∈ [a, b] ++ texts ++ [m], P text) ↔ P a ∧ P b ∧ (∀ text ∈ texts, P text) ∧ P m := by
    intro P a b m texts
    simp [or_imp, forall_and]
  unfold RequestCutOff
  rw [storedTexts_uploaded hnew, hlist, free_message, ← hfree, ← hfree, ← hfree, ← huser, ← hfile, ← hdescription]
  constructor
  · rintro ⟨hname, hfilename, htext, -⟩
    exact ⟨hname, htext, hfilename⟩
  · rintro ⟨hname, htext, hfilename⟩
    exact ⟨hname, hfilename, htext, hfilename, hname⟩

theorem single_line_iff {reply : String} (value : String) (limit : Nat)
    (hstored : ((handleUpload fails limits s emailStr now id request).exec h₀).1 = .ok reply) :
    (SingleLine value limit ↔ ControlsCutOff value limit) ∧
    ((∀ text ∈ storedTexts h₀.db ((handleUpload fails limits s emailStr now id request).exec h₀).2.db,
      FreeOfControls text) ↔ RequestCutOff request) := by
  refine ⟨singleLine_iff, ?_⟩
  obtain ⟨form, hform, htables, hnew⟩ :=
    (handleUpload_tables fails limits s emailStr now id request h₀).of_ok hstored
  rw [db_of_tables htables]
  exact stored_clean_iff hform hnew

/-- A request that raises stores no text. -/
theorem storedTexts_of_error {e : Exc}
    (hraised : ((handleUpload fails limits s emailStr now id request).exec h₀).1 = .error e) :
    storedTexts h₀.db ((handleUpload fails limits s emailStr now id request).exec h₀).2.db = [] := by
  rw [(handleUpload_tables fails limits s emailStr now id request h₀).of_error hraised]
  simp [storedTexts]

namespace Script

/-- The model, uploaded under a name that switches a terminal to red. -/
def redName : UploadRequest := { emptyModel with userName := "\x1b[31mAda" }

end Script

/-- A clean request stores clean texts. -/
theorem single_line_clean : SingleLine "Ada \t Lovelace" 128 ∧
    ∀ text ∈ storedTexts Script.emptyHost.db (Script.uploadModel fun _ => none).2.db, FreeOfControls text := by
  have haccepted : (Script.uploadModel fun _ => none).1 = .ok "Job accepted for analysis" := by decide +kernel
  obtain ⟨hline, hupload⟩ := single_line_iff "Ada \t Lovelace" 128 haccepted
  have hclean : ∀ (value : String) (limit : Nat),
      (value.toList.all fun c => !isControl c || isSpace c) = true → ControlsCutOff value limit := by
    intro value limit hall before c after hsplit hc hspace
    have hmem : c ∈ value.toList := hsplit ▸ List.mem_append_right _ List.mem_cons_self
    have hok := List.all_eq_true.mp hall c hmem
    rw [hc, hspace] at hok
    cases hok
  exact ⟨hline.mpr (hclean _ _ (by decide)), hupload.mpr ⟨hclean _ _ (by decide), hclean _ _ (by decide),
    hclean _ _ (by decide)⟩⟩

/-- An escape character is neither removed from a value nor kept out of the log. -/
theorem escape_stored : (¬ ∀ value limit, 0 < limit → SingleLine value limit) ∧
    ¬ ∀ (fails : UploadPoint → Option Exc) (limits : UploadLimits) (s : Settings) (emailStr : String → Option String)
      (now : Time) (id : JobId) (request : UploadRequest) (h₀ : Host) (reply : String),
      ((handleUpload fails limits s emailStr now id request).exec h₀).1 = .ok reply →
      ∀ text ∈ storedTexts h₀.db ((handleUpload fails limits s emailStr now id request).exec h₀).2.db,
        FreeOfControls text := by
  constructor
  · intro hall
    have hline := hall "\x1b[31mAda" 128 (by decide)
    have hcontrol := hline.noControl '\x1b' (by decide +kernel)
    exact absurd hcontrol (by decide)
  · intro hall
    have hfree := hall (fun _ => none) ⟨10, 1, 1⟩ Script.p1sOnly some 0 "ab-12" Script.redName Script.emptyHost
      "Job accepted for analysis" (by decide +kernel) "part.stl uploaded by \x1b[31mAda" (by decide +kernel)
    exact absurd (hfree '\x1b' (by decide)) (by decide)

end BambuBabu
