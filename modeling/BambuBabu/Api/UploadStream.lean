import BambuBabu.Api.Paths

/-!
# `Api.UploadStream` — how the stream of an upload ends

`handleUpload` touches two files, one row and one log entry. The assertions below say what the request has of them
at each point (`Holding`). Every part of the request has one triple; where it raises, the triple also says which file
is left, by the operations that failed, and what caused the exception.

* `admission` — what the checks come to: one decision on the form and the content as a whole;
* `CleansUp` — what has to return for a failed request to leave no file;
* `streamUpload_ends` — the triple of `_stream_upload`.
-/

namespace BambuBabu

open Storage Runs Runs.Code

/-! ## The decision -/

/-- The answer to a file that is too large. -/
def UploadLimits.tooLarge (limits : UploadLimits) : Exc :=
  .httpException 413 s!"File exceeds the {limits.maxStlSizeMb} MB limit"

/-- **The decision** on a form and a content, with `active` active jobs and `storage` bytes in the directories. -/
def admission (limits : UploadLimits) (form : Except Exc UploadForm) (active storage : Nat) (content : Bytes) :
    Except Exc UploadForm := do
  let form ← form
  if active ≥ limits.maxActiveJobs then
    throw (.httpException 429 "The print queue is at capacity; try again later")
  else if storage ≥ limits.storageLimit then throw (.httpException 507 "Print storage quota is exhausted")
  else if content.length > limits.maxBytes then throw limits.tooLarge
  else if storage + content.length > limits.storageLimit then
    throw (.httpException 507 "Upload would exceed the print storage quota")
  else
    validateStlFile content
    return form

/-- The decision on the request, as it finds the host. -/
def Host.decision (h : Host) (limits : UploadLimits) (s : Settings) (emailStr : String → Option String)
    (request : UploadRequest) : Except Exc UploadForm :=
  admission limits (request.form emailStr) h.db.countActiveJobs (storageBytes List.length s h.files) request.content

variable {fails : UploadPoint → Option Exc} {limits : UploadLimits} {s : Settings} {emailStr : String → Option String}
  {now : Time} {id : JobId} {request : UploadRequest} {form : UploadForm} {h₀ h : Host} {a b : Option Bytes}
  {content : Bytes} {chunks : List Chunk} {n : Nat} {e : Exc}

section admission

variable {active storage : Nat}

theorem admission_full (h : active ≥ limits.maxActiveJobs) :
    admission limits (.ok form) active storage content =
      .error (.httpException 429 "The print queue is at capacity; try again later") := if_pos h

theorem admission_exhausted (hroom : ¬ active ≥ limits.maxActiveJobs) (h : storage ≥ limits.storageLimit) :
    admission limits (.ok form) active storage content =
      .error (.httpException 507 "Print storage quota is exhausted") := (if_neg hroom).trans (if_pos h)

theorem admission_large (hroom : ¬ active ≥ limits.maxActiveJobs) (hstock : ¬ storage ≥ limits.storageLimit)
    (h : limits.maxBytes < content.length) :
    admission limits (.ok form) active storage content = .error limits.tooLarge :=
  (if_neg hroom).trans ((if_neg hstock).trans (if_pos h))

theorem admission_quota (hroom : ¬ active ≥ limits.maxActiveJobs) (hstock : ¬ storage ≥ limits.storageLimit)
    (hsize : content.length ≤ limits.maxBytes) (h : storage + content.length > limits.storageLimit) :
    admission limits (.ok form) active storage content =
      .error (.httpException 507 "Upload would exceed the print storage quota") :=
  (if_neg hroom).trans ((if_neg hstock).trans ((if_neg (Nat.not_lt.mpr hsize)).trans (if_pos h)))

/-- The check of the file comes last. -/
theorem admission_last (hroom : ¬ active ≥ limits.maxActiveJobs) (hstock : ¬ storage ≥ limits.storageLimit)
    (hsize : content.length ≤ limits.maxBytes) (hquota : ¬ storage + content.length > limits.storageLimit) :
    admission limits (.ok form) active storage content = (validateStlFile content).bind fun _ => .ok form :=
  (if_neg hroom).trans ((if_neg hstock).trans ((if_neg (Nat.not_lt.mpr hsize)).trans (if_neg hquota)))

/-- What is accepted has passed the checks of its content. -/
theorem Host.decision_ok (h : h₀.decision limits s emailStr request = .ok form) :
    request.content.length ≤ limits.maxBytes ∧ validateStlFile request.content = .ok () := by
  unfold Host.decision at h
  cases hform : request.form emailStr with
  | error e =>
      rw [hform] at h
      cases h
  | ok form' =>
      rw [hform] at h
      by_cases hroom : h₀.db.countActiveJobs ≥ limits.maxActiveJobs
      · cases (admission_full hroom).symm.trans h
      by_cases hstock : storageBytes List.length s h₀.files ≥ limits.storageLimit
      · cases (admission_exhausted hroom hstock).symm.trans h
      by_cases hover : limits.maxBytes < request.content.length
      · cases (admission_large hroom hstock hover).symm.trans h
      have hsize := Nat.not_lt.mp hover
      by_cases hquota : storageBytes List.length s h₀.files + request.content.length > limits.storageLimit
      · cases (admission_quota hroom hstock hsize hquota).symm.trans h
      rw [admission_last hroom hstock hsize hquota] at h
      refine ⟨hsize, ?_⟩
      cases hvalid : validateStlFile request.content with
      | ok v => rfl
      | error e =>
          rw [hvalid] at h
          cases h

end admission

/-! ## What has to return -/

/-- The operations from the opened `.part` file to the closed one with all its `n` chunks. -/
def UploadPoint.streams (n : Nat) : UploadPoint → Bool
  | read i => decide (i ≤ n)
  | write i => decide (i < n)
  | flush => true
  | fsync => true
  | closePart => true
  | _ => false

/-- The request gets to its `.part` file. -/
structure Begins (fails : UploadPoint → Option Exc) (limits : UploadLimits) (s : Settings)
    (emailStr : String → Option String) (request : UploadRequest) (h₀ : Host) : Prop where
  form : ∃ form, request.form emailStr = .ok form
  counted : fails .countActiveJobs = none
  room : ¬ h₀.db.countActiveJobs ≥ limits.maxActiveJobs
  measured : fails .storageBytes = none
  stock : ¬ storageBytes List.length s h₀.files ≥ limits.storageLimit
  opened : fails .openPart = none

/-- A `content` of `n` chunks is written to the end. -/
structure WritesAll (fails : UploadPoint → Option Exc) (limits : UploadLimits) (n : Nat) (content : Bytes) : Prop where
  operations : ∀ p, p.streams n = true → fails p = none
  size : content.length ≤ limits.maxBytes

/-- The file gets its final name. -/
structure MovesFile (fails : UploadPoint → Option Exc) (content : Bytes) : Prop where
  validated : fails .validate = none
  valid : validateStlFile content = .ok ()
  replaced : fails .replace = none

/-- The row and the log entry are committed. -/
structure StoresRow (fails : UploadPoint → Option Exc) : Prop where
  createJob : fails .createJob = none
  addLog : fails .addLog = none
  commit : fails .commit = none

/-- The file fits into the storage quota, as far as the request can tell. -/
def Host.Fits (h : Host) (limits : UploadLimits) (s : Settings) (content : Bytes) : Prop :=
  ¬ storageBytes List.length s h.files + content.length > limits.storageLimit

/-- **What has to return for a failed request to leave no file**: `file.close()` when the whole stream is written, the
    removal of the `.part` file unless the job is committed, and the removal of the final file if it is there then. -/
structure CleansUp (fails : UploadPoint → Option Exc) (limits : UploadLimits) (s : Settings)
    (emailStr : String → Option String) (request : UploadRequest) (h₀ : Host) : Prop where
  close : Begins fails limits s emailStr request h₀ → WritesAll fails limits request.chunks.length request.content →
    fails .closeUpload = none
  part : Begins fails limits s emailStr request h₀ →
    ¬ (WritesAll fails limits request.chunks.length request.content ∧ h₀.Fits limits s request.content ∧
      MovesFile fails request.content ∧ StoresRow fails) → fails .unlinkPart = none
  final : Begins fails limits s emailStr request h₀ → WritesAll fails limits request.chunks.length request.content →
    h₀.Fits limits s request.content → MovesFile fails request.content → ¬ StoresRow fails → fails .unlinkFinal = none

/-! ## What the request holds -/

/-- The id is new: no row, no log entry and no file carries it. -/
structure Unused (s : Settings) (id : JobId) (h : Host) : Prop where
  row : h.db.job id = none
  log : ∀ e ∈ h.db.logs, e.jobId ≠ some id
  part : h.files.lookup (partialPath s id) = none
  final : h.files.lookup (uploadPath s id) = none

/-- Nothing but the two files of the request differs from `h₀`: they hold `part` and `final`. -/
structure Holding (s : Settings) (id : JobId) (h₀ : Host) (part final : Option Bytes) (h : Host) : Prop where
  part : h.files.lookup (partialPath s id) = part
  final : h.files.lookup (uploadPath s id) = final
  others : ∀ path, path ≠ partialPath s id → path ≠ uploadPath s id → h.files.lookup path = h₀.files.lookup path
  db : h.db = h₀.db

/-- The request starts with nothing, whatever its session. -/
theorem Unused.holding (hnew : Unused s id h₀) (v : Option Db) :
    Holding s id h₀ none none { h₀ with session := v } := ⟨hnew.part, hnew.final, fun _ _ _ => rfl, rfl⟩

/-- The session is the request's own. -/
theorem Holding.session (w : Option Db) (hh : Holding s id h₀ a b h) :
    Holding s id h₀ a b { h with session := w } := ⟨hh.part, hh.final, hh.others, hh.db⟩

theorem Holding.writePart (hh : Holding s id h₀ a b h) (bytes : Bytes) :
    Holding s id h₀ (some bytes) b { h with files := h.files.insert (partialPath s id) bytes } where
  part := AList.lookup_insert _
  final := (AList.lookup_insert_ne partialPath_ne_uploadPath.symm).trans hh.final
  others := fun path hp hf => (AList.lookup_insert_ne hp).trans (hh.others path hp hf)
  db := hh.db

theorem Holding.unlinkPart (hh : Holding s id h₀ a b h) :
    Holding s id h₀ none b { h with files := h.files.erase (partialPath s id) } where
  part := AList.lookup_erase _ _
  final := (AList.lookup_erase_ne partialPath_ne_uploadPath.symm).trans hh.final
  others := fun path hp hf => (AList.lookup_erase_ne hp).trans (hh.others path hp hf)
  db := hh.db

theorem Holding.unlinkFinal (hh : Holding s id h₀ a b h) :
    Holding s id h₀ a none { h with files := h.files.erase (uploadPath s id) } where
  part := (AList.lookup_erase_ne partialPath_ne_uploadPath).trans hh.part
  final := AList.lookup_erase _ _
  others := fun path hp hf => (AList.lookup_erase_ne hf).trans (hh.others path hp hf)
  db := hh.db

theorem Holding.replace (hh : Holding s id h₀ (some content) b h) :
    Holding s id h₀ none (some content)
      { h with files := h.files.rename (partialPath s id) (uploadPath s id) } := by
  have hne : partialPath s id ≠ uploadPath s id := partialPath_ne_uploadPath
  have hlookup : ∀ path, (h.files.rename (partialPath s id) (uploadPath s id)).lookup path
      = if path = uploadPath s id then some content else if path = partialPath s id then none
        else h.files.lookup path := fun path => Files.lookup_rename hh.part hne
  constructor
  · exact (hlookup _).trans (by rw [if_neg hne, if_pos rfl])
  · exact (hlookup _).trans (if_pos rfl)
  · intro path hp hf
    exact (hlookup path).trans (by rw [if_neg hf, if_neg hp, hh.others path hp hf])
  · exact hh.db

/-- The request holds this, and its transaction has made `w` of the database. -/
def During (s : Settings) (id : JobId) (h₀ : Host) (a b : Option Bytes) (w : Db) (h : Host) : Prop :=
  Holding s id h₀ a b h ∧ h.session = some w

/-- What caused an exception: an operation raised it, or the check `c` did. -/
def Caused (fails : UploadPoint → Option Exc) (c : Prop) (e : Exc) : Prop := (∃ p, fails p = some e) ∨ c

theorem Caused.of_fails {p : UploadPoint} {c : Prop} (h : fails p = some e) : Caused fails c e := .inl ⟨p, h⟩

variable {P : Host → Prop} {E : Exc → Host → Prop} {w : Db}

/-! ## The stream -/

/-- The chunks so far are in the `.part` file, and no more of them than allowed. -/
def Streamed (limits : UploadLimits) (s : Settings) (id : JobId) (h₀ : Host) (content : Bytes) (written : Nat)
    (h : Host) : Prop :=
  During s id h₀ (some content) none h₀.db h ∧ written = content.length ∧ content.length ≤ limits.maxBytes

/-- The stream of a `content` of `n` chunks breaks off. -/
inductive Breaks (fails : UploadPoint → Option Exc) (limits : UploadLimits) (n : Nat) (content : Bytes) : Exc → Prop
  | operation {p : UploadPoint} {e : Exc} (hp : p.streams n = true) (h : fails p = some e) :
      Breaks fails limits n content e
  | tooLarge (h : limits.maxBytes < content.length) : Breaks fails limits n content limits.tooLarge

/-- An opened `.part` file is left. -/
def Interrupted (fails : UploadPoint → Option Exc) (limits : UploadLimits) (s : Settings) (id : JobId) (h₀ : Host)
    (n : Nat) (content : Bytes) (e : Exc) (h : Host) : Prop :=
  (∃ bytes, Holding s id h₀ (some bytes) none h) ∧ Breaks fails limits n content e

theorem Breaks.not_writesAll (h : Breaks fails limits n content e) : ¬ WritesAll fails limits n content := by
  intro hc
  cases h with
  | operation hp h =>
      rw [hc.operations _ hp] at h
      cases h
  | tooLarge h => exact absurd h (Nat.not_lt.mpr hc.size)

theorem Breaks.caused (h : Breaks fails limits n content e) :
    Caused fails (e = limits.tooLarge ∧ limits.maxBytes < content.length) e := by
  cases h with
  | operation _ h => exact .of_fails h
  | tooLarge h => exact .inr ⟨rfl, h⟩

/-- An operation of the stream raises. -/
theorem Streamed.interrupted {written : Nat} {total : Bytes} {p : UploadPoint}
    (hh : Streamed limits s id h₀ content written h) (hp : p.streams n = true) (hfails : fails p = some e) :
    Interrupted fails limits s id h₀ n total e h := ⟨⟨_, hh.1.1⟩, .operation hp hfails⟩

/-- A chunk that is written extends the file. -/
theorem append_triple {written written' : Nat} {chunk : Chunk}
    (hok : receiveChunk limits written chunk.bytes.length = .ok written') :
    Triple (Streamed limits s id h₀ content written) (append (partialPath s id) chunk.bytes)
      (fun _ => Streamed limits s id h₀ (content ++ chunk.bytes) written') E := by
  apply Triple.assign
  rintro h ⟨⟨hh, hsession⟩, rfl, hsize⟩
  unfold receiveChunk at hok
  split at hok
  · cases hok
  · next hroom =>
      cases hok
      rw [hh.part, Option.getD_some, Streamed, List.length_append]
      exact ⟨⟨hh.writePart _, hsession⟩, rfl, by omega⟩

/-- A chunk is refused when the file would get too large with it. -/
theorem receiveChunk_error {written chunk : Nat} (hr : receiveChunk limits written chunk = .error e) :
    e = limits.tooLarge ∧ limits.maxBytes < written + chunk := by
  unfold receiveChunk at hr
  split at hr <;> cases hr
  next hover => exact ⟨rfl, hover⟩

/-- The reads and writes of the loop, from the `i`-th on. -/
def LoopRuns (fails : UploadPoint → Option Exc) (i n : Nat) : Prop :=
  (∀ k, i ≤ k → k ≤ n → fails (.read k) = none) ∧ ∀ k, i ≤ k → k < n → fails (.write k) = none

theorem LoopRuns.cons {i : Nat} (hread : fails (.read i) = none) (hwrite : fails (.write i) = none)
    (h : LoopRuns fails (i + 1) n) : LoopRuns fails i n := by
  constructor
  · intro k hi hn
    rcases hi.eq_or_lt with rfl | hlt
    · exact hread
    · exact h.1 k hlt hn
  · intro k hi hn
    rcases hi.eq_or_lt with rfl | hlt
    · exact hwrite
    · exact h.2 k hlt hn

/-- **The loop**: what is received is appended, chunk by chunk; it ends early where an operation raises, or at the
    chunk that makes the file too large. -/
theorem receive_ends (chunks : List Chunk) : ∀ (i written : Nat) (content : Bytes), i + chunks.length = n →
    Triple (Streamed limits s id h₀ content written)
      (receive fails limits (partialPath s id) i written chunks)
      (fun written' h => Streamed limits s id h₀ (content ++ chunks.flatMap Chunk.bytes) written' h ∧
        LoopRuns fails i n)
      (Interrupted fails limits s id h₀ n (content ++ chunks.flatMap Chunk.bytes)) := by
  induction chunks with
  | nil =>
      intro i written content hn
      have hi : i = n := hn
      subst hi
      apply Triple.attempt_bind
      · intro e h hh hfails
        exact hh.interrupted (by simp [UploadPoint.streams]) hfails
      intro hread
      apply Triple.pure
      intro h hh
      rw [List.flatMap_nil, List.append_nil]
      refine ⟨hh, ?_, ?_⟩
      · intro k hk hk'
        rwa [Nat.le_antisymm hk' hk]
      · intro k hk hk'
        exact absurd hk (Nat.not_le.mpr hk')
  | cons chunk chunks ih =>
      intro i written content hn
      have hn' : i + 1 + chunks.length = n := by rw [← hn, List.length_cons]; omega
      have hi : i < n := by omega
      apply Triple.attempt_bind
      · intro e h hh hfails
        exact hh.interrupted (by simp [UploadPoint.streams, hi.le]) hfails
      intro hread
      -- the size check comes before the write; a chunk that is refused ends the loop, whatever follows it
      have hlift : Triple (Streamed limits s id h₀ content written)
          (Code.lift (receiveChunk limits written chunk.bytes.length))
          (fun written' h => Streamed limits s id h₀ content written h ∧
            receiveChunk limits written chunk.bytes.length = .ok written')
          (Interrupted fails limits s id h₀ n (content ++ (chunk :: chunks).flatMap Chunk.bytes)) := by
        apply Triple.lift
        intro h e hh herr
        obtain ⟨rfl, hover⟩ := receiveChunk_error herr
        refine ⟨⟨_, hh.1.1⟩, .tooLarge ?_⟩
        have hwritten := hh.2.1
        simp only [List.flatMap_cons, List.length_append]
        omega
      apply hlift.bind
      intro written'
      apply Triple.assume
      intro hok
      apply Triple.attempt_bind
      · intro e h hh hfails
        exact hh.interrupted (by simp [UploadPoint.streams, hi]) hfails
      intro hwrite
      apply (append_triple hok).bind
      intro _
      have hcontent : content ++ (chunk :: chunks).flatMap Chunk.bytes
          = content ++ chunk.bytes ++ chunks.flatMap Chunk.bytes := by
        rw [List.flatMap_cons, List.append_assoc]
      rw [hcontent]
      apply (ih (i + 1) written' (content ++ chunk.bytes) hn').mono (fun _ hh => hh) ?_ (fun _ _ hh => hh)
      rintro written'' h ⟨hh, hloop⟩
      exact ⟨hh, hloop.cons hread hwrite⟩

/-- What `_stream_upload` leaves at the `.part` path when it raises. -/
inductive StreamLeft (fails : UploadPoint → Option Exc) (limits : UploadLimits) (n : Nat) (content : Bytes) :
    Option Bytes → Prop
  | notOpened (hopen : fails .openPart ≠ none) : StreamLeft fails limits n content none
  | removed (hbreak : ¬ WritesAll fails limits n content) (hunlink : fails .unlinkPart = none) :
      StreamLeft fails limits n content none
  | kept {bytes : Bytes} (hopen : fails .openPart = none) (hbreak : ¬ WritesAll fails limits n content)
      (hunlink : fails .unlinkPart ≠ none) : StreamLeft fails limits n content (some bytes)
  | finished {bytes : Bytes} (hopen : fails .openPart = none) (hdone : WritesAll fails limits n content)
      (hclose : fails .closeUpload ≠ none) : StreamLeft fails limits n content (some bytes)

/-- How `_stream_upload` raises. -/
def StreamRaised (fails : UploadPoint → Option Exc) (limits : UploadLimits) (s : Settings) (id : JobId) (h₀ : Host)
    (n : Nat) (content : Bytes) (e : Exc) (h : Host) : Prop :=
  (∃ a, Holding s id h₀ a none h ∧ StreamLeft fails limits n content a) ∧
    Caused fails (e = limits.tooLarge ∧ limits.maxBytes < content.length) e

/-- Its `.part` file holds all chunks, and is closed. -/
def StreamDone (fails : UploadPoint → Option Exc) (limits : UploadLimits) (s : Settings) (id : JobId) (h₀ : Host)
    (n : Nat) (content : Bytes) (written : Nat) (h : Host) : Prop :=
  Streamed limits s id h₀ content written h ∧ fails .openPart = none ∧ WritesAll fails limits n content

/-- Nothing is there yet, so that the exclusive open succeeds if the operation does. -/
theorem openExclusive_ends : Triple (During s id h₀ none none h₀.db) (openExclusive fails (partialPath s id))
    (fun _ h => Streamed limits s id h₀ [] 0 h ∧ fails .openPart = none)
    (fun e h => Holding s id h₀ none none h ∧ fails .openPart = some e) := by
  apply Triple.attempt_bind
  · intro e h hh hfails
    exact ⟨hh.1, hfails⟩
  intro hopen
  apply Triple.act
  · rintro h ⟨⟩ h' hh hr
    rw [hh.1.part] at hr
    obtain ⟨-, rfl⟩ := Prod.mk.inj hr
    exact ⟨⟨⟨hh.1.writePart [], hh.2⟩, rfl, Nat.zero_le _⟩, hopen⟩
  · intro h e h' hh hr
    rw [hh.1.part] at hr
    cases hr

/-- The `with` block, once the file is open. -/
theorem writeStream_ends (chunks : List Chunk) :
    Triple (Streamed limits s id h₀ [] 0)
      (.ensuring
        (do
          let written ← receive fails limits (partialPath s id) 0 0 chunks
          Code.attempt fails .flush
          Code.attempt fails .fsync
          return written)
        (Code.attempt fails .closePart))
      (fun written h => Streamed limits s id h₀ (chunks.flatMap Chunk.bytes) written h ∧
        WritesAll fails limits chunks.length (chunks.flatMap Chunk.bytes))
      (Interrupted fails limits s id h₀ chunks.length (chunks.flatMap Chunk.bytes)) := by
  have hbody : Triple (Streamed limits s id h₀ [] 0)
      (do
        let written ← receive fails limits (partialPath s id) 0 0 chunks
        Code.attempt fails .flush
        Code.attempt fails .fsync
        return written)
      (fun written h => Streamed limits s id h₀ (chunks.flatMap Chunk.bytes) written h ∧
        (LoopRuns fails 0 chunks.length ∧ fails .flush = none ∧ fails .fsync = none))
      (Interrupted fails limits s id h₀ chunks.length (chunks.flatMap Chunk.bytes)) := by
    apply (receive_ends chunks 0 0 [] (Nat.zero_add _)).bind
    intro written
    apply Triple.assume
    intro hloop
    apply Triple.attempt_bind
    · intro e h hh hfails
      exact hh.interrupted rfl hfails
    intro hflush
    apply Triple.attempt_bind
    · intro e h hh hfails
      exact hh.interrupted rfl hfails
    intro hfsync
    exact Triple.pure fun _ hh => ⟨hh, hloop, hflush, hfsync⟩
  apply Triple.ensuring hbody
  · intro written
    apply Triple.assume
    rintro ⟨hloop, hflush, hfsync⟩
    apply Triple.attempt_iff
    · intro e h hh hfails
      exact hh.interrupted rfl hfails
    intro hclose h hh
    refine ⟨hh, ?_, hh.2.2⟩
    intro p hp
    cases p with
    | read i => exact hloop.1 i (Nat.zero_le i) (of_decide_eq_true hp)
    | write i => exact hloop.2 i (Nat.zero_le i) (of_decide_eq_true hp)
    | flush => exact hflush
    | fsync => exact hfsync
    | closePart => exact hclose
    | _ => cases hp
  · -- the file is closed whatever happened to the loop
    intro e
    apply Triple.attempt_iff
    · intro e' h hh hfails
      exact ⟨hh.1, .operation rfl hfails⟩
    · intro _ h hh
      exact hh

/-- A removal: it raises, or the file is gone. -/
theorem unlink_ends {p : UploadPoint} {path : String} {Q : Unit → Host → Prop}
    (hE : ∀ e h, P h → fails p = some e → E e h)
    (hQ : fails p = none → ∀ h, P h → Q () { h with files := h.files.erase path }) :
    Triple P (unlink fails p path) Q E :=
  Triple.attempt_bind hE fun hp => Triple.assign (hQ hp)

/-- **`_stream_upload`** stores all chunks in the `.part` file and closes what it has read from, or raises. -/
theorem streamUpload_ends (chunks : List Chunk) :
    Triple (During s id h₀ none none h₀.db) (streamUpload fails limits chunks (partialPath s id))
      (fun written h => StreamDone fails limits s id h₀ chunks.length (chunks.flatMap Chunk.bytes) written h ∧
        fails .closeUpload = none)
      (StreamRaised fails limits s id h₀ chunks.length (chunks.flatMap Chunk.bytes)) := by
  unfold streamUpload
  apply Triple.ensuring
    (G := fun written => StreamDone fails limits s id h₀ chunks.length (chunks.flatMap Chunk.bytes) written)
    (F := StreamRaised fails limits s id h₀ chunks.length (chunks.flatMap Chunk.bytes))
  · apply Triple.tryCatch (F := fun e h => (Holding s id h₀ none none h ∧ fails .openPart = some e) ∨
      ((∃ bytes, Holding s id h₀ (some bytes) none h) ∧
        (fails .openPart = none ∧ Breaks fails limits chunks.length (chunks.flatMap Chunk.bytes) e)))
    · apply (openExclusive_ends.mono (fun _ hh => hh) (fun _ _ hh => hh) (fun _ _ hh => .inl hh)).bind
      intro _
      apply Triple.assume
      intro hopen
      apply (writeStream_ends chunks).mono (fun _ hh => hh)
      · rintro written h ⟨hh, hdone⟩
        exact ⟨hh, hopen, hdone⟩
      · rintro e h ⟨hh, hbreak⟩
        exact .inr ⟨hh, hopen, hbreak⟩
    -- the handler is there for both: when the open raised, it finds no file to remove
    · intro e
      apply Triple.or
      · apply Triple.assume
        intro hopen
        have hleft : StreamLeft fails limits chunks.length (chunks.flatMap Chunk.bytes) none :=
          .notOpened (hopen ▸ Option.some_ne_none e)
        apply (unlink_ends (Q := fun _ => Holding s id h₀ none none)
          (fun e' h hh hfails => ⟨⟨none, hh, hleft⟩, .of_fails hfails⟩) fun _ h hh => hh.unlinkPart).bind
        intro _
        exact Triple.throw fun h hh => ⟨⟨none, hh, hleft⟩, .of_fails hopen⟩
      · apply Triple.assume
        rintro ⟨hopen, hbreak⟩
        apply Triple.ofExists
        intro bytes
        apply (unlink_ends (Q := fun _ h => Holding s id h₀ none none h ∧ fails .unlinkPart = none)
          (fun e' h hh hfails =>
            ⟨⟨_, hh, .kept hopen hbreak.not_writesAll (hfails ▸ Option.some_ne_none e')⟩, .of_fails hfails⟩)
          fun hunlink h hh => ⟨hh.unlinkPart, hunlink⟩).bind
        intro _
        apply Triple.assume
        intro hunlink
        exact Triple.throw fun h hh => ⟨⟨none, hh, .removed hbreak.not_writesAll hunlink⟩, hbreak.caused⟩
  -- nothing removes the file once the block is left
  · intro written
    apply Triple.attempt_iff
    · rintro e h ⟨hh, hopen, hdone⟩ hfails
      exact ⟨⟨_, hh.1.1, .finished hopen hdone (hfails ▸ Option.some_ne_none e)⟩, .of_fails hfails⟩
    · intro hclose h hh
      exact ⟨hh, hclose⟩
  · intro e
    apply Triple.attempt_iff
    · intro e' h hh hfails
      exact ⟨hh.1, .of_fails hfails⟩
    · intro _ h hh
      exact hh

end BambuBabu
