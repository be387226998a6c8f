import BambuBabu.Api.Paths
import BambuBabu.Service.Intake

/-!
# `Service.Storeroom` — uploads, slices and maintenance on the same disk

`Service.Intake` takes the size of the storage as an input of a request. Here it is the size of the files that are
there: the request that holds the lock writes its own file step by step, and between any two of its steps slicing
workers write outputs of any size and maintenance removes files.

* `Storeroom` — the uploads, the files with their sizes, and how far the request that holds the lock has come.
* `StoreEvent`, `Storeroom.step` — the steps; `storeroom_intake`: on the service side they are those of `intake`.

`grown` and `shrunk` are not part of the program. They count, since the request measured the storage, the bytes
that others have added to the two directories, and those that have been taken out of them.
-/

namespace BambuBabu

open Storage Runs

/-- How far the request that holds the lock has come. -/
inductive Stage where
  /-- After `_storage_bytes()`, before the file is opened. -/
  | measured
  | streaming
  /-- After the second look at the quota. -/
  | checked
  /-- The file has its final name. -/
  | stored
  deriving DecidableEq

/-- The request that holds the lock, with what it has measured and written. -/
structure Lease (ι : Type) where
  request : ι
  id : JobId
  storage : Nat
  written : Nat
  deriving DecidableEq

/-- Who holds `UPLOAD_LOCK`. -/
def Intake.lease {ι : Type} (k : Intake ι) : Option (Lease ι) :=
  k.lock.bind fun i => (k.uploads i).bind fun u =>
    match u.pc with
    | .waiting => none
    | .streaming storage written => some ⟨i, u.id, storage, written⟩

structure Storeroom (ι : Type) where
  intake : Intake ι
  /-- Path and size. -/
  files : Files String Nat
  stage : Stage := .measured
  grown : Nat := 0
  shrunk : Nat := 0

inductive StoreEvent (ι : Type) where
  | post (i : ι) (id : JobId) (form : UploadForm)
  /-- A request gets the lock and measures the storage. -/
  | enter (i : ι)
  | openPart
  | chunk (size : Nat)
  /-- The end of the file, and the second look at the quota. -/
  | check
  /-- The file is valid and is renamed. -/
  | store
  | commit
  /-- An exception in the request that holds the lock. -/
  | abandon
  /-- `file.close()` raises at the end of the stream, where nothing removes the file. -/
  | closeFails
  /-- A request gives up waiting for the lock. -/
  | leave (i : ι)
  /-- A slicing worker's output has grown or shrunk to this size. -/
  | slice (stlPath : String) (p : PrinterID) (size : Nat)
  /-- Maintenance, or a slicing worker that failed, removes a file. -/
  | unlink (path : String)
  /-- Any other step of the service. -/
  | other (e : Event)

namespace Storeroom

variable {ι : Type} [DecidableEq ι] (limits : UploadLimits) (s : Storeroom ι)

/-- The settings the service runs with. -/
def settings : Settings := s.intake.service.settings

/-- What a file of this size adds to `_storage_bytes`. -/
def counted (cfg : Settings) (path : String) (size : Nat) : Nat :=
  (if parentDir path = cfg.uploadDir then size else 0) + if parentDir path = cfg.slicedDir then size else 0

/-- `_storage_bytes()` -/
def bytes : Nat := storageBytes (fun size => size) s.settings s.files

/-- Move the requests on. -/
def serve (k : Option (Intake ι)) : Option (Storeroom ι) := k.map fun k => { s with intake := k }

/-- The request ends with an exception: its files are removed. -/
def discard (l : Lease ι) : Option (Storeroom ι) :=
  (s.intake.step limits (.abandon l.request)).map fun k =>
    { s with
      intake := k
      files := (s.files.erase (partialPath s.settings l.id)).erase (uploadPath s.settings l.id) }

/-- The request that holds the lock appends to its file, if nobody has removed it. -/
def extend (l : Lease ι) (size : Nat) : Files String Nat :=
  match s.files.lookup (partialPath s.settings l.id) with
  | none => s.files
  | some old => s.files.insert (partialPath s.settings l.id) (old + size)

/-- A step of the request that holds the lock. -/
def leaseStep (l : Lease ι) : StoreEvent ι → Option (Storeroom ι)
  | .openPart =>
      if s.stage = .measured ∧ (s.files.lookup (partialPath s.settings l.id)).isNone then
        some { s with files := s.files.insert (partialPath s.settings l.id) 0, stage := .streaming }
      else none
  | .chunk size =>
      if s.stage = .streaming then
        match receiveChunk limits l.written size with
        | .error _ => s.discard limits l
        | .ok _ =>
            (s.intake.step limits (.chunk l.request size)).map fun k =>
              { s with intake := k, files := s.extend l size }
      else none
  | .check =>
      if s.stage = .streaming then
        if l.storage + l.written > limits.storageLimit then s.discard limits l
        else some { s with stage := .checked }
      else none
  | .store =>
      if s.stage = .checked ∧ (s.files.lookup (partialPath s.settings l.id)).isSome then
        some { s with
          files := s.files.rename (partialPath s.settings l.id) (uploadPath s.settings l.id)
          stage := .stored }
      else none
  | .commit =>
      if s.stage = .stored ∧ (s.intake.service.db.job l.id).isNone then
        s.serve (s.intake.step limits (.complete l.request (.ok ())))
      else none
  | .abandon => s.discard limits l
  | .closeFails => if s.stage = .streaming then s.serve (s.intake.step limits (.abandon l.request)) else none
  | _ => none

/-- The id is `uuid4`'s: no file carries it. -/
def unusedId (id : JobId) : Bool :=
  (s.files.lookup (partialPath s.settings id)).isNone && (s.files.lookup (uploadPath s.settings id)).isNone

/-- One step. -/
def step : StoreEvent ι → Option (Storeroom ι)
  | .post i id form => s.serve (s.intake.step limits (.post i id form))
  | .enter i =>
      match s.intake.uploads i with
      | none => none
      | some u =>
          if s.unusedId u.id then
            (s.intake.step limits (.enter i s.bytes)).map fun k =>
              { s with intake := k, stage := .measured, grown := 0, shrunk := 0 }
          else none
  | .leave i =>
      match s.intake.uploads i with
      | some ⟨_, _, .waiting⟩ => s.serve (s.intake.step limits (.abandon i))
      | _ => none
  | .slice stlPath p size =>
      let path := sliceOutput s.settings.slicedDir stlPath p
      some { s with
        files := s.files.insert path size
        grown := s.grown + counted s.settings path size
        shrunk := s.shrunk + Files.weight (counted s.settings) s.files path }
  | .unlink path =>
      some { s with
        files := s.files.erase path
        shrunk := s.shrunk + Files.weight (counted s.settings) s.files path }
  | .other e => s.serve (s.intake.step limits (.other e))
  | e =>
      match s.intake.lease with
      | none => none
      | some l => s.leaseStep limits l e

end Storeroom

/-- The machine, on any disk. -/
def storeroom (ι : Type) [DecidableEq ι] (limits : UploadLimits) : Machine (Storeroom ι) (StoreEvent ι) where
  init s := (intake ι limits).init s.intake
  step := Storeroom.step limits

variable {ι : Type} [DecidableEq ι] {limits : UploadLimits} {k k' : Intake ι} {l : Lease ι} {i : ι}

/-! ## What the requests do to the lease -/

namespace Intake

theorem uploads_setUpload (k : Intake ι) (i : ι) (u : Option Upload) (j : ι) :
    (k.setUpload i u).uploads j = if j = i then u else k.uploads j := Function.update_apply ..

omit [DecidableEq ι] in
theorem lease_eq_some_iff : k.lease = some l ↔ k.lock = some l.request ∧
    ∃ form, k.uploads l.request = some ⟨l.id, form, .streaming l.storage l.written⟩ := by
  constructor
  · intro h
    obtain ⟨i, hlock, hi⟩ := Option.bind_eq_some_iff.mp h
    obtain ⟨⟨id, form, pc⟩, hu, hpc⟩ := Option.bind_eq_some_iff.mp hi
    cases pc with
    | waiting => cases hpc
    | streaming storage written =>
        cases hpc
        exact ⟨hlock, form, hu⟩
  · rintro ⟨hlock, form, hu⟩
    rw [lease, hlock, Option.bind_some, hu]
    rfl

/-- A request that does not hold the lock afterwards leaves the lease alone. -/
theorem lease_setUpload {u : Option Upload} (hw : ∀ v, u = some v → v.holds = false)
    (h : (k.setUpload i u).lease = some l) : k.lease = some l := by
  obtain ⟨hlock, form, hu⟩ := lease_eq_some_iff.mp h
  refine lease_eq_some_iff.mpr ⟨hlock, form, ?_⟩
  by_cases hi : l.request = i
  · rw [hi] at hu
    rw [uploads_setUpload, if_pos rfl] at hu
    cases hw _ hu
  · rwa [uploads_setUpload, if_neg hi] at hu

theorem lease_leave : (k.leave i).lease = none := rfl

theorem lease_post {id : JobId} {form : UploadForm} (hstep : k.step limits (.post i id form) = some k')
    (h : k'.lease = some l) : k.lease = some l ∧ k'.service = k.service := by
  simp only [step] at hstep
  split at hstep <;> cases hstep
  refine ⟨lease_setUpload ?_ h, rfl⟩
  rintro v ⟨⟩
  rfl

/-- Who enters has measured the storage and written nothing. -/
theorem lease_enter {storage : Nat} (hstep : k.step limits (.enter i storage) = some k')
    (h : k'.lease = some l) :
    l.storage = storage ∧ l.written = 0 ∧ (∃ u, k.uploads i = some u ∧ u.id = l.id) ∧ k'.service = k.service := by
  simp only [step] at hstep
  split at hstep
  · next id form hu =>
      split at hstep
      · next hlock =>
          have hfree : k.lock = none := Option.isNone_iff_eq_none.mp hlock
          split at hstep <;> cases hstep
          · obtain ⟨hl, form', hu'⟩ := lease_eq_some_iff.mp h
            have hi : i = l.request := Option.some.inj hl
            have hself := (uploads_setUpload k i _ _).symm.trans hu'
            rw [if_pos hi.symm] at hself
            simp only [Option.some.injEq, Upload.mk.injEq, UploadPc.streaming.injEq] at hself
            obtain ⟨hid, -, hstorage, hwritten⟩ := hself
            exact ⟨hstorage.symm, hwritten.symm, ⟨_, hu, hid⟩, rfl⟩
          · obtain ⟨hl, -⟩ := lease_eq_some_iff.mp h
            rw [show (k.setUpload i none).lock = none from hfree] at hl
            cases hl
      · cases hstep
  · cases hstep

/-- A chunk that is received is written. -/
theorem lease_chunk {size written' : Nat} (hl : k.lease = some l)
    (hok : receiveChunk limits l.written size = .ok written')
    (hstep : k.step limits (.chunk l.request size) = some k') :
    k'.lease = some { l with written := written' } ∧ k'.service = k.service := by
  obtain ⟨hlock, form, hu⟩ := lease_eq_some_iff.mp hl
  simp only [step, hu, hok, Option.some.injEq] at hstep
  subst hstep
  exact ⟨lease_eq_some_iff.mpr ⟨hlock, form, Function.update_self ..⟩, rfl⟩

theorem lease_abandon (hl : k.lease = some l) (hstep : k.step limits (.abandon l.request) = some k') :
    k'.lease = none := by
  obtain ⟨-, form, hu⟩ := lease_eq_some_iff.mp hl
  simp only [step, hu, Option.some.injEq] at hstep
  rw [← hstep]
  exact lease_leave

/-- A request that commits is done, and the settings are the same. -/
theorem lease_complete {stored : Except Exc Unit} (hl : k.lease = some l)
    (hstep : k.step limits (.complete l.request stored) = some k') :
    k'.lease = none ∧ k'.service.settings = k.service.settings := by
  obtain ⟨-, form, hu⟩ := lease_eq_some_iff.mp hl
  simp only [step, hu, Option.some.injEq] at hstep
  rw [← hstep]
  exact ⟨rfl, rfl⟩

/-- A request that waits gives up. -/
theorem lease_giveUp {id : JobId} {form : UploadForm} (hu : k.uploads i = some ⟨id, form, .waiting⟩)
    (hstep : k.step limits (.abandon i) = some k') (h : k'.lease = some l) :
    k.lease = some l ∧ k'.service = k.service := by
  simp only [step, hu, Option.some.injEq] at hstep
  subst hstep
  refine ⟨lease_setUpload ?_ h, rfl⟩
  rintro v ⟨⟩

/-- While a request holds the lock, the service keeps its settings. -/
theorem lease_other {e : Event} (hstep : k.step limits (.other e) = some k') (h : k'.lease = some l) :
    k.lease = some l ∧ k'.service.settings = k.service.settings := by
  simp only [step] at hstep
  split at hstep
  · cases hstep
  · obtain ⟨sv, hs, rfl⟩ := Option.map_eq_some_iff.mp hstep
    unfold serve at h ⊢
    split
    · next hrun =>
        rw [if_pos hrun] at h
        refine ⟨h, ?_⟩
        -- a start ends in the phase before
        rcases Service.step_settings hs with hsame | rfl
        · exact hsame
        · obtain ⟨-, hboot⟩ := Service.step_boot hs
          rw [hboot] at hrun
          cases hrun
    · next hrun =>
        rw [if_neg hrun] at h
        cases h

end Intake

/-! ## On the service side nothing is new -/

variable {s s' : Storeroom ι}

theorem discard_intake (h : s.discard limits l = some s') : s.intake.step limits (.abandon l.request) = some s'.intake := by
  obtain ⟨k, hk, rfl⟩ := Option.map_eq_some_iff.mp h
  exact hk

/-- Writing the part and renaming it leave the intake alone. -/
theorem intake_of_fileStep {e : StoreEvent ι} (he : e = .openPart ∨ e = .store)
    (h : s.leaseStep limits l e = some s') : s'.intake = s.intake := by
  rcases he with rfl | rfl
  · simp only [Storeroom.leaseStep] at h
    split at h <;> cases h
    rfl
  · simp only [Storeroom.leaseStep] at h
    split at h <;> cases h
    rfl

theorem leaseStep_intake {e : StoreEvent ι} (h : s.leaseStep limits l e = some s') :
    s'.intake = s.intake ∨ ∃ e', s.intake.step limits e' = some s'.intake := by
  cases e with
  | openPart => exact .inl (intake_of_fileStep (.inl rfl) h)
  | store => exact .inl (intake_of_fileStep (.inr rfl) h)
  | chunk size =>
      simp only [Storeroom.leaseStep] at h
      split at h
      · split at h
        · exact .inr ⟨_, discard_intake h⟩
        · obtain ⟨k, hk, rfl⟩ := Option.map_eq_some_iff.mp h
          exact .inr ⟨_, hk⟩
      · cases h
  | check =>
      simp only [Storeroom.leaseStep] at h
      split at h
      · split at h
        · exact .inr ⟨_, discard_intake h⟩
        · cases h
          exact .inl rfl
      · cases h
  | commit =>
      simp only [Storeroom.leaseStep] at h
      split at h
      · obtain ⟨k, hk, rfl⟩ := Option.map_eq_some_iff.mp h
        exact .inr ⟨_, hk⟩
      · cases h
  | abandon => exact .inr ⟨_, discard_intake h⟩
  | closeFails =>
      simp only [Storeroom.leaseStep] at h
      split at h
      · obtain ⟨k, hk, rfl⟩ := Option.map_eq_some_iff.mp h
        exact .inr ⟨_, hk⟩
      · cases h
  | post | enter | leave | slice | unlink | other => cases h

/-- A step of the storeroom is a step of its requests, or none. -/
theorem storeroom_step {e : StoreEvent ι} (h : s.step limits e = some s') :
    s'.intake = s.intake ∨ ∃ e', s.intake.step limits e' = some s'.intake := by
  cases e with
  | post | other =>
      obtain ⟨k, hk, rfl⟩ := Option.map_eq_some_iff.mp h
      exact .inr ⟨_, hk⟩
  | enter i =>
      simp only [Storeroom.step] at h
      split at h
      · cases h
      · split at h
        · obtain ⟨k, hk, rfl⟩ := Option.map_eq_some_iff.mp h
          exact .inr ⟨_, hk⟩
        · cases h
  | leave i =>
      simp only [Storeroom.step] at h
      split at h
      · obtain ⟨k, hk, rfl⟩ := Option.map_eq_some_iff.mp h
        exact .inr ⟨_, hk⟩
      · cases h
  | slice | unlink =>
      cases h
      exact .inl rfl
  | openPart | chunk | check | store | commit | abandon | closeFails =>
      simp only [Storeroom.step] at h
      split at h
      · cases h
      · exact leaseStep_intake h

/-- **The requests are those of `intake`**, with the sizes that the files have. -/
theorem storeroom_intake (h : (storeroom ι limits).Reach always s) : (intake ι limits).Reach always s.intake := by
  obtain ⟨s₀, hinit, hp⟩ := h
  have hsim : ∃ k, (intake ι limits).Path always s₀.intake k ∧ s.intake = k := by
    refine Machine.Path.simulate (R := fun s k => s.intake = k) ?_ hp rfl
    rintro s e s' k rfl - hs
    rcases storeroom_step hs with hsame | ⟨e', hstep⟩
    · exact .inl hsame
    · exact .inr ⟨e', s'.intake, trivial, hstep, rfl⟩
  obtain ⟨k, hrun, rfl⟩ := hsim
  exact ⟨s₀.intake, hinit, hrun⟩

end BambuBabu
