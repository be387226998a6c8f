import BambuBabu.Service.Storeroom

/-!
# `Correctness.StorageQuota` — what the storage quota is worth at admission

A request measures the storage once, before it streams its file, and compares the quota with that measurement and
its own bytes. The books below say what becomes of the measurement: at the commit the two directories hold what
was measured, the file itself, and whatever others have added less what has been removed (`Books`).

* `slice_during_upload` — a slice that is written meanwhile is not seen: the quota is exceeded.
* `storage_quota_at_admission` — the quota is kept exactly when the others leave room; `keepsQuota_of_quiet`: they do
  when they add no more than is removed, by the request's second look.
-/

namespace BambuBabu

open Storage Runs Storeroom

variable {ι : Type} [DecidableEq ι] {limits : UploadLimits} {s s' : Storeroom ι} {l : Lease ι}

/-- `s.files` at the path of the request's file, under either of its names. -/
def Storeroom.part (s : Storeroom ι) (l : Lease ι) : Option Nat := s.files.lookup (partialPath s.settings l.id)

def Storeroom.final (s : Storeroom ι) (l : Lease ι) : Option Nat := s.files.lookup (uploadPath s.settings l.id)

/-- What the request's file of `size` bytes adds to the storage. -/
def Storeroom.own (s : Storeroom ι) (l : Lease ι) (size : Nat) : Nat :=
  counted s.settings (uploadPath s.settings l.id) size

/-- The storage is what was measured and `own`, with the changes that others have made. -/
def Storeroom.Balanced (s : Storeroom ι) (l : Lease ι) (own : Nat) : Prop :=
  s.bytes + s.shrunk = l.storage + own + s.grown

/-- **The books** of the request that holds the lock. A file that somebody has removed is not accounted for; the
    request then ends with an exception. -/
inductive Books (s : Storeroom ι) (l : Lease ι) : Prop
  | measured (hstage : s.stage = .measured) (hfinal : s.final l = none) (hzero : l.written = 0)
      (hbal : s.Balanced l 0)
  | written (hstage : s.stage = .streaming ∨ s.stage = .checked) (hfinal : s.final l = none)
      (hbal : ∀ n, s.part l = some n → n = l.written ∧ s.Balanced l (s.own l l.written))
  | stored (hstage : s.stage = .stored) (hbal : s.Balanced l (s.own l l.written))

/-- The books of whoever holds the lock are in order. -/
def Accounted (s : Storeroom ι) : Prop := ∀ l, s.intake.lease = some l → Books s l

/-! ## Adding up -/

omit [DecidableEq ι] in
theorem bytes_eq (s : Storeroom ι) : s.bytes = s.files.total (counted s.settings) :=
  (Files.total_add _ _ s.files).symm

/-- The file counts the same under both of its names. -/
theorem counted_partialPath (cfg : Settings) (id : JobId) (size : Nat) :
    counted cfg (partialPath cfg id) size = counted cfg (uploadPath cfg id) size := by
  unfold counted
  rw [parentDir_partialPath]

theorem counted_zero (cfg : Settings) (path : String) : counted cfg path 0 = 0 := by
  unfold counted
  rw [ite_self, ite_self]

/-! ## Steps of the others -/

omit [DecidableEq ι] in
/-- What the others do changes the books' two columns alike, and creates neither file of the request. -/
theorem Books.others (h : Books s l) (hset : s'.settings = s.settings) (hstage : s'.stage = s.stage)
    (hpart : ∀ n, s'.part l = some n → s.part l = some n) (hfinal : s.final l = none → s'.final l = none)
    (hbal : s'.bytes + s'.shrunk + s.grown = s.bytes + s.shrunk + s'.grown) : Books s' l := by
  have hkeep : ∀ {own}, s.Balanced l own → s'.Balanced l own := by
    intro own h
    unfold Storeroom.Balanced at h ⊢
    omega
  have hown : s'.own l l.written = s.own l l.written := by
    unfold Storeroom.own
    rw [hset]
  cases h with
  | measured hst hf hzero hb => exact .measured (hstage.trans hst) (hfinal hf) hzero (hkeep hb)
  | written hst hf hb =>
      refine .written (hstage ▸ hst) (hfinal hf) ?_
      intro n hn
      obtain ⟨hsize, hb⟩ := hb n (hpart n hn)
      rw [hown]
      exact ⟨hsize, hkeep hb⟩
  | stored hst hb =>
      refine .stored (hstage.trans hst) ?_
      rw [hown]
      exact hkeep hb

omit [DecidableEq ι] in
/-- A step that concerns neither the files nor the request. -/
theorem Books.served {k : Intake ι} (h : Books s l) (hset : k.service.settings = s.settings) :
    Books { s with intake := k } l := by
  refine h.others hset rfl ?_ ?_ ?_
  · intro n hn
    unfold Storeroom.part at hn ⊢
    rwa [← hset]
  · intro hf
    unfold Storeroom.final at hf ⊢
    rwa [show ({ s with intake := k } : Storeroom ι).settings = s.settings from hset]
  · rw [bytes_eq, bytes_eq, show ({ s with intake := k } : Storeroom ι).settings = s.settings from hset]

theorem Books.slice {stlPath : String} {p : PrinterID} {size : Nat} (h : Books s l)
    (hstep : s.step limits (.slice stlPath p size) = some s') : Books s' l := by
  cases hstep
  refine h.others rfl rfl ?_ ?_ ?_
  · intro n hn
    exact (AList.lookup_insert_ne sliceOutput_ne_partialPath.symm).symm.trans hn
  · intro hf
    exact (AList.lookup_insert_ne sliceOutput_ne_uploadPath.symm).trans hf
  · have hins := Files.total_insert (counted s.settings) s.files (sliceOutput s.settings.slicedDir stlPath p) size
    rw [bytes_eq, bytes_eq]
    show Files.total (counted s.settings) (s.files.insert _ size) + (s.shrunk + _) + s.grown =
      _ + (s.grown + counted s.settings _ size)
    omega

theorem Books.unlink {path : String} (h : Books s l) (hstep : s.step limits (.unlink path) = some s') :
    Books s' l := by
  cases hstep
  refine h.others rfl rfl ?_ ?_ ?_
  · intro n hn
    by_cases hp : partialPath s.settings l.id = path
    · have hgone : (s.files.erase path).lookup (partialPath s.settings l.id) = none := by
        rw [hp, AList.lookup_erase]
      cases hgone.symm.trans hn
    · exact (AList.lookup_erase_ne hp).symm.trans hn
  · intro hf
    by_cases hp : uploadPath s.settings l.id = path
    · show (s.files.erase path).lookup (uploadPath s.settings l.id) = none
      rw [hp, AList.lookup_erase]
    · exact (AList.lookup_erase_ne hp).trans hf
  · have herase := Files.total_erase (counted s.settings) s.files path
    rw [bytes_eq, bytes_eq]
    show Files.total (counted s.settings) (s.files.erase path) + (s.shrunk + _) + s.grown = _ + s.shrunk + s.grown
    omega

/-! ## Steps of the request -/

/-- Who enters has measured what is there. -/
theorem Books.enter {i : ι} (hstep : s.step limits (.enter i) = some s') (hl : s'.intake.lease = some l) :
    Books s' l := by
  simp only [Storeroom.step] at hstep
  split at hstep
  · cases hstep
  · next u hu =>
      split at hstep
      · next hunused =>
          obtain ⟨k, hk, rfl⟩ := Option.map_eq_some_iff.mp hstep
          obtain ⟨hstorage, hzero, ⟨v, hv, hid⟩, hservice⟩ := Intake.lease_enter hk hl
          have hset : k.service.settings = s.settings := congrArg Service.settings hservice
          cases hu.symm.trans hv
          obtain ⟨-, hfinal⟩ := Bool.and_eq_true_iff.mp hunused
          have hfinal := Option.isNone_iff_eq_none.mp hfinal
          refine .measured rfl ?_ hzero ?_
          · show s.files.lookup (uploadPath k.service.settings l.id) = none
            rwa [hset, ← hid]
          · show storageBytes _ k.service.settings s.files + 0 = l.storage + 0 + 0
            rw [hset, hstorage]
            rfl
      · cases hstep

/-- An empty file adds nothing. -/
theorem Books.openPart (h : Books s l) (hstep : s.leaseStep limits l .openPart = some s') : Books s' l := by
  simp only [Storeroom.leaseStep] at hstep
  split at hstep <;> cases hstep
  next hok =>
  obtain ⟨hstage, hnone⟩ := hok
  have hnone := Option.isNone_iff_eq_none.mp hnone
  cases h with
  | measured _ hfinal hzero hbal =>
      refine .written (.inl rfl) ?_ ?_
      · exact (AList.lookup_insert_ne partialPath_ne_uploadPath.symm).trans hfinal
      · intro n hn
        have hn : n = 0 := Option.some.inj (hn.symm.trans (AList.lookup_insert _))
        refine ⟨hn.trans hzero.symm, ?_⟩
        have hins := Files.total_insert (counted s.settings) s.files (partialPath s.settings l.id) 0
        rw [Files.weight_none hnone, counted_zero] at hins
        unfold Storeroom.Balanced at hbal ⊢
        rw [bytes_eq] at hbal ⊢
        show Files.total (counted s.settings) (s.files.insert _ 0) + s.shrunk =
          l.storage + counted s.settings _ l.written + s.grown
        rw [hzero, counted_zero]
        omega
  | written hst => rcases hst with hst | hst <;> cases hst.symm.trans hstage
  | stored hst => cases hst.symm.trans hstage

omit [DecidableEq ι] in
/-- A chunk is added to the file and to the count. -/
theorem Books.chunk {size written : Nat} {k : Intake ι} (h : Books s l) (hstage : s.stage = .streaming)
    (hok : receiveChunk limits l.written size = .ok written) (hset : k.service.settings = s.settings) :
    Books { s with intake := k, files := s.extend l size } { l with written := written } := by
  have hwritten : written = l.written + size := by
    unfold receiveChunk at hok
    split at hok <;> cases hok
    rfl
  cases h with
  | written _ hfinal hbal =>
      unfold Storeroom.extend
      cases hpart : s.files.lookup (partialPath s.settings l.id) with
      | none =>
          -- somebody has unlinked the partial file, so there is nothing to balance
          refine .written (.inl hstage) ?_ ?_
          · show s.files.lookup (uploadPath k.service.settings l.id) = none
            rwa [hset]
          · intro n hn
            have hn : s.files.lookup (partialPath k.service.settings l.id) = some n := hn
            rw [hset, hpart] at hn
            cases hn
      | some old =>
          obtain ⟨hold, hbal⟩ := hbal old hpart
          have hins := Files.total_insert (counted s.settings) s.files (partialPath s.settings l.id) (old + size)
          rw [Files.weight_eq hpart, counted_partialPath, counted_partialPath, hold, ← hwritten] at hins
          refine .written (.inl hstage) ?_ ?_
          · show AList.lookup (uploadPath k.service.settings l.id) _ = none
            rw [hset]
            exact (AList.lookup_insert_ne partialPath_ne_uploadPath.symm).trans hfinal
          · intro n hn
            have hn : AList.lookup (partialPath k.service.settings l.id)
              (s.files.insert (partialPath s.settings l.id) (old + size)) = some n := hn
            rw [hset, AList.lookup_insert, hold, ← hwritten] at hn
            refine ⟨(Option.some.inj hn).symm, ?_⟩
            unfold Storeroom.Balanced Storeroom.own at hbal ⊢
            rw [bytes_eq] at hbal ⊢
            show Files.total (counted k.service.settings)
              (s.files.insert (partialPath s.settings l.id) (old + size)) + s.shrunk = l.storage +
              counted k.service.settings (uploadPath k.service.settings l.id) written + s.grown
            rw [hset, hold, ← hwritten]
            omega
  | measured hst => cases hst.symm.trans hstage
  | stored hst => cases hst.symm.trans hstage

/-- The rename changes no size. -/
theorem Books.store (h : Books s l) (hstep : s.leaseStep limits l .store = some s') : Books s' l := by
  simp only [Storeroom.leaseStep] at hstep
  split at hstep <;> cases hstep
  next hok =>
  obtain ⟨hstage, hsome⟩ := hok
  obtain ⟨n, hpart⟩ := Option.isSome_iff_exists.mp hsome
  cases h with
  | written _ hfinal hbal =>
      obtain ⟨-, hbal⟩ := hbal n hpart
      refine .stored rfl ?_
      have hren : (s.files.rename (partialPath s.settings l.id) (uploadPath s.settings l.id)).total
          (counted s.settings) = s.files.total (counted s.settings) :=
        Files.total_rename hpart hfinal (counted_partialPath _ _ _)
      unfold Storeroom.Balanced at hbal ⊢
      rw [bytes_eq] at hbal ⊢
      show Files.total (counted s.settings) _ + s.shrunk = l.storage + s.own l l.written + s.grown
      rwa [hren]
  | measured hst => cases hst.symm.trans hstage
  | stored hst => cases hst.symm.trans hstage

/-! ## The books of a whole run -/

/-- Nobody holds the lock when a request has given up or ended. -/
theorem lease_of_discard (hl : s.intake.lease = some l) (hstep : s.discard limits l = some s') :
    s'.intake.lease = none := by
  obtain ⟨k, hk, rfl⟩ := Option.map_eq_some_iff.mp hstep
  exact Intake.lease_abandon hl hk

theorem lease_of_closeFails (hl : s.intake.lease = some l) (hstep : s.leaseStep limits l .closeFails = some s') :
    s'.intake.lease = none := by
  simp only [Storeroom.leaseStep] at hstep
  split at hstep
  · obtain ⟨k, hk, rfl⟩ := Option.map_eq_some_iff.mp hstep
    exact Intake.lease_abandon hl hk
  · cases hstep

theorem lease_of_commit (hl : s.intake.lease = some l) (hstep : s.leaseStep limits l .commit = some s') :
    s'.intake.lease = none := by
  simp only [Storeroom.leaseStep] at hstep
  split at hstep
  · obtain ⟨k, hk, rfl⟩ := Option.map_eq_some_iff.mp hstep
    exact (Intake.lease_complete hl hk).1
  · cases hstep

omit [DecidableEq ι] in
/-- A request that ends has no books. -/
theorem accounted_of_free (hfree : s.intake.lease = none) : Accounted s := by
  intro l hl
  cases hfree.symm.trans hl

omit [DecidableEq ι] in
/-- The books of the request that holds the lock are all there are. -/
theorem accounted_of_same (hsame : s'.intake = s.intake) (hl : s.intake.lease = some l) (hbooks : Books s' l) :
    Accounted s' := by
  intro l' hl'
  rw [hsame, hl] at hl'
  cases hl'
  exact hbooks

/-- The request that holds the lock keeps its books, or ends. -/
theorem Accounted.leaseStep {e : StoreEvent ι} (hA : Accounted s) (hl : s.intake.lease = some l)
    (hstep : s.leaseStep limits l e = some s') : Accounted s' := by
  have hbooks := hA l hl
  cases e with
  | openPart => exact accounted_of_same (intake_of_fileStep (.inl rfl) hstep) hl (hbooks.openPart hstep)
  | chunk size =>
      simp only [Storeroom.leaseStep] at hstep
      split at hstep
      · next hstage =>
          split at hstep
          · exact accounted_of_free (lease_of_discard hl hstep)
          · next written hok =>
              obtain ⟨k, hk, rfl⟩ := Option.map_eq_some_iff.mp hstep
              obtain ⟨hnext, hservice⟩ := Intake.lease_chunk hl hok hk
              intro l' hl'
              cases hnext.symm.trans hl'
              exact hbooks.chunk hstage hok (congrArg Service.settings hservice)
      · cases hstep
  | check =>
      simp only [Storeroom.leaseStep] at hstep
      split at hstep
      · next hstage =>
          split at hstep
          · exact accounted_of_free (lease_of_discard hl hstep)
          · cases hstep
            intro l' hl'
            cases hl.symm.trans hl'
            cases hbooks with
            | written _ hfinal hbal => exact .written (.inr rfl) hfinal hbal
            | measured hst => cases hst.symm.trans hstage
            | stored hst => cases hst.symm.trans hstage
      · cases hstep
  | store => exact accounted_of_same (intake_of_fileStep (.inr rfl) hstep) hl (hbooks.store hstep)
  | commit => exact accounted_of_free (lease_of_commit hl hstep)
  | abandon => exact accounted_of_free (lease_of_discard hl hstep)
  | closeFails => exact accounted_of_free (lease_of_closeFails hl hstep)
  | post | enter | leave | slice | unlink | other => cases hstep

/-- **Every step keeps the books.** -/
theorem Accounted.step {e : StoreEvent ι} (hA : Accounted s) (hstep : s.step limits e = some s') :
    Accounted s' := by
  cases e with
  | post i id form =>
      obtain ⟨k, hk, rfl⟩ := Option.map_eq_some_iff.mp hstep
      intro l hl
      obtain ⟨hl, hservice⟩ := Intake.lease_post hk hl
      exact (hA l hl).served (congrArg Service.settings hservice)
  | enter i => exact fun l hl => Books.enter hstep hl
  | leave i =>
      simp only [Storeroom.step] at hstep
      split at hstep
      · next hu =>
          obtain ⟨k, hk, rfl⟩ := Option.map_eq_some_iff.mp hstep
          intro l hl
          obtain ⟨hl, hservice⟩ := Intake.lease_giveUp hu hk hl
          exact (hA l hl).served (congrArg Service.settings hservice)
      · cases hstep
  | slice stlPath p size =>
      intro l hl
      have hsame : s'.intake = s.intake := by
        cases hstep
        rfl
      exact (hA l (hsame ▸ hl)).slice hstep
  | unlink path =>
      intro l hl
      have hsame : s'.intake = s.intake := by
        cases hstep
        rfl
      exact (hA l (hsame ▸ hl)).unlink hstep
  | other e =>
      obtain ⟨k, hk, rfl⟩ := Option.map_eq_some_iff.mp hstep
      intro l hl
      obtain ⟨hl, hset⟩ := Intake.lease_other hk hl
      exact (hA l hl).served hset
  | openPart | chunk | check | store | commit | abandon | closeFails =>
      simp only [Storeroom.step] at hstep
      split at hstep
      · cases hstep
      · next hl => exact hA.leaseStep hl hstep

theorem accounted_of_reach (h : (storeroom ι limits).Reach always s) : Accounted s := by
  apply h.invariant (I := Accounted)
  · rintro s ⟨-, -, hlock, -⟩ l hl
    obtain ⟨hheld, -⟩ := Intake.lease_eq_some_iff.mp hl
    rw [hlock] at hheld
    cases hheld
  · intro s e s' _ hA _ hstep
    exact hA.step hstep

/-! ## The quota at admission -/

/-- **The property**: when a job is committed, the storage is within the quota. -/
def KeepsQuota (limits : UploadLimits) (s : Storeroom ι) (e : StoreEvent ι) : Prop :=
  ∀ s', s.step limits e = some s' → e = .commit → s'.bytes ≤ limits.storageLimit

/-- **The condition**: what others have added since the request measured the storage, less what has been removed,
    fits beside the file into what the quota left. -/
def LeavesRoom (limits : UploadLimits) (s : Storeroom ι) (e : StoreEvent ι) : Prop :=
  ∀ l, s.intake.lease = some l → e = .commit →
    l.storage + s.own l l.written + s.grown ≤ limits.storageLimit + s.shrunk

theorem keepsQuota_iff {e : StoreEvent ι} (hA : Accounted s) (hstep : s.step limits e = some s') :
    KeepsQuota limits s e ↔ LeavesRoom limits s e := by
  by_cases he : e = .commit
  · subst he
    have hcommit := hstep
    simp only [Storeroom.step] at hcommit
    split at hcommit
    · cases hcommit
    next l hl =>
    simp only [Storeroom.leaseStep] at hcommit
    split at hcommit
    · next hok =>
        obtain ⟨k, hk, rfl⟩ := Option.map_eq_some_iff.mp hcommit
        obtain ⟨-, hset⟩ := Intake.lease_complete hl hk
        have hbytes : ({ s with intake := k } : Storeroom ι).bytes = s.bytes := by
          rw [bytes_eq, bytes_eq, show ({ s with intake := k } : Storeroom ι).settings = s.settings from hset]
        have hbal : s.Balanced l (s.own l l.written) := by
          cases hA l hl with
          | stored _ hbal => exact hbal
          | measured hst => cases hst.symm.trans hok.1
          | written hst => rcases hst with hst | hst <;> cases hst.symm.trans hok.1
        unfold Storeroom.Balanced at hbal
        constructor
        · intro hkeeps l' hl' _
          cases hl.symm.trans hl'
          have hle := hkeeps _ hstep rfl
          rw [hbytes] at hle
          omega
        · intro hroom s'' hstep' _
          cases hstep.symm.trans hstep'
          have hle := hroom l hl rfl
          rw [hbytes]
          omega
    · cases hcommit
  · exact ⟨fun _ _ _ hc => absurd hc he, fun _ _ _ hc => absurd hc he⟩

/-- **Storage quota at admission.** Over any interleaving of uploads with slicing workers that write outputs of any
    size, with maintenance and with every other step of the service: the storage is within the quota at every commit
    of an upload, exactly in the runs in which the others leave the room. -/
theorem storage_quota_at_admission {s₀ : Storeroom ι} (h : (storeroom ι limits).Reach always s₀)
    (es : List (StoreEvent ι)) (s : Storeroom ι) :
    (storeroom ι limits).Follows (KeepsQuota limits) s₀ es s ↔
      (storeroom ι limits).Follows (LeavesRoom limits) s₀ es s :=
  Machine.Follows.congr h fun _ _ _ hr hstep => keepsQuota_iff (accounted_of_reach hr) hstep

/-! ## The second look -/

/-- A request that has looked a second time has found its bytes within the quota, beside what it measured. -/
def Looked (limits : UploadLimits) (s : Storeroom ι) : Prop :=
  ∀ l, s.intake.lease = some l → s.stage = .checked ∨ s.stage = .stored →
    l.storage + l.written ≤ limits.storageLimit

omit [DecidableEq ι] in
theorem looked_of_free (hfree : s.intake.lease = none) : Looked limits s := by
  intro l hl
  cases hfree.symm.trans hl

omit [DecidableEq ι] in
/-- Before the second look there is nothing to show. -/
theorem looked_of_stage (hstage : s.stage = .measured ∨ s.stage = .streaming) : Looked limits s := by
  intro l _ hlater
  rcases hstage with h | h <;> rcases hlater with h' | h' <;> cases h.symm.trans h'

theorem Looked.leaseStep {e : StoreEvent ι} (hL : Looked limits s) (hl : s.intake.lease = some l)
    (hstep : s.leaseStep limits l e = some s') : Looked limits s' := by
  cases e with
  | openPart =>
      simp only [Storeroom.leaseStep] at hstep
      split at hstep <;> cases hstep
      exact looked_of_stage (.inr rfl)
  | chunk size =>
      simp only [Storeroom.leaseStep] at hstep
      split at hstep
      · next hstage =>
          split at hstep
          · exact looked_of_free (lease_of_discard hl hstep)
          · obtain ⟨k, -, rfl⟩ := Option.map_eq_some_iff.mp hstep
            exact looked_of_stage (.inr hstage)
      · cases hstep
  | check =>
      simp only [Storeroom.leaseStep] at hstep
      split at hstep
      · split at hstep
        · exact looked_of_free (lease_of_discard hl hstep)
        · next hfits =>
            cases hstep
            intro l' hl' _
            cases hl.symm.trans hl'
            exact Nat.not_lt.mp hfits
      · cases hstep
  | store =>
      simp only [Storeroom.leaseStep] at hstep
      split at hstep <;> cases hstep
      next hok => exact fun l' hl' _ => hL l' hl' (.inl hok.1)
  | commit => exact looked_of_free (lease_of_commit hl hstep)
  | abandon => exact looked_of_free (lease_of_discard hl hstep)
  | closeFails => exact looked_of_free (lease_of_closeFails hl hstep)
  | post | enter | leave | slice | unlink | other => cases hstep

theorem Looked.step {e : StoreEvent ι} (hL : Looked limits s) (hstep : s.step limits e = some s') :
    Looked limits s' := by
  cases e with
  | post i id form =>
      obtain ⟨k, hk, rfl⟩ := Option.map_eq_some_iff.mp hstep
      exact fun l hl => hL l (Intake.lease_post hk hl).1
  | enter i =>
      simp only [Storeroom.step] at hstep
      split at hstep
      · cases hstep
      · split at hstep
        · obtain ⟨k, -, rfl⟩ := Option.map_eq_some_iff.mp hstep
          exact looked_of_stage (.inl rfl)
        · cases hstep
  | leave i =>
      simp only [Storeroom.step] at hstep
      split at hstep
      · next hu =>
          obtain ⟨k, hk, rfl⟩ := Option.map_eq_some_iff.mp hstep
          exact fun l hl => hL l (Intake.lease_giveUp hu hk hl).1
      · cases hstep
  | slice | unlink =>
      cases hstep
      exact hL
  | other e =>
      obtain ⟨k, hk, rfl⟩ := Option.map_eq_some_iff.mp hstep
      exact fun l hl => hL l (Intake.lease_other hk hl).1
  | openPart | chunk | check | store | commit | abandon | closeFails =>
      simp only [Storeroom.step] at hstep
      split at hstep
      · cases hstep
      · next hl => exact hL.leaseStep hl hstep

theorem looked_of_reach (h : (storeroom ι limits).Reach always s) : Looked limits s := by
  apply h.invariant (I := Looked limits)
  · rintro s ⟨-, -, hlock, -⟩ l hl
    obtain ⟨hheld, -⟩ := Intake.lease_eq_some_iff.mp hl
    rw [hlock] at hheld
    cases hheld
  · intro s e s' _ hL _ hstep
    exact hL.step hstep

omit [DecidableEq ι] in
/-- In one of two different directories, a file counts once at most. -/
theorem own_le (hdirs : s.settings.uploadDir ≠ s.settings.slicedDir) (size : Nat) : s.own l size ≤ size := by
  unfold Storeroom.own counted
  split_ifs with hup hsliced
  · exact absurd (hup.symm.trans hsliced) hdirs
  all_goals omega

/-- **What the second look is worth**: an upload during which the others have added no more than was removed is
    committed within the quota. -/
theorem keepsQuota_of_quiet {e : StoreEvent ι} (h : (storeroom ι limits).Reach always s)
    (hdirs : s.settings.uploadDir ≠ s.settings.slicedDir) (hquiet : s.grown ≤ s.shrunk) :
    KeepsQuota limits s e := by
  rintro s' hstep rfl
  refine (keepsQuota_iff (accounted_of_reach h) hstep).mpr ?_ s' hstep rfl
  rintro l hl -
  have hstored : s.stage = .stored := by
    simp only [Storeroom.step, hl, Storeroom.leaseStep] at hstep
    split at hstep
    · next hok => exact hok.1
    · cases hstep
  have hlook := looked_of_reach h l hl (.inr hstored)
  have hown := own_le (l := l) hdirs l.written
  omega

/-! ## Runs -/

namespace Script

/-- A new installation. -/
def emptyRoom : Storeroom Unit where
  intake := ⟨Service.fresh p1sOnly 0, none, fun _ => none⟩
  files := ∅

theorem emptyRoom_reach (limits : UploadLimits) : (storeroom Unit limits).Reach always emptyRoom :=
  .init ⟨⟨p1sOnly, 0, Db.seeded, rfl⟩, Nat.zero_le _, rfl, fun _ => rfl⟩

/-- A model of 84 bytes is uploaded; `others` happens while it is streamed. -/
def uploadWhile (others : List (StoreEvent Unit)) : List (StoreEvent Unit) :=
  [.other (.boot p1sOnly), .other .reconcile,
    .post () "ab-12" ⟨"Ada", "ada@example.org", none, "part.stl"⟩, .enter (), .openPart, .chunk 84] ++
    others ++ [.check, .store]

/-- The condition, as a check. -/
def roomCheck (limits : UploadLimits) (s : Storeroom Unit) (e : StoreEvent Unit) : Bool :=
  s.intake.lease.all fun l => match e with
    | .commit => l.storage + s.own l l.written + s.grown ≤ limits.storageLimit + s.shrunk
    | _ => true

theorem leavesRoom_of_check (limits : UploadLimits) (s : Storeroom Unit) (e : StoreEvent Unit)
    (h : roomCheck limits s e = true) : LeavesRoom limits s e := by
  rintro l hl rfl
  unfold roomCheck at h
  rw [hl] at h
  exact of_decide_eq_true h

end Script

/-- With a quota of 1 MB and nothing but the upload going on, the job is committed within the quota. -/
theorem storage_quota_undisturbed : ∃ s, s.intake.service.db.statusOf "ab-12" = some .pending ∧
    (storeroom Unit ⟨10, 1, 1⟩).Follows (KeepsQuota ⟨10, 1, 1⟩) Script.emptyRoom
      (Script.uploadWhile [] ++ [.commit]) s := by
  have hrun : ((storeroom Unit ⟨10, 1, 1⟩).run (Script.roomCheck ⟨10, 1, 1⟩) Script.emptyRoom
      (Script.uploadWhile [] ++ [.commit])).any
      (fun s => s.intake.service.db.statusOf "ab-12" = some .pending) = true := by decide +kernel
  obtain ⟨s, hs, hpending⟩ := Option.any_eq_true _ _ |>.mp hrun
  refine ⟨s, of_decide_eq_true hpending, ?_⟩
  exact (storage_quota_at_admission (Script.emptyRoom_reach _) _ s).mpr
    (Machine.follows_of_run (Script.leavesRoom_of_check _) hs)

/-- **A slice of 1 MB that is written during the upload** is not seen, and the commit exceeds the quota. -/
theorem slice_during_upload : ¬ ∀ (s₀ : Storeroom Unit) es s, (storeroom Unit ⟨10, 1, 1⟩).Reach always s₀ →
    (storeroom Unit ⟨10, 1, 1⟩).Follows always s₀ es s →
    (storeroom Unit ⟨10, 1, 1⟩).Follows (KeepsQuota ⟨10, 1, 1⟩) s₀ es s := by
  intro hclaim
  have hrun : ((storeroom Unit ⟨10, 1, 1⟩).run Machine.anyStep Script.emptyRoom
      (Script.uploadWhile [.slice "data/uploads/cd-34.stl" .p1s (1024 * 1024)])).any
      (fun s => (s.step ⟨10, 1, 1⟩ .commit).any fun s' =>
        s'.intake.service.db.statusOf "ab-12" = some .pending && 1024 * 1024 < s'.bytes) = true := by decide +kernel
  obtain ⟨s, hs, hcommit⟩ := Option.any_eq_true _ _ |>.mp hrun
  obtain ⟨s', hs', hover⟩ := Option.any_eq_true _ _ |>.mp hcommit
  obtain ⟨-, hover⟩ := Bool.and_eq_true_iff.mp hover
  have hstep : (storeroom Unit ⟨10, 1, 1⟩).step s .commit = some s' := hs'
  have hbefore := Machine.follows_of_run Machine.always_of_anyStep hs
  obtain ⟨s₁, hpre, hkeeps, -⟩ := (hclaim _ _ _ (Script.emptyRoom_reach _) (hbefore.snoc trivial hstep)).last
  cases hpre.det hbefore
  have hle : s'.bytes ≤ 1024 * 1024 := hkeeps s' hs' rfl
  exact absurd (of_decide_eq_true hover) (Nat.not_lt.mpr hle)

end BambuBabu
