import Mathlib.Algebra.BigOperators.Group.List.Basic
import Mathlib.Algebra.GroupWithZero.Nat
import Mathlib.Data.List.AList

/-!
# `Storage.Files` — a directory tree as a finite map

Files of type `φ` under paths of type `κ`, at most one under a path. Creating, overwriting and deleting a file are
the operations of Mathlib's `AList`; added here are the atomic rename and the total of a measure over all files,
with what every operation makes of that total.
-/

namespace Storage

/-- The files by their path. -/
abbrev Files (κ φ : Type) := AList fun _ : κ => φ

namespace Files

variable {κ φ : Type} [DecidableEq κ]

/-- `os.replace(src, dst)` on a file that is there. -/
def rename (t : Files κ φ) (src dst : κ) : Files κ φ :=
  match t.lookup src with
  | none => t
  | some f => (t.erase src).insert dst f

/-- Delete the files at these paths. -/
def eraseAll (t : Files κ φ) (ks : List κ) : Files κ φ := ks.foldl (fun t k => t.erase k) t

/-- The sum of a measure over all files. -/
def total (m : κ → φ → Nat) (t : Files κ φ) : Nat := (t.entries.map fun e => m e.1 e.2).sum

/-- What the file at `k` adds to the sum. -/
def weight (m : κ → φ → Nat) (t : Files κ φ) (k : κ) : Nat := (t.lookup k).elim 0 (m k)

variable {t : Files κ φ} {k k' src dst : κ} {f : φ} {m : κ → φ → Nat}

theorem rename_of_some (h : t.lookup src = some f) : t.rename src dst = (t.erase src).insert dst f := by
  unfold rename
  rw [h]

/-- After a rename the file is under its new name only, and no other file has changed. -/
theorem lookup_rename (h : t.lookup src = some f) (hne : src ≠ dst) :
    (t.rename src dst).lookup k = if k = dst then some f else if k = src then none else t.lookup k := by
  rw [rename_of_some h]
  by_cases hd : k = dst
  · subst hd
    rw [if_pos rfl, AList.lookup_insert]
  · rw [if_neg hd, AList.lookup_insert_ne hd]
    by_cases hs : k = src
    · subst hs
      rw [if_pos rfl, AList.lookup_erase]
    · rw [if_neg hs, AList.lookup_erase_ne hs]

/-- **What is left** after a deletion. -/
theorem mem_eraseAll : ∀ {t : Files κ φ} {ks : List κ}, k ∈ t.eraseAll ks ↔ k ∈ t ∧ k ∉ ks
  | t, [] => by
      show k ∈ t ↔ _
      simp
  | t, k' :: ks => by
      have hrest : k ∈ eraseAll (t.erase k') ks ↔ k ∈ t.erase k' ∧ k ∉ ks := mem_eraseAll
      show k ∈ eraseAll (t.erase k') ks ↔ _
      rw [hrest, AList.mem_erase, List.mem_cons, not_or, and_assoc, and_left_comm]

/-- A deletion leaves the other files as they were. -/
theorem lookup_eraseAll : ∀ {t : Files κ φ} {ks : List κ}, k ∉ ks → (t.eraseAll ks).lookup k = t.lookup k
  | t, [], _ => rfl
  | t, k' :: ks, hk => by
      obtain ⟨hne, hrest⟩ := not_or.mp fun h => hk (List.mem_cons.mpr h)
      show (eraseAll (t.erase k') ks).lookup k = _
      rw [lookup_eraseAll hrest, AList.lookup_erase_ne hne]

theorem weight_eq (h : t.lookup k = some f) : weight m t k = m k f := by rw [weight, h, Option.elim_some]

theorem weight_none (h : t.lookup k = none) : weight m t k = 0 := by rw [weight, h, Option.elim_none]

/-! ## Totals -/

omit [DecidableEq κ] in
theorem total_add (m m' : κ → φ → Nat) (t : Files κ φ) :
    total (fun k f => m k f + m' k f) t = total m t + total m' t := List.sum_map_add

/-- **Deleting a file** takes its own weight off the total. -/
theorem total_erase (m : κ → φ → Nat) (t : Files κ φ) (k : κ) : total m t = weight m t k + total m (t.erase k) := by
  by_cases hk : k ∈ t.entries.keys
  · obtain ⟨f, before, after, -, hsplit, hrest⟩ := List.exists_of_kerase hk
    have hf : t.lookup k = some f := by
      apply AList.mem_lookup_iff.mpr
      rw [hsplit]
      exact List.mem_append_right _ List.mem_cons_self
    have herase : (t.erase k).entries = before ++ after := hrest
    rw [weight_eq hf, total, total, hsplit, herase]
    simp only [List.map_append, List.map_cons, List.sum_append, List.sum_cons]
    omega
  · have hnone : t.lookup k = none := AList.lookup_eq_none.mpr hk
    have herase : (t.erase k).entries = t.entries := List.kerase_of_notMem_keys hk
    rw [weight_none hnone, total, total, herase, Nat.zero_add]

/-- **Writing a file** replaces the weight of what was there by its own. -/
theorem total_insert (m : κ → φ → Nat) (t : Files κ φ) (k : κ) (f : φ) :
    total m (t.insert k f) + weight m t k = total m t + m k f := by
  have hnew : total m (t.insert k f) = m k f + total m (t.erase k) := by
    rw [total, AList.entries_insert, List.map_cons, List.sum_cons]
    rfl
  rw [hnew, total_erase m t k]
  omega

/-- **A rename** to a free name moves the weight. -/
theorem total_rename (h : t.lookup src = some f) (hfree : t.lookup dst = none) (hsame : m src f = m dst f) :
    total m (t.rename src dst) = total m t := by
  have hdst : weight m (t.erase src) dst = 0 := by
    by_cases hd : dst = src
    · subst hd
      exact weight_none (AList.lookup_erase dst t)
    · exact weight_none ((AList.lookup_erase_ne hd).trans hfree)
  have hins := total_insert m (t.erase src) dst f
  have hsrc := total_erase m t src
  rw [weight_eq h] at hsrc
  rw [rename_of_some h]
  omega

end Files

end Storage
