import Mathlib.Data.List.Sort

/-!
# `Storage.Rotation` — keeping the largest `k` of a collection

A collection without repetitions over a linear order is listed in descending order and cut after the first `k`. An
element stays or goes by the number of larger ones (`mem_take_descending`, `mem_drop_descending`), whatever the order
in which the collection was listed.
-/

namespace Storage

variable {α : Type} [LinearOrder α] {xs : List α} {x y : α} {k : Nat}

/-- The collection in descending order. -/
def descending (xs : List α) : List α := xs.insertionSort (· ≥ ·)

theorem descending_perm (xs : List α) : (descending xs).Perm xs := List.perm_insertionSort _ xs

theorem length_descending (xs : List α) : (descending xs).length = xs.length := (descending_perm xs).length_eq

theorem pairwise_descending (h : xs.Nodup) : (descending xs).Pairwise (· > ·) := by
  have hge : (descending xs).Pairwise (· ≥ ·) := List.pairwise_insertionSort _ xs
  have hne : (descending xs).Pairwise (· ≠ ·) := (descending_perm xs).nodup_iff.mpr h
  exact (hge.and hne).imp fun ⟨hle, hxy⟩ => lt_of_le_of_ne hle hxy.symm

/-- Of a descending list the first `k` are those with fewer than `k` larger ones. -/
theorem mem_take_of_pairwise : ∀ {xs : List α} {k : Nat}, xs.Pairwise (· > ·) →
    (x ∈ xs.take k ↔ x ∈ xs ∧ xs.countP (x < ·) < k)
  | [], k, _ => by simp
  | y :: ys, 0, _ => by simp
  | y :: ys, k + 1, h => by
      obtain ⟨hy, hys⟩ := List.pairwise_cons.mp h
      rw [List.take_succ_cons, List.mem_cons, List.mem_cons, List.countP_cons, mem_take_of_pairwise hys]
      constructor
      · rintro (rfl | ⟨hmem, hcount⟩)
        · -- nothing further down is larger than the first one
          have hzero : ys.countP (x < ·) = 0 := by
            refine List.countP_eq_zero.mpr fun z hz => ?_
            rw [decide_eq_true_iff]
            exact (hy z hz).not_gt
          exact ⟨.inl rfl, by simp [hzero]⟩
        · refine ⟨.inr hmem, ?_⟩
          split_ifs <;> omega
      · rintro ⟨rfl | hmem, hcount⟩
        · exact .inl rfl
        · have hlarger : decide (x < y) = true := decide_eq_true (hy x hmem)
          rw [if_pos hlarger] at hcount
          exact .inr ⟨hmem, by omega⟩

/-- **What is kept.** -/
theorem mem_take_descending (h : xs.Nodup) : x ∈ (descending xs).take k ↔ x ∈ xs ∧ xs.countP (x < ·) < k := by
  rw [mem_take_of_pairwise (pairwise_descending h), (descending_perm xs).mem_iff, (descending_perm xs).countP_eq]

/-- **What goes.** -/
theorem mem_drop_descending (h : xs.Nodup) : x ∈ (descending xs).drop k ↔ x ∈ xs ∧ k ≤ xs.countP (x < ·) := by
  have hnodup : ((descending xs).take k ++ (descending xs).drop k).Nodup := by
    rw [List.take_append_drop]
    exact (descending_perm xs).nodup_iff.mpr h
  have hsplit : x ∈ xs ↔ x ∈ (descending xs).take k ∨ x ∈ (descending xs).drop k := by
    rw [← List.mem_append, List.take_append_drop, (descending_perm xs).mem_iff]
  constructor
  · intro hgone
    have hmem : x ∈ xs := hsplit.mpr (.inr hgone)
    refine ⟨hmem, Nat.not_lt.mp fun hcount => ?_⟩
    exact List.disjoint_of_nodup_append hnodup ((mem_take_descending h).mpr ⟨hmem, hcount⟩) hgone
  · rintro ⟨hmem, hcount⟩
    refine (hsplit.mp hmem).resolve_left fun hkept => ?_
    exact Nat.not_lt.mpr hcount ((mem_take_descending h).mp hkept).2

/-- A larger one is kept before a smaller one. -/
theorem countP_le_of_lt (h : x < y) : xs.countP (y < ·) ≤ xs.countP (x < ·) :=
  List.countP_mono_left fun _ _ hz => decide_eq_true (h.trans (of_decide_eq_true hz))

end Storage
