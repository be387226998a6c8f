import Mathlib.Data.List.Sort
import BambuBabu.Storage.Table
import BambuBabu.Storage.Txn

/-!
# `Storage.Image` — transactions under a map of databases

A map `h` of databases forgets something. A program that never looks at what is forgotten does the same on the image
of a database as on the database itself: it ends with the image of its result, and leaves the image of what it leaves.

* `Txn.Maps h φ t t'` — `t'` does on the image what `t` does, up to the map `φ` of results;
* `Txn.Maps.bind` and the other rules, one for each construct of a program;
* `Table.map` — a table with every row mapped, and what the operations of a table make of it.
-/

namespace Storage

/-! ## Programs -/

namespace Txn

variable {δ δ' ε α α' β β' : Type}

/-- On the image of a database `t'` does what `t` does on the database. -/
def Maps (h : δ → δ') (φ : α → α') (t : Txn δ ε α) (t' : Txn δ' ε α') : Prop :=
  ∀ d, t'.run (h d) = ((t.run d).1.map φ, h (t.run d).2)

namespace Maps

variable {h : δ → δ'} {φ : α → α'} {ψ : β → β'} {t : Txn δ ε α} {t' : Txn δ' ε α'}
  {f : α → Txn δ ε β} {f' : α' → Txn δ' ε β'}

theorem pure {a : α} {a' : α'} (ha : a' = φ a) : Maps h φ (pure a : Txn δ ε α) (Pure.pure a') := by
  intro d
  rw [ha]
  rfl

theorem throw {e : ε} : Maps h φ (throw e : Txn δ ε α) (throw e) := fun _ => rfl

/-- A query that does not look at what is forgotten. -/
theorem select {q : δ → α} {q' : δ' → α'} (hq : ∀ d, q' (h d) = φ (q d)) :
    Maps h φ (Txn.select q : Txn δ ε α) (Txn.select q') := by
  intro d
  rw [run_select, run_select, hq]
  rfl

/-- A write, with its row count. -/
theorem exec {w : δ → δ} {w' : δ' → δ'} {r : δ → α} {r' : δ' → α'} (hw : ∀ d, w' (h d) = h (w d))
    (hr : ∀ d, r' (h d) = φ (r d)) : Maps h φ (Txn.exec w r : Txn δ ε α) (Txn.exec w' r') := by
  intro d
  rw [run_exec, run_exec, hw, hr]
  rfl

/-- **Sequencing.** The rest of the program starts from the image of what the first part returned. -/
theorem bind (ht : Maps h φ t t') (hf : ∀ a, Maps h ψ (f a) (f' (φ a))) : Maps h ψ (t >>= f) (t' >>= f') := by
  intro d
  rw [run_bind, run_bind, ht d]
  rcases t.run d with ⟨e | a, d₁⟩
  · rfl
  · exact hf a d₁

/-- Exceptions are the same on both sides. -/
theorem tryCatch {k : ε → Txn δ ε α} {k' : ε → Txn δ' ε α'} (ht : Maps h φ t t') (hk : ∀ e, Maps h φ (k e) (k' e)) :
    Maps h φ (MonadExcept.tryCatch t k) (MonadExcept.tryCatch t' k') := by
  intro d
  rw [run_tryCatch, run_tryCatch, ht d]
  rcases t.run d with ⟨e | a, d₁⟩
  · exact hk e d₁
  · rfl

/-- A branch on something that is not forgotten. -/
theorem ite {c c' : Prop} [Decidable c] [Decidable c'] {u : Txn δ ε α} {u' : Txn δ' ε α'} (hc : c' ↔ c)
    (ht : c → Maps h φ t t') (hu : ¬ c → Maps h φ u u') : Maps h φ (if c then t else u) (if c' then t' else u') := by
  by_cases hcond : c
  · rw [if_pos hcond, if_pos (hc.mpr hcond)]
    exact ht hcond
  · rw [if_neg hcond, if_neg (mt hc.mp hcond)]
    exact hu hcond

/-- A loop over the images of the items. -/
theorem forM {g : α → Txn δ ε PUnit} {g' : α' → Txn δ' ε PUnit} (hg : ∀ a, Maps h id (g a) (g' (φ a))) :
    ∀ xs : List α, Maps h id (xs.forM g) ((xs.map φ).forM g')
  | [] => pure rfl
  | x :: xs => bind (hg x) fun _ => forM hg xs

theorem void (ht : Maps h φ t t') : Maps h id t.void t'.void := ht.bind fun _ => pure rfl

/-- **A commit stores the image of what is stored.** -/
theorem commit (ht : Maps h φ t t') (d : δ) : t'.commit (h d) = ((t.commit d).1.map φ, h (t.commit d).2) := by
  unfold Txn.commit
  rw [ht d]
  rcases t.run d with ⟨e | a, d₁⟩ <;> rfl

end Maps

end Txn

/-! ## Tables -/

namespace Table

variable {κ ρ σ : Type}

/-- Every row mapped, under the same keys. -/
def map (f : ρ → σ) (t : Table κ ρ) : Table κ σ where
  rows := t.rows.map fun row => (row.1, f row.2)
  nodup := by
    rw [List.map_map]
    exact t.nodup

variable {t : Table κ ρ} {f : ρ → σ}

theorem map_fst_rows (f : ρ → σ) (t : Table κ ρ) : (t.map f).rows.map Prod.fst = t.rows.map Prod.fst := by
  unfold map
  rw [List.map_map]
  rfl

/-- A query for sorted rows, by a condition and an order that the map preserves. -/
theorem map_sorted {p : ρ → Bool} {p' : σ → Bool} {le : κ × ρ → κ × ρ → Bool} {le' : κ × σ → κ × σ → Bool}
    (hp : ∀ r, p' (f r) = p r) (hle : ∀ a b : κ × ρ, le' (a.1, f a.2) (b.1, f b.2) = le a b) :
    ((t.map f).rows.filter fun row => p' row.2).insertionSort (fun a b => le' a b = true)
      = ((t.rows.filter fun row => p row.2).insertionSort (fun a b => le a b = true)).map fun row => (row.1, f row.2) := by
  have hfilter : (t.map f).rows.filter (fun row => p' row.2)
      = (t.rows.filter fun row => p row.2).map fun row => (row.1, f row.2) := by
    unfold map
    rw [List.filter_map]
    congr 1
    exact List.filter_congr fun row _ => hp row.2
  rw [hfilter]
  refine (List.map_insertionSort (fun a b => le a b = true) _ _ _ fun a _ b _ => ?_).symm
  rw [hle]

variable [DecidableEq κ]

theorem get_map (f : ρ → σ) (t : Table κ ρ) (k : κ) : (t.map f).get k = (t.get k).map f := by
  have hrows : ∀ rows : List (κ × ρ), (rows.map fun row => (row.1, f row.2)).lookup k = (rows.lookup k).map f := by
    intro rows
    induction rows with
    | nil => rfl
    | cons row rows ih =>
        rw [List.map_cons, List.lookup_cons, List.lookup_cons, ih]
        cases k == row.1 <;> rfl
  exact hrows t.rows

theorem map_modify {g : ρ → ρ} {g' : σ → σ} (hg : ∀ r, g' (f r) = f (g r)) (t : Table κ ρ) (k : κ) :
    (t.map f).modify k g' = (t.modify k g).map f := by
  unfold modify map
  congr 1
  rw [List.map_map, List.map_map]
  apply List.map_congr_left
  intro row _
  by_cases hk : row.1 = k
  · simp [hk, hg]
  · simp [hk]

theorem map_insertNew (f : ρ → σ) (t : Table κ ρ) (k : κ) (r : ρ) :
    (t.map f).insertNew k (f r) = (t.insertNew k r).map f := by
  unfold insertNew
  by_cases hk : k ∈ t.rows.map Prod.fst
  · rw [dif_pos hk, dif_pos ((map_fst_rows f t).symm ▸ hk)]
  · rw [dif_neg hk, dif_neg (by rw [map_fst_rows]; exact hk)]
    unfold map
    congr 1
    rw [List.map_append]
    rfl

end Table

end Storage
