import Mathlib.Data.List.Nodup

/-!
# `Storage.Table` — rows under a primary key

A table is the list of its rows in insertion order, each under its key, and no key occurs twice: the
constraint is a field, so a table with two rows of one key cannot be built. The operations are the ones SQL
has: look a row up, change the row of a key in place, append a row under a new key, list the rows.
-/

namespace Storage

/-- Rows of type `ρ` in insertion order, each under its own key. -/
structure Table (κ ρ : Type) where
  rows : List (κ × ρ)
  nodup : (rows.map Prod.fst).Nodup

namespace Table

variable {κ ρ : Type} [DecidableEq κ]

/-- The empty table. -/
def empty : Table κ ρ := ⟨[], List.nodup_nil⟩

/-- The row under `k`. -/
def get (t : Table κ ρ) (k : κ) : Option ρ := t.rows.lookup k

/-- Change the row under `k` in place (no row is touched when there is none). -/
def modify (t : Table κ ρ) (k : κ) (f : ρ → ρ) : Table κ ρ where
  rows := t.rows.map fun kr => if kr.1 = k then (kr.1, f kr.2) else kr
  nodup := by
    have hkeys : (t.rows.map fun kr => if kr.1 = k then (kr.1, f kr.2) else kr).map Prod.fst
        = t.rows.map Prod.fst := by
      rw [List.map_map]
      apply List.map_congr_left
      intro kr _
      by_cases hk : kr.1 = k <;> simp [hk]
    rw [hkeys]
    exact t.nodup

/-- Append a row under a new key; an existing key keeps its row. -/
def insertNew (t : Table κ ρ) (k : κ) (r : ρ) : Table κ ρ :=
  if h : k ∈ t.rows.map Prod.fst then t
  else
    { rows := t.rows ++ [(k, r)]
      nodup := by
        rw [List.map_append, List.nodup_append]
        refine ⟨t.nodup, by simp, ?_⟩
        intro a ha b hb hab
        simp only [List.map_cons, List.map_nil, List.mem_singleton] at hb
        exact h (hb ▸ hab ▸ ha) }

/-! ## Looking rows up -/

theorem lookup_eq_some_iff {l : List (κ × ρ)} (hl : (l.map Prod.fst).Nodup) {k : κ} {r : ρ} :
    l.lookup k = some r ↔ (k, r) ∈ l := by
  induction l with
  | nil => simp
  | cons kr l ih =>
      obtain ⟨k', r'⟩ := kr
      simp only [List.map_cons, List.nodup_cons] at hl
      by_cases hk : k = k'
      · subst hk
        have hnot : (k, r) ∉ l := fun hm => hl.1 (List.mem_map_of_mem (f := Prod.fst) hm)
        simp [hnot, eq_comm]
      · have hb : (k == k') = false := by simpa using hk
        rw [List.lookup_cons, hb, ih hl.2]
        simp [hk]

/-- **A row is listed exactly under its key.** -/
theorem mem_rows_iff {t : Table κ ρ} {k : κ} {r : ρ} : (k, r) ∈ t.rows ↔ t.get k = some r :=
  (lookup_eq_some_iff t.nodup).symm

@[simp] theorem get_empty (k : κ) : (empty : Table κ ρ).get k = none := rfl

theorem lookup_map_ite (l : List (κ × ρ)) (k k' : κ) (f : ρ → ρ) :
    (l.map fun kr => if kr.1 = k then (kr.1, f kr.2) else kr).lookup k'
      = if k' = k then (l.lookup k').map f else l.lookup k' := by
  induction l with
  | nil => simp
  | cons kr l ih =>
      obtain ⟨a, r⟩ := kr
      by_cases hk : k' = a
      · subst hk
        by_cases ha : k' = k <;> simp [ha]
      · have hb : (k' == a) = false := by simpa using hk
        by_cases ha : a = k
        · subst ha
          simpa [List.lookup_cons, hb, hk] using ih
        · simpa [List.lookup_cons, hb, ha] using ih

/-- **A change in place is seen under its key and nowhere else.** -/
@[simp] theorem get_modify (t : Table κ ρ) (k k' : κ) (f : ρ → ρ) :
    (t.modify k f).get k' = if k' = k then (t.get k').map f else t.get k' :=
  lookup_map_ite t.rows k k' f

theorem insertNew_of_none {t : Table κ ρ} {k : κ} (h : t.get k = none) (r : ρ) :
    (t.insertNew k r).rows = t.rows ++ [(k, r)] := by
  have hk : k ∉ t.rows.map Prod.fst := by
    intro hm
    obtain ⟨⟨k', r'⟩, hmem, rfl⟩ := List.mem_map.mp hm
    rw [mem_rows_iff.mp hmem] at h
    cases h
  rw [insertNew, dif_neg hk]

/-- **An appended row is found under its key**, and the other rows stay. -/
theorem get_insertNew {t : Table κ ρ} {k : κ} (h : t.get k = none) (r : ρ) (k' : κ) :
    (t.insertNew k r).get k' = if k' = k then some r else t.get k' := by
  have hrows : (t.insertNew k r).get k' = (t.rows ++ [(k, r)]).lookup k' := by
    rw [get, insertNew_of_none h]
  rw [hrows]
  by_cases hk : k' = k
  · subst hk
    have hnone : t.rows.lookup k' = none := h
    simp [List.lookup_append, hnone]
  · have hb : (k' == k) = false := by simpa using hk
    simp [List.lookup_append, List.lookup_cons, hb, hk, get]

/-- Two changes of one row that agree on the row it holds are the same change. -/
theorem modify_congr {t : Table κ ρ} {k : κ} {r : ρ} {f g : ρ → ρ} (h : t.get k = some r)
    (hfg : f r = g r) : t.modify k f = t.modify k g := by
  have hrows : (t.modify k f).rows = (t.modify k g).rows := by
    apply List.map_congr_left
    intro kr hkr
    by_cases hk : kr.1 = k
    · have hr : t.get kr.1 = some kr.2 := mem_rows_iff.mp hkr
      rw [hk, h] at hr
      simp only [hk, if_true]
      rw [← Option.some.inj hr, hfg]
    · simp [hk]
  cases hf : t.modify k f
  cases hg : t.modify k g
  rw [hf, hg] at hrows
  congr

/-- A change that keeps the row it meets changes nothing. -/
theorem modify_eq_self {t : Table κ ρ} {k : κ} {f : ρ → ρ} (h : ∀ r, t.get k = some r → f r = r) :
    t.modify k f = t := by
  have hrows : (t.modify k f).rows = t.rows := by
    have hid : ∀ kr ∈ t.rows, (if kr.1 = k then (kr.1, f kr.2) else kr) = kr := by
      intro kr hkr
      by_cases hk : kr.1 = k
      · have hr : t.get kr.1 = some kr.2 := mem_rows_iff.mp hkr
        rw [if_pos hk, h kr.2 (hk ▸ hr)]
      · rw [if_neg hk]
    exact (List.map_congr_left hid).trans (List.map_id _)
  cases hf : t.modify k f
  rw [hf] at hrows
  subst hrows
  rfl

/-- Two changes of one row in a row are one change. -/
theorem modify_modify (t : Table κ ρ) (k : κ) (f g : ρ → ρ) :
    (t.modify k f).modify k g = t.modify k (g ∘ f) := by
  have hrows : ((t.modify k f).modify k g).rows = (t.modify k (g ∘ f)).rows := by
    simp only [modify, List.map_map]
    apply List.map_congr_left
    intro kr _
    by_cases hk : kr.1 = k <;> simp [hk]
  cases hf : (t.modify k f).modify k g
  rw [hf] at hrows
  subst hrows
  rfl

end Table

/-! ## Lists of keyed entries

Lists that are changed by position, with one entry at most under a key: what a lookup finds afterwards. -/

section entries

variable {κ ρ : Type} [DecidableEq κ] {l : List (κ × ρ)} {k : κ} {r : ρ} {n : Nat}

theorem mem_keys_iff : k ∈ l.map Prod.fst ↔ (l.lookup k).isSome = true := by
  induction l with
  | nil => simp
  | cons kr l ih =>
      obtain ⟨a, x⟩ := kr
      by_cases hk : k = a
      · subst hk
        simp
      · have hb : (k == a) = false := by simpa using hk
        rw [List.map_cons, List.mem_cons, ih, List.lookup_cons, hb]
        simp [hk]

/-- An entry under a new key is added at the end. -/
theorem lookup_append_new (h : l.lookup k = none) (r : ρ) :
    (fun x => (l ++ [(k, r)]).lookup x) = Function.update (fun x => l.lookup x) k (some r) := by
  funext x
  rw [List.lookup_append]
  by_cases hx : x = k
  · subst hx
    simp [h]
  · have hb : (x == k) = false := by simpa using hx
    simp [List.lookup_cons, hb, hx]

/-- The key of an entry occurs neither before nor after it. -/
theorem lookup_around (hl : (l.map Prod.fst).Nodup) (h : l[n]? = some (k, r)) :
    l = l.take n ++ (k, r) :: l.drop (n + 1) ∧ (l.take n).lookup k = none ∧ (l.drop (n + 1)).lookup k = none := by
  obtain ⟨hn, hget⟩ := List.getElem?_eq_some_iff.mp h
  have hsplit : l = l.take n ++ (k, r) :: l.drop (n + 1) := by
    rw [← hget, ← List.drop_eq_getElem_cons hn, List.take_append_drop]
  refine ⟨hsplit, ?_⟩
  rw [hsplit, List.map_append, List.map_cons, List.nodup_append, List.nodup_cons] at hl
  obtain ⟨-, ⟨hafter, -⟩, hbefore⟩ := hl
  constructor
  · by_contra hmem
    exact hbefore k (mem_keys_iff.mpr (Option.isSome_iff_ne_none.mpr hmem)) k List.mem_cons_self rfl
  · by_contra hmem
    exact hafter (mem_keys_iff.mpr (Option.isSome_iff_ne_none.mpr hmem))

/-- The entry at a position is the one that a lookup finds. -/
theorem lookup_getElem (hl : (l.map Prod.fst).Nodup) (h : l[n]? = some (k, r)) : l.lookup k = some r := by
  obtain ⟨hsplit, hbefore, -⟩ := lookup_around hl h
  rw [hsplit, List.lookup_append, hbefore]
  simp

/-- The entry at a position is replaced. -/
theorem lookup_set (hl : (l.map Prod.fst).Nodup) (h : l[n]? = some (k, r)) (r' : ρ) :
    (fun x => (l.set n (k, r')).lookup x) = Function.update (fun x => l.lookup x) k (some r') := by
  obtain ⟨hsplit, hbefore, -⟩ := lookup_around hl h
  funext x
  rw [List.set_eq_take_append_cons_drop, if_pos (List.getElem?_eq_some_iff.mp h).1, List.lookup_append]
  by_cases hx : x = k
  · subst hx
    simp [hbefore]
  · have hb : (x == k) = false := by simpa using hx
    rw [Function.update_of_ne hx]
    conv_rhs => rw [hsplit, List.lookup_append]
    simp [List.lookup_cons, hb]

/-- The entry at a position is taken out. -/
theorem lookup_eraseIdx (hl : (l.map Prod.fst).Nodup) (h : l[n]? = some (k, r)) :
    (fun x => (l.eraseIdx n).lookup x) = Function.update (fun x => l.lookup x) k none := by
  obtain ⟨hsplit, hbefore, hafter⟩ := lookup_around hl h
  funext x
  rw [List.eraseIdx_eq_take_drop_succ, List.lookup_append]
  by_cases hx : x = k
  · subst hx
    simp [hbefore, hafter]
  · have hb : (x == k) = false := by simpa using hx
    rw [Function.update_of_ne hx]
    conv_rhs => rw [hsplit, List.lookup_append]
    simp [List.lookup_cons, hb]

end entries

end Storage
