import Mathlib.Data.List.Basic
import Mathlib.Data.List.TakeDrop

/-!
# `Text.Regex` — the patterns of a backtracking matcher

Over any characters. `Regex.run` lists the ways in which a pattern matches at the head of a text, in the order in
which a backtracking matcher tries them: a greedy repetition takes its longest run first, a lazy one its shortest.
`Regex.search` takes the first way at the leftmost place that has one.

Most patterns leave a matcher little choice. A greedy run that is followed by something no further item of the run
can start comes to taking the longest run (`run_greedy_seq`, `run_number_seq`); a lazy one that is followed by
something only a `q` can start comes to skipping to the next `q` (`head_lazy_seq`, `run_lazy_seq_nil`).
-/

namespace Text

variable {α β : Type}

inductive Regex (α : Type) where
  | eps
  /-- One character of a class. -/
  | one (p : α → Bool)
  | seq (a b : Regex α)
  /-- The first of two, or else the second. -/
  | alt (a b : Regex α)
  /-- Any number of characters of a class. -/
  | many (greedy : Bool) (p : α → Bool)
  /-- What the pattern matched is kept. -/
  | group (a : Regex α)

/-- What follows the runs of `p` at the head of a text, behind the shortest run first. -/
def rests (p : α → Bool) : List α → List (List α)
  | [] => [[]]
  | x :: xs => (x :: xs) :: if p x then rests p xs else []

namespace Regex

/-- The ways to match at the head of a text: what the groups kept, and what follows the match. -/
def run : Regex α → List α → List (List (List α) × List α)
  | eps, xs => [([], xs)]
  | one _, [] => []
  | one p, x :: xs => if p x then [([], xs)] else []
  | seq a b, xs => (a.run xs).flatMap fun m => (b.run m.2).map fun n => (m.1 ++ n.1, n.2)
  | alt a b, xs => a.run xs ++ b.run xs
  | many true p, xs => (rests p xs).reverse.map fun r => ([], r)
  | many false p, xs => (rests p xs).map fun r => ([], r)
  | group a, xs => (a.run xs).map fun m => (xs.take (xs.length - m.2.length) :: m.1, m.2)

/-- What the groups of the first way at the head kept. -/
def found (r : Regex α) (xs : List α) : Option (List (List α)) := (r.run xs).head?.map Prod.fst

/-- What the groups of the leftmost match kept. -/
def search (r : Regex α) : List α → Option (List (List α))
  | [] => r.found []
  | x :: xs => (r.found (x :: xs)).or (r.search xs)

/-- One character or more of a class. -/
def plus (p : α → Bool) : Regex α := seq (one p) (many true p)

/-- One character of each class, in their order. -/
def lits : List (α → Bool) → Regex α
  | [] => eps
  | p :: ps => seq (one p) (lits ps)

/-- Something or nothing. -/
def opt (a : Regex α) : Regex α := alt a eps

/-- The characters of a text, each in its class. -/
abbrev Fits (ps : List (α → Bool)) (xs : List α) : Prop := List.Forall₂ (fun p x => p x = true) ps xs

variable {p q : α → Bool} {ps : List (α → Bool)} {k r : Regex α} {x : α} {xs ys as : List α}
  {m : List (List α) × List α}

/-! ## One construct at a time -/

theorem run_eps (xs : List α) : (eps : Regex α).run xs = [([], xs)] := rfl

theorem run_one_nil (p : α → Bool) : (one p).run [] = [] := rfl

theorem run_one_cons (p : α → Bool) (x : α) (xs : List α) :
    (one p).run (x :: xs) = if p x then [([], xs)] else [] := rfl

theorem run_seq (a b : Regex α) (xs : List α) :
    (a.seq b).run xs = (a.run xs).flatMap fun m => (b.run m.2).map fun n => (m.1 ++ n.1, n.2) := rfl

theorem run_greedy (p : α → Bool) (xs : List α) :
    (many true p).run xs = (rests p xs).reverse.map fun r => ([], r) := rfl

theorem run_lazy (p : α → Bool) (xs : List α) : (many false p).run xs = (rests p xs).map fun r => ([], r) := rfl

theorem run_group (a : Regex α) (xs : List α) :
    a.group.run xs = (a.run xs).map fun m => (xs.take (xs.length - m.2.length) :: m.1, m.2) := rfl

theorem rests_nil (p : α → Bool) : rests p [] = [[]] := rfl

theorem rests_cons (p : α → Bool) (x : α) (xs : List α) :
    rests p (x :: xs) = (x :: xs) :: if p x then rests p xs else [] := rfl

theorem search_nil (r : Regex α) : r.search [] = r.found [] := rfl

theorem search_cons (r : Regex α) (x : α) (xs : List α) :
    r.search (x :: xs) = (r.found (x :: xs)).or (r.search xs) := rfl

/-! ## Single characters -/

/-- A construct that takes nothing leaves the rest to the next one. -/
theorem run_eps_seq (xs : List α) : (eps.seq k).run xs = k.run xs := by
  simp [run_seq, run_eps]

theorem run_one_seq_nil : ((one p).seq k).run [] = [] := by
  simp [run_seq, run_one_nil]

theorem run_one_seq (hx : p x = true) : ((one p).seq k).run (x :: xs) = k.run xs := by
  simp [run_seq, run_one_cons, hx]

theorem run_one_seq_of_not (hx : p x = false) : ((one p).seq k).run (x :: xs) = [] := by
  simp [run_seq, run_one_cons, hx]

/-- A sequence may be read from either side. -/
theorem run_seq_assoc (a b c : Regex α) (xs : List α) : ((a.seq b).seq c).run xs = (a.seq (b.seq c)).run xs := by
  simp [run_seq, List.flatMap_assoc, List.map_flatMap, List.flatMap_map, Function.comp_def]

theorem run_lits_seq_cons (hx : p x = true) :
    ((lits (p :: ps)).seq k).run (x :: xs) = ((lits ps).seq k).run xs := by
  show (((one p).seq (lits ps)).seq k).run (x :: xs) = ((lits ps).seq k).run xs
  rw [run_seq_assoc, run_one_seq hx]

theorem run_lits_seq_of_not (hx : p x = false) : ((lits (p :: ps)).seq k).run (x :: xs) = [] := by
  show (((one p).seq (lits ps)).seq k).run (x :: xs) = []
  rw [run_seq_assoc, run_one_seq_of_not hx]

/-- The characters of the classes come off the head of the text. -/
theorem run_lits_seq (h : Fits ps as) : ((lits ps).seq k).run (as ++ ys) = k.run ys := by
  induction h with
  | nil => exact run_eps_seq ys
  | cons hx _ ih => rw [List.cons_append, run_lits_seq_cons hx, ih]

/-- A match of the classes is one of these characters. -/
theorem fits_of_run (h : ((lits ps).seq k).run xs ≠ []) :
    ∃ as ys, Fits ps as ∧ xs = as ++ ys ∧ k.run ys ≠ [] := by
  induction ps generalizing xs with
  | nil =>
    have hk : k.run xs ≠ [] := by
      rw [← run_eps_seq]
      exact h
    exact ⟨[], xs, .nil, rfl, hk⟩
  | cons p ps ih =>
    cases xs with
    | nil =>
      exfalso
      apply h
      show (((one p).seq (lits ps)).seq k).run [] = []
      rw [run_seq_assoc, run_one_seq_nil]
    | cons x xs =>
      cases hx : p x with
      | false => exact absurd (run_lits_seq_of_not hx) h
      | true =>
        rw [run_lits_seq_cons hx] at h
        obtain ⟨as, ys, hfits, htext, hk⟩ := ih h
        exact ⟨x :: as, ys, .cons hx hfits, by rw [htext, List.cons_append], hk⟩

/-! ## Repetition -/

/-- Behind every run but the longest stands a character of the class. -/
theorem flatMap_rests {f : List α → List β} (hf : ∀ x xs, p x = true → f (x :: xs) = []) (xs : List α) :
    (rests p xs).reverse.flatMap f = f (xs.dropWhile p) := by
  induction xs with
  | nil => simp [rests_nil]
  | cons x xs ih =>
    cases hx : p x with
    | false => simp [rests_cons, hx]
    | true => simp [rests_cons, hx, ih, hf x xs hx]

/-- **A greedy run before something that none of its characters starts is the longest one.** -/
theorem run_greedy_seq (hk : ∀ x xs, p x = true → k.run (x :: xs) = []) :
    ((many true p).seq k).run xs = k.run (xs.dropWhile p) := by
  have hrun : ((many true p).seq k).run xs = (rests p xs).reverse.flatMap k.run := by
    rw [run_seq, run_greedy, List.flatMap_map]
    simp
  rw [hrun, flatMap_rests hk]

theorem run_lazy_seq_cons : ((many false p).seq k).run (x :: xs)
    = k.run (x :: xs) ++ if p x then ((many false p).seq k).run xs else [] := by
  cases hx : p x <;> simp [run_seq, run_lazy, rests_cons, hx, List.flatMap_map]

/-- **A lazy run before something that only a `q` starts stops at the next `q`.** -/
theorem head_lazy_seq (hk : ∀ x xs, q x = false → k.run (x :: xs) = [])
    (hq : ∀ a ∈ as, q a = false) (hp : ∀ a ∈ as, p a = true) (hm : (k.run ys).head? = some m) :
    (((many false p).seq k).run (as ++ ys)).head? = some m := by
  induction as with
  | nil =>
    cases ys with
    | nil => simpa [run_seq, run_lazy, rests_nil] using hm
    | cons y ys => rw [List.nil_append, run_lazy_seq_cons, List.head?_append, hm, Option.some_or]
  | cons a as ih =>
    rw [List.cons_append, run_lazy_seq_cons, hk a _ (hq a List.mem_cons_self), hp a List.mem_cons_self,
      List.nil_append]
    exact ih (fun b hb => hq b (List.mem_cons_of_mem a hb)) (fun b hb => hp b (List.mem_cons_of_mem a hb))

/-- **It fails where it may not get to a `q`.** -/
theorem run_lazy_seq_nil (hk : ∀ x xs, q x = false → k.run (x :: xs) = []) (hq : ∀ a ∈ as, q a = false)
    (hend : (∀ a ∈ as, p a = true) → ((many false p).seq k).run ys = []) :
    ((many false p).seq k).run (as ++ ys) = [] := by
  induction as with
  | nil => exact hend (by simp)
  | cons a as ih =>
    rw [List.cons_append, run_lazy_seq_cons, hk a _ (hq a List.mem_cons_self), List.nil_append]
    cases hpa : p a with
    | false => simp
    | true =>
      rw [if_pos rfl]
      apply ih
      · exact fun b hb => hq b (List.mem_cons_of_mem a hb)
      · exact fun hall => hend (List.forall_mem_cons.mpr ⟨hpa, hall⟩)

/-! ## A run that is kept -/

/-- The number at the head of a text is kept, the longest reading of it first. -/
theorem run_number (hx : p x = true) : (plus p).group.run (x :: xs)
    = (rests p xs).reverse.map fun r => ([(x :: xs).take ((x :: xs).length - r.length)], r) := by
  simp [plus, run_group, run_seq, run_one_cons, run_greedy, hx, Function.comp_def]

theorem run_number_of_not (hx : p x = false) : (plus p).group.run (x :: xs) = [] := by
  simp [plus, run_group, run_seq, run_one_cons, hx]

theorem run_number_seq_of_not (hx : p x = false) : ((plus p).group.seq k).run (x :: xs) = [] := by
  rw [run_seq, run_number_of_not hx, List.flatMap_nil]

theorem rests_getLast? (xs : List α) : (rests p xs).getLast? = some (xs.dropWhile p) := by
  induction xs with
  | nil => rfl
  | cons x xs ih =>
    cases hx : p x with
    | false => simp [rests_cons, hx]
    | true => simp [rests_cons, hx, List.getLast?_cons, ih]

/-- What stands before the rest of a text. -/
theorem take_before (as ys : List α) : (as ++ ys).take ((as ++ ys).length - ys.length) = as := by
  rw [List.length_append, Nat.add_sub_cancel, List.take_left]

section Number

variable {d y : α} {ds : List α} (hds : ∀ d ∈ ds, p d = true) (hy : p y = false)

include hds hy

/-- What follows a number is what follows its longest run. -/
theorem dropWhile_number : (ds ++ y :: ys).dropWhile p = y :: ys := by
  rw [List.dropWhile_append_of_pos hds, List.dropWhile_cons_of_neg (by simp [hy])]

/-- At the head of a text a number is read to its end first. -/
theorem head_number (hne : ds ≠ []) : ((plus p).group.run (ds ++ y :: ys)).head? = some ([ds], y :: ys) := by
  cases ds with
  | nil => exact absurd rfl hne
  | cons d ds =>
    obtain ⟨hd, htail⟩ := List.forall_mem_cons.mp hds
    rw [List.cons_append, run_number hd, List.head?_map, List.head?_reverse, rests_getLast?,
      dropWhile_number htail hy, Option.map_some, ← List.cons_append, take_before]

/-- **A number before something no digit starts is read to its end.** -/
theorem run_number_seq (hk : ∀ x xs, p x = true → k.run (x :: xs) = []) (hne : ds ≠ []) :
    ((plus p).group.seq k).run (ds ++ y :: ys) = (k.run (y :: ys)).map fun n => (ds :: n.1, n.2) := by
  cases ds with
  | nil => exact absurd rfl hne
  | cons d ds =>
    obtain ⟨hd, htail⟩ := List.forall_mem_cons.mp hds
    rw [run_seq, List.cons_append, run_number hd, List.flatMap_map, flatMap_rests, dropWhile_number htail hy,
      ← List.cons_append, take_before]
    · rfl
    · intro x xs hx
      simp [hk x xs hx]

end Number

/-! ## Searching -/

theorem search_cons_of_nil (h : r.run (x :: xs) = []) : r.search (x :: xs) = r.search xs := by
  rw [search_cons, found, h]
  rfl

theorem search_of_found {gs : List (List α)} (h : r.found xs = some gs) : r.search xs = some gs := by
  cases xs with
  | nil => exact h
  | cons x xs => rw [search_cons, h, Option.some_or]

/-- Places where the pattern does not match are passed over. -/
theorem search_append (h : ∀ as', as' <:+ as → as' ≠ [] → r.run (as' ++ ys) = []) :
    r.search (as ++ ys) = r.search ys := by
  induction as with
  | nil => rfl
  | cons a as ih =>
    have hhere : r.run (a :: (as ++ ys)) = [] := h (a :: as) List.suffix_rfl (List.cons_ne_nil a as)
    rw [List.cons_append, search_cons_of_nil hhere]
    exact ih fun as' hsuffix hne => h as' (hsuffix.trans (List.suffix_cons a as)) hne

/-- Where every place has the same match or none, and some place has it, it is the one that is found. -/
theorem search_of_places {gs : List (List α)}
    (hall : ∀ as', as' <:+ as → r.run (as' ++ ys) = [] ∨ r.found (as' ++ ys) = some gs)
    (hsome : ∃ as', as' <:+ as ∧ r.found (as' ++ ys) = some gs) : r.search (as ++ ys) = some gs := by
  induction as with
  | nil =>
    obtain ⟨as', hsuffix, hfound⟩ := hsome
    rw [List.suffix_nil.mp hsuffix] at hfound
    exact search_of_found hfound
  | cons a as ih =>
    rcases hall (a :: as) List.suffix_rfl with hnil | hhere
    · -- nothing here, so the place that has it lies behind
      rw [List.cons_append] at hnil ⊢
      rw [search_cons_of_nil hnil]
      apply ih
      · exact fun as' hsuffix => hall as' (hsuffix.trans (List.suffix_cons a as))
      · obtain ⟨as', hsuffix, hfound⟩ := hsome
        refine ⟨as', (List.suffix_cons_iff.mp hsuffix).resolve_left ?_, hfound⟩
        rintro rfl
        rw [found, List.cons_append, hnil] at hfound
        cases hfound
    · exact search_of_found hhere

/-- A pattern that matches at no place is not found. -/
theorem search_eq_none (h : ∀ as, as <:+ xs → r.run as = []) : r.search xs = none := by
  have hall : r.search (xs ++ []) = r.search [] :=
    search_append fun as' hsuffix _ => by rw [List.append_nil, h as' hsuffix]
  rw [List.append_nil] at hall
  rw [hall, search_nil, found, h [] List.nil_suffix]
  rfl

/-! ### Patterns that begin with a number -/

/-- A text without a digit is passed over. -/
theorem search_number_seq_plain (has : ∀ a ∈ as, p a = false) :
    ((plus p).group.seq k).search (as ++ ys) = ((plus p).group.seq k).search ys := by
  apply search_append
  intro as' hsuffix hne
  cases as' with
  | nil => exact absurd rfl hne
  | cons a as' =>
    rw [List.cons_append]
    exact run_number_seq_of_not (has a (hsuffix.mem List.mem_cons_self))

/-- So is a number with the wrong thing behind it. -/
theorem search_number_seq_number {y : α} {ds : List α} (hk : ∀ x xs, p x = true → k.run (x :: xs) = [])
    (hds : ∀ d ∈ ds, p d = true) (hy : p y = false) (hnil : k.run (y :: ys) = []) :
    ((plus p).group.seq k).search (ds ++ y :: ys) = ((plus p).group.seq k).search (y :: ys) := by
  apply search_append
  intro ds' hsuffix hne
  rw [run_number_seq (fun d hd => hds d (hsuffix.mem hd)) hy hk hne, hnil, List.map_nil]

/-- A text without a digit has no match. -/
theorem search_number_seq_none (hxs : ∀ x ∈ xs, p x = false) : ((plus p).group.seq k).search xs = none := by
  apply search_eq_none
  intro as hsuffix
  cases as with
  | nil => simp [plus, run_seq, run_group, run_one_nil]
  | cons a as => exact run_number_seq_of_not (hxs a (hsuffix.mem List.mem_cons_self))

end Regex

end Text
