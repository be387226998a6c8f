import Mathlib.Data.List.DropRight

/-!
# `Text.Words` — texts with their runs of blanks squeezed

Over any characters and any notion of a blank: splitting a text into its words and joining them with one separator
(`splitJoin`) comes to reading it from left to right (`squeeze`), where the state says whether a word has begun, is
being read, or is over. The automaton is what the lemmas are about: squeezing twice is squeezing once, and a squeezed
text that is cut and stripped is the squeezed text of another one (`cut_squeeze`).

`column` is the number of characters that come before a word character in the result; `mem_take_squeeze` says by it
**which word characters a cut leaves**.
-/

namespace Text

variable {α : Type} (blank : α → Bool) (sep : α)

/-- The words of a text, joined by the separator. -/
def splitJoin [DecidableEq α] (xs : List α) : List α := [sep].intercalate ((xs.splitOnP blank).filter (· ≠ []))

/-- Where a reader from left to right stands. -/
inductive Place where
  /-- Before the first word. -/
  | start
  | word
  /-- Behind a word, before the next one. -/
  | gap
  deriving DecidableEq, Repr

/-- Where a blank leads. -/
def Place.onBlank : Place → Place
  | start => start
  | word => gap
  | gap => gap

/-- The number of separators that go before the next word character. -/
def Place.owed : Place → Nat
  | start => 0
  | word => 0
  | gap => 1

/-- What is read from here on, with every run of blanks between words as one separator. -/
def squeeze : Place → List α → List α
  | _, [] => []
  | s, x :: xs => if blank x then squeeze s.onBlank xs else List.replicate s.owed sep ++ x :: squeeze .word xs

/-- The number of characters a text puts before the word character that follows it. -/
def column : Place → List α → Nat
  | s, [] => s.owed
  | s, x :: xs => if blank x then column s.onBlank xs else s.owed + 1 + column .word xs

/-- Without the blanks at the end. -/
def stripEnd (xs : List α) : List α := xs.rdropWhile blank

variable {blank sep} {x c : α} {xs : List α} {s : Place} {n : Nat}

theorem squeeze_blank (hx : blank x = true) : squeeze blank sep s (x :: xs) = squeeze blank sep s.onBlank xs :=
  if_pos hx

theorem squeeze_word (hx : blank x = false) :
    squeeze blank sep s (x :: xs) = List.replicate s.owed sep ++ x :: squeeze blank sep .word xs :=
  if_neg (by rw [hx]; exact Bool.false_ne_true)

theorem column_blank (hx : blank x = true) : column blank s (x :: xs) = column blank s.onBlank xs := if_pos hx

theorem column_word (hx : blank x = false) : column blank s (x :: xs) = s.owed + 1 + column blank .word xs :=
  if_neg (by rw [hx]; exact Bool.false_ne_true)

/-! ## Splitting and joining -/

/-- The words after the first one, each behind a separator. -/
theorem intercalate_cons_eq (w : List α) (ws : List (List α)) :
    [sep].intercalate (w :: ws) = w ++ ws.flatMap ([sep] ++ ·) := by
  induction ws generalizing w with
  | nil => simp [List.intercalate, List.intersperse]
  | cons v ws ih =>
      have htail := ih v
      simp only [List.intercalate, List.intersperse_cons_cons, List.flatten_cons] at htail ⊢
      rw [htail]
      simp

/-- **The reader does what splitting and joining do**, from each of its states. -/
theorem squeeze_eq_words [DecidableEq α] (xs : List α) :
    squeeze blank sep .start xs = splitJoin blank sep xs ∧
    (∀ first rest, xs.splitOnP blank = first :: rest →
      squeeze blank sep .word xs = first ++ (rest.filter (· ≠ [])).flatMap ([sep] ++ ·)) ∧
    squeeze blank sep .gap xs = ((xs.splitOnP blank).filter (· ≠ [])).flatMap ([sep] ++ ·) := by
  induction xs with
  | nil =>
      refine ⟨rfl, ?_, rfl⟩
      intro first rest hsplit
      obtain ⟨rfl, rfl⟩ := List.cons.inj hsplit
      rfl
  | cons x xs ih =>
      obtain ⟨hstart, hword, hgap⟩ := ih
      obtain ⟨first, rest, hsplit⟩ := List.exists_cons_of_ne_nil (List.splitOnP_ne_nil blank xs)
      have hcons : (x :: xs).splitOnP blank
          = if blank x then [] :: xs.splitOnP blank else (xs.splitOnP blank).modifyHead (x :: ·) :=
        List.splitOnP_cons_eq_if_modifyHead x xs
      cases hx : blank x with
      | true =>
          -- a blank begins a new part, which is empty so far
          rw [if_pos hx] at hcons
          rw [squeeze_blank hx, squeeze_blank hx, squeeze_blank hx]
          refine ⟨?_, ?_, ?_⟩
          · rw [splitJoin, hcons]
            exact hstart
          · intro first' rest' hsplit'
            obtain ⟨rfl, rfl⟩ := List.cons.inj (hcons.symm.trans hsplit')
            exact hgap
          · rw [hcons]
            exact hgap
      | false =>
          -- any other character goes to the front of the first part
          rw [if_neg (by rw [hx]; exact Bool.false_ne_true), hsplit, List.modifyHead_cons] at hcons
          have hfilter : ((x :: first) :: rest).filter (· ≠ []) = (x :: first) :: rest.filter (· ≠ []) := rfl
          have hrest := hword first rest hsplit
          rw [squeeze_word hx, squeeze_word hx, squeeze_word hx, hrest]
          refine ⟨?_, ?_, ?_⟩
          · rw [splitJoin, hcons, hfilter, intercalate_cons_eq]
            rfl
          · intro first' rest' hsplit'
            obtain ⟨rfl, rfl⟩ := List.cons.inj (hcons.symm.trans hsplit')
            rfl
          · rw [hcons, hfilter, List.flatMap_cons]
            rfl

theorem splitJoin_eq_squeeze [DecidableEq α] (xs : List α) :
    splitJoin blank sep xs = squeeze blank sep .start xs := (squeeze_eq_words xs).1.symm

/-! ## What a squeezed text looks like -/

/-- A character of the result is the separator or a word character. -/
theorem mem_squeeze : ∀ {s : Place} {xs : List α}, c ∈ squeeze blank sep s xs → c = sep ∨ blank c = false
  | _, [], h => by cases h
  | s, x :: xs, h => by
      cases hx : blank x with
      | true =>
          rw [squeeze_blank hx] at h
          exact mem_squeeze h
      | false =>
          rw [squeeze_word hx] at h
          rcases List.mem_append.mp h with howed | h
          · exact .inl (List.eq_of_mem_replicate howed)
          rcases List.mem_cons.mp h with rfl | h
          · exact .inr hx
          · exact mem_squeeze h

/-- It does not begin with a blank. -/
theorem head_squeeze : ∀ {xs : List α}, (squeeze blank sep .start xs).head? = some c → blank c = false
  | [], h => by cases h
  | x :: xs, h => by
      cases hx : blank x with
      | true =>
          rw [squeeze_blank hx] at h
          exact head_squeeze h
      | false =>
          rw [squeeze_word hx] at h
          obtain rfl := Option.some.inj h
          exact hx

/-- Where to start reading the result again. -/
def Place.again : Place → Place
  | start => start
  | word => word
  | gap => word

/-- **Squeezing again** changes nothing. -/
theorem squeeze_squeeze (hsep : blank sep = true) (s : Place) (xs : List α) :
    squeeze blank sep s.again (squeeze blank sep s xs) = squeeze blank sep s xs := by
  induction xs generalizing s with
  | nil => rfl
  | cons x xs ih =>
      cases hx : blank x with
      | true =>
          have hagain : s.onBlank.again = s.again := by cases s <;> rfl
          rw [squeeze_blank hx, ← hagain]
          exact ih s.onBlank
      | false =>
          have hword : squeeze blank sep .word (squeeze blank sep .word xs) = squeeze blank sep .word xs := ih .word
          rw [squeeze_word hx]
          cases s with
          | start =>
              show squeeze blank sep .start (x :: _) = x :: _
              rw [squeeze_word hx, hword]
              rfl
          | word =>
              show squeeze blank sep .word (x :: _) = x :: _
              rw [squeeze_word hx, hword]
              rfl
          | gap =>
              -- the separator is read as the blank that it is
              show squeeze blank sep .word (sep :: x :: _) = sep :: x :: _
              rw [squeeze_blank hsep, squeeze_word hx, hword]
              rfl

/-! ## Cutting -/

theorem stripEnd_cons : stripEnd blank (x :: xs)
    = if blank x = true ∧ stripEnd blank xs = [] then [] else x :: stripEnd blank xs := by
  unfold stripEnd
  induction xs using List.reverseRecOn with
  | nil => simp [List.rdropWhile_singleton]
  | append_singleton ys y ih =>
      rw [← List.cons_append, List.rdropWhile_concat, List.rdropWhile_concat]
      split_ifs with hy hnil <;> simp_all

theorem stripEnd_word (hx : blank x = false) : stripEnd blank (x :: xs) = x :: stripEnd blank xs := by
  rw [stripEnd_cons, if_neg]
  rintro ⟨htrue, -⟩
  rw [hx] at htrue
  cases htrue

/-- A separator before a word stays. -/
theorem stripEnd_owed (hx : blank x = false) :
    stripEnd blank (List.replicate s.owed sep ++ x :: xs) = List.replicate s.owed sep ++ x :: stripEnd blank xs := by
  cases s with
  | start => exact stripEnd_word hx
  | word => exact stripEnd_word hx
  | gap =>
      show stripEnd blank (sep :: x :: xs) = sep :: x :: stripEnd blank xs
      rw [stripEnd_cons, stripEnd_word hx, if_neg]
      rintro ⟨-, hnil⟩
      cases hnil

/-- A squeezed text has no blank at its end. -/
theorem stripEnd_squeeze (s : Place) (xs : List α) :
    stripEnd blank (squeeze blank sep s xs) = squeeze blank sep s xs := by
  induction xs generalizing s with
  | nil => rfl
  | cons x xs ih =>
      cases hx : blank x with
      | true =>
          rw [squeeze_blank hx]
          exact ih s.onBlank
      | false => rw [squeeze_word hx, stripEnd_owed hx, ih]

/-- What a cut leaves of one word character and the rest. -/
theorem take_owed (n : Nat) : (List.replicate s.owed sep ++ x :: xs).take n
    = if n ≤ s.owed then List.replicate n sep else List.replicate s.owed sep ++ x :: xs.take (n - s.owed - 1) := by
  rw [List.take_append, List.length_replicate, List.take_replicate]
  split_ifs with hn
  · rw [Nat.min_eq_left hn, Nat.sub_eq_zero_of_le hn, List.take_zero, List.append_nil]
  · obtain ⟨k, rfl⟩ := Nat.exists_eq_add_of_lt (Nat.not_le.mp hn)
    rw [Nat.min_eq_right (by omega)]
    have hrest : s.owed + k + 1 - s.owed = k + 1 := by omega
    rw [hrest, List.take_succ_cons, Nat.add_sub_cancel]

theorem stripEnd_replicate (hsep : blank sep = true) (n : Nat) : stripEnd blank (List.replicate n sep) = [] := by
  refine List.rdropWhile_eq_nil_iff.mpr fun c hc => ?_
  rw [List.eq_of_mem_replicate hc]
  exact hsep

/-- **A cut and stripped result** is itself a squeezed text. -/
theorem cut_squeeze (hsep : blank sep = true) (n : Nat) (s : Place) (xs : List α) :
    ∃ ys, stripEnd blank ((squeeze blank sep s xs).take n) = squeeze blank sep s ys := by
  induction xs generalizing n s with
  | nil => exact ⟨[], by rw [squeeze, List.take_nil]; rfl⟩
  | cons x xs ih =>
      cases hx : blank x with
      | true =>
          obtain ⟨ys, hys⟩ := ih n s.onBlank
          refine ⟨x :: ys, ?_⟩
          rw [squeeze_blank hx, squeeze_blank hx]
          exact hys
      | false =>
          rw [squeeze_word hx, take_owed]
          split_ifs with hn
          · -- only separators are left
            refine ⟨[], ?_⟩
            rw [stripEnd_replicate hsep]
            rfl
          · obtain ⟨ys, hys⟩ := ih (n - s.owed - 1) .word
            refine ⟨x :: ys, ?_⟩
            rw [stripEnd_owed hx, hys, squeeze_word hx]

/-- Stripping the end takes only blanks away. -/
theorem mem_stripEnd (hc : blank c = false) : c ∈ stripEnd blank xs ↔ c ∈ xs := by
  refine ⟨fun h => (List.rdropWhile_prefix blank xs).subset h, fun h => ?_⟩
  induction xs with
  | nil => cases h
  | cons x xs ih =>
      rcases List.mem_cons.mp h with rfl | hmem
      · rw [stripEnd_word hc]
        exact List.mem_cons_self
      · have hrest := ih hmem
        rw [stripEnd_cons, if_neg]
        · exact List.mem_cons_of_mem _ hrest
        · rintro ⟨-, hnil⟩
          rw [hnil] at hrest
          cases hrest

/-- A decomposition of a longer text. -/
theorem exists_split_cons {P : List α → Prop} : (∃ before after, x :: xs = before ++ c :: after ∧ P before) ↔
    (x = c ∧ P []) ∨ ∃ before after, xs = before ++ c :: after ∧ P (x :: before) := by
  constructor
  · rintro ⟨before, after, heq, hP⟩
    cases before with
    | nil => exact .inl ⟨(List.cons.inj heq).1, hP⟩
    | cons y before =>
        obtain ⟨rfl, htail⟩ := List.cons.inj heq
        exact .inr ⟨before, after, htail, hP⟩
  · rintro (⟨rfl, hP⟩ | ⟨before, after, rfl, hP⟩)
    · exact ⟨[], xs, rfl, hP⟩
    · exact ⟨x :: before, after, rfl, hP⟩

/-- **Which word characters a cut leaves**: those with fewer than `n` characters before them. -/
theorem mem_take_squeeze (hsep : blank sep = true) (hc : blank c = false) (xs : List α) (s : Place) (n : Nat) :
    c ∈ (squeeze blank sep s xs).take n ↔ ∃ before after, xs = before ++ c :: after ∧ column blank s before < n := by
  have hcs : c ≠ sep := by
    rintro rfl
    rw [hsep] at hc
    cases hc
  induction xs generalizing s n with
  | nil => simp [squeeze]
  | cons x xs ih =>
      rw [exists_split_cons]
      cases hx : blank x with
      | true =>
          have hne : x ≠ c := by
            rintro rfl
            rw [hx] at hc
            cases hc
          simp only [squeeze_blank hx, column_blank hx, hne, false_and, false_or]
          exact ih s.onBlank n
      | false =>
          rw [squeeze_word hx, take_owed]
          simp only [column_word hx]
          split_ifs with hn
          · -- the cut is before this character
            refine iff_of_false (fun h => hcs (List.eq_of_mem_replicate h)) ?_
            rintro (⟨-, hlt⟩ | ⟨before, after, -, hlt⟩)
            · exact absurd hn (Nat.not_le.mpr hlt)
            · omega
          · have hcolumn : column blank s [] < n := Nat.not_le.mp hn
            have hshift : ∀ k, s.owed + 1 + k < n ↔ k < n - s.owed - 1 := fun k => by omega
            have hrest : c ∈ (squeeze blank sep .word xs).take (n - s.owed - 1) ↔ ∃ before after,
                xs = before ++ c :: after ∧ column blank .word before < n - s.owed - 1 := ih .word (n - s.owed - 1)
            rw [List.mem_append, List.mem_cons, hrest]
            simp only [hshift, hcolumn, and_true]
            constructor
            · rintro (howed | rfl | hrest)
              · exact absurd (List.eq_of_mem_replicate howed) hcs
              · exact .inl rfl
              · exact .inr hrest
            · rintro (rfl | hrest)
              · exact .inr (.inl rfl)
              · exact .inr (.inr hrest)

/-! ## Counting -/

/-- The number of places where a blank follows a word character. -/
def wordEnds (blank : α → Bool) : List α → Nat
  | [] => 0
  | [_] => 0
  | x :: y :: xs => (if !blank x && blank y then 1 else 0) + wordEnds blank (y :: xs)

/-- A blank in front ends no word. -/
theorem wordEnds_blank (hx : blank x = true) : wordEnds blank (x :: xs) = wordEnds blank xs := by
  cases xs with
  | nil => rfl
  | cons y ys => simp [wordEnds, hx]

/-- **The column in terms of the text**: its word characters, and one separator for each word that is over. -/
theorem column_eq (xs : List α) : column blank .start xs = xs.countP (fun x => !blank x) + wordEnds blank xs ∧
    (∀ w, blank w = false → column blank .word xs = xs.countP (fun x => !blank x) + wordEnds blank (w :: xs)) ∧
    column blank .gap xs = xs.countP (fun x => !blank x) + wordEnds blank xs + 1 := by
  induction xs with
  | nil => exact ⟨rfl, fun _ _ => rfl, rfl⟩
  | cons x xs ih =>
      obtain ⟨hstart, hword, hgap⟩ := ih
      cases hx : blank x with
      | true =>
          rw [column_blank hx, column_blank hx, column_blank hx, List.countP_cons_of_neg (by simp [hx]),
            wordEnds_blank hx]
          refine ⟨hstart, fun w hw => ?_, hgap⟩
          have hends : wordEnds blank (w :: x :: xs) = 1 + wordEnds blank xs := by
            simp [wordEnds, hw, hx, wordEnds_blank hx]
          rw [hends]
          show column blank .gap xs = _
          rw [hgap]
          omega
      | false =>
          have hrest := hword x hx
          rw [column_word hx, column_word hx, column_word hx, List.countP_cons_of_pos (by simp [hx]), hrest]
          refine ⟨by simp only [Place.owed]; omega, fun w hw => ?_, by simp only [Place.owed]; omega⟩
          have hends : wordEnds blank (w :: x :: xs) = wordEnds blank (x :: xs) := by simp [wordEnds, hx]
          rw [hends]
          simp only [Place.owed]
          omega

end Text
