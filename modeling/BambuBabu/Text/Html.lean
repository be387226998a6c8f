import Mathlib.Data.Bool.AllAny
import Mathlib.Data.List.Nodup

/-!
# `Text.Html` — untrusted values in a page of markup

A page is a template with values filled in. A reader of the page goes from character to character and tells markup
from content, which is text or the value of an attribute. Nothing here knows tags or attributes by name: a `<` begins
a tag wherever text can stand, so what is proved of this reader holds of every reader that is more lenient.

* `Context`, `markup`, `content` — the reader;
* `Escaper` — a table of character references, replaced one after the other; `Escaper.escape_eq` — **which comes to
  replacing all of them at once**;
* `CharRefs.decode` — what a reader makes of references; `decode_escape` — **it undoes escaping**;
* `Template.read` — **a page that was filled with escaped values has the markup of its template**, and its content
  is that of the template with the values themselves.
-/

namespace Text.Html

/-! ## The reader -/

/-- Where a reader is. -/
inductive Context where
  | text | tag | doubleQuoted | singleQuoted
  deriving DecidableEq, Repr

namespace Context

def next : Context → Char → Context
  | text, c => if c = '<' then tag else text
  | tag, c =>
      if c = '>' then text else if c = '"' then doubleQuoted else if c = '\'' then singleQuoted else tag
  | doubleQuoted, c => if c = '"' then tag else doubleQuoted
  | singleQuoted, c => if c = '\'' then tag else singleQuoted

/-- Whether values belong here. -/
def isContent : Context → Bool
  | tag => false
  | text | doubleQuoted | singleQuoted => true

/-- Where the reader is behind a text. -/
def after (p : Context) (s : List Char) : Context := s.foldl next p

/-- The character is content: the reader stays in the text or in the value. -/
def keeps (p : Context) (c : Char) : Bool := p.isContent && p.next c = p

end Context

/-- What is markup, as read from `p` on. -/
def markup : Context → List Char → List Char
  | _, [] => []
  | p, c :: cs => if p.keeps c then markup p cs else c :: markup (p.next c) cs

/-- What is content. -/
def content : Context → List Char → List Char
  | _, [] => []
  | p, c :: cs => if p.keeps c then c :: content p cs else content (p.next c) cs

/-- The characters that can move a reader. -/
def delimiters : List Char := ['<', '>', '"', '\'']

/-- A text that moves no reader of content. -/
def Inert (s : List Char) : Prop := ∀ c ∈ s, c ∉ delimiters

instance (s : List Char) : Decidable (Inert s) :=
  decidable_of_iff ((s.all fun c => !delimiters.elem c) = true) (by simp [Inert])

variable {p : Context} {c : Char} {s t : List Char}

theorem Context.after_append (p : Context) (s t : List Char) : p.after (s ++ t) = (p.after s).after t :=
  List.foldl_append

theorem Context.next_of_keeps (h : p.keeps c = true) : p.next c = p :=
  of_decide_eq_true (Bool.and_eq_true_iff.mp h).2

theorem markup_append (p : Context) (s t : List Char) : markup p (s ++ t) = markup p s ++ markup (p.after s) t := by
  induction s generalizing p with
  | nil => rfl
  | cons c s ih =>
      have hafter : p.after (c :: s) = (p.next c).after s := rfl
      rw [List.cons_append, markup, markup, hafter]
      split
      · next hkeep => rw [Context.next_of_keeps hkeep, ih]
      · rw [ih, List.cons_append]

theorem content_append (p : Context) (s t : List Char) :
    content p (s ++ t) = content p s ++ content (p.after s) t := by
  induction s generalizing p with
  | nil => rfl
  | cons c s ih =>
      have hafter : p.after (c :: s) = (p.next c).after s := rfl
      rw [List.cons_append, content, content, hafter]
      split
      · next hkeep => rw [Context.next_of_keeps hkeep, ih, List.cons_append]
      · rw [ih]

/-- Content stays content. -/
theorem Context.keeps_of_inert (hp : p.isContent = true) (hc : c ∉ delimiters) : p.keeps c = true := by
  have hlt : c ≠ '<' := by rintro rfl; exact hc (by decide)
  have hdouble : c ≠ '"' := by rintro rfl; exact hc (by decide)
  have hsingle : c ≠ '\'' := by rintro rfl; exact hc (by decide)
  cases p with
  | text => simp [keeps, isContent, next, hlt]
  | tag => cases hp
  | doubleQuoted => simp [keeps, isContent, next, hdouble]
  | singleQuoted => simp [keeps, isContent, next, hsingle]

/-- **An inert text is read as content**, all of it. -/
theorem read_inert (hp : p.isContent = true) (hs : Inert s) :
    p.after s = p ∧ markup p s = [] ∧ content p s = s := by
  induction s with
  | nil => exact ⟨rfl, rfl, rfl⟩
  | cons c s ih =>
      have hkeep : p.keeps c = true := Context.keeps_of_inert hp (hs c List.mem_cons_self)
      obtain ⟨hafter, hmarkup, hcontent⟩ := ih fun x hx => hs x (List.mem_cons_of_mem _ hx)
      refine ⟨?_, ?_, ?_⟩
      · show (p.next c).after s = p
        rw [Context.next_of_keeps hkeep, hafter]
      · rw [markup, if_pos hkeep, hmarkup]
      · rw [content, if_pos hkeep, hcontent]

/-! ## Escaping -/

/-- The reference of this name. -/
def reference (name : List Char) : List Char := '&' :: name ++ [';']

/-- Every `c` replaced. -/
def replaceAll (c : Char) (new s : List Char) : List Char := s.flatMap fun x => if x = c then new else [x]

/-- The references by which a writer replaces characters, in the order in which it does. -/
structure Escaper where
  table : List (Char × List Char)
  /-- What an earlier replacement puts in is not replaced again. -/
  ordered : table.Pairwise fun a b => b.1 ∉ reference a.2
  ampersand : '&' ∈ table.map Prod.fst
  covers : ∀ c ∈ delimiters, c ∈ table.map Prod.fst
  inert : ∀ r ∈ table, Inert (reference r.2)

namespace Escaper

/-- One replacement after the other. -/
def replaceEach (table : List (Char × List Char)) (s : List Char) : List Char :=
  table.foldl (fun s r => replaceAll r.1 (reference r.2) s) s

/-- What the table makes of one character. -/
def one : List (Char × List Char) → Char → List Char
  | [], c => [c]
  | r :: rest, c => if c = r.1 then reference r.2 else one rest c

def escape (e : Escaper) (s : List Char) : List Char := replaceEach e.table s

variable {table : List (Char × List Char)} {e : Escaper}

theorem one_of_notMem (h : c ∉ table.map Prod.fst) : one table c = [c] := by
  induction table with
  | nil => rfl
  | cons r rest ih =>
      rw [List.map_cons, List.mem_cons, not_or] at h
      rw [one, if_neg h.1, ih h.2]

theorem one_of_mem (h : c ∈ table.map Prod.fst) : ∃ name, (c, name) ∈ table ∧ one table c = reference name := by
  induction table with
  | nil => cases h
  | cons r rest ih =>
      by_cases hc : c = r.1
      · subst hc
        exact ⟨r.2, List.mem_cons_self, if_pos rfl⟩
      · obtain ⟨name, hmem, hone⟩ := ih ((List.mem_cons.mp h).resolve_left hc)
        exact ⟨name, List.mem_cons_of_mem _ hmem, by rw [one, if_neg hc, hone]⟩

/-- **Replacing one character after the other** comes to replacing all of them at once, if no replacement puts in a
    character that is still to be replaced. -/
theorem replaceEach_eq (h : table.Pairwise fun a b => b.1 ∉ reference a.2) (s : List Char) :
    replaceEach table s = s.flatMap (one table) := by
  induction table generalizing s with
  | nil => exact (List.flatMap_singleton' s).symm
  | cons r rest ih =>
      obtain ⟨hr, hrest⟩ := List.pairwise_cons.mp h
      -- the rest of the table leaves the new references alone
      have hkept : (reference r.2).flatMap (one rest) = reference r.2 := by
        have hone : ∀ c ∈ reference r.2, one rest c = [c] := by
          intro c hc
          apply one_of_notMem
          intro hmem
          obtain ⟨b, hb, rfl⟩ := List.mem_map.mp hmem
          exact hr b hb hc
        rw [List.flatMap_congr hone, List.flatMap_singleton']
      show replaceEach rest (replaceAll r.1 (reference r.2) s) = _
      rw [ih hrest, replaceAll, List.flatMap_assoc]
      apply List.flatMap_congr
      intro c _
      rw [one]
      split
      · exact hkept
      · exact List.flatMap_singleton ..

theorem escape_eq (e : Escaper) (s : List Char) : e.escape s = s.flatMap (one e.table) := replaceEach_eq e.ordered s

/-- **What was escaped is inert.** -/
theorem inert_escape (e : Escaper) (s : List Char) : Inert (e.escape s) := by
  rw [escape_eq]
  intro c hc
  obtain ⟨x, -, hx⟩ := List.mem_flatMap.mp hc
  by_cases hmem : x ∈ e.table.map Prod.fst
  · obtain ⟨name, hname, hone⟩ := one_of_mem hmem
    rw [hone] at hx
    exact e.inert _ hname c hx
  · rw [one_of_notMem hmem, List.mem_singleton] at hx
    subst hx
    exact fun hdelim => hmem (e.covers _ hdelim)

end Escaper

/-! ## References -/

/-- The references that a reader knows: names, and the characters they stand for. -/
structure CharRefs where
  table : List (List Char × Char)
  terminated : ∀ r ∈ table, ';' ∉ r.1
  distinct : (table.map Prod.fst).Nodup

namespace CharRefs

variable (known : CharRefs)

/-- The reference that a text begins with. -/
def find (s : List Char) : Option (List Char × Char) := known.table.find? fun r => (reference r.1).isPrefixOf s

/-- What is read after `n` characters that belong to a reference. -/
def decodeFrom : Nat → List Char → List Char
  | _, [] => []
  | n + 1, _ :: cs => decodeFrom n cs
  | 0, c :: cs =>
      match known.find (c :: cs) with
      | some r => r.2 :: decodeFrom (r.1.length + 1) cs
      | none => c :: decodeFrom 0 cs

/-- A text with its references replaced by what they stand for. -/
def decode (s : List Char) : List Char := known.decodeFrom 0 s

variable {known} {name rest : List Char}

theorem decodeFrom_skip (known : CharRefs) (s rest : List Char) :
    known.decodeFrom s.length (s ++ rest) = known.decode rest := by
  induction s with
  | nil => rfl
  | cons c s ih => exact ih

/-- A reference ends at its semicolon: no other one is a prefix of it. -/
theorem name_eq_of_prefix {a b : List Char} (ha : ';' ∉ a) (hb : ';' ∉ b)
    (h : (reference a).isPrefixOf (reference b ++ rest) = true) : a = b := by
  obtain ⟨tail, htail⟩ := List.isPrefixOf_iff_prefix.mp h
  unfold reference at htail
  simp only [List.cons_append, List.append_assoc, List.cons.injEq, true_and, List.nil_append] at htail
  have hcut : ∀ (xs ys : List Char), ';' ∉ xs → (xs ++ ';' :: ys).takeWhile (· ≠ ';') = xs := by
    intro xs ys hxs
    rw [List.takeWhile_append_of_pos, List.takeWhile_cons_of_neg (by simp), List.append_nil]
    intro c hc
    simp only [ne_eq, decide_eq_true_eq]
    rintro rfl
    exact hxs hc
  rw [← hcut a tail ha, htail, hcut b _ hb]

theorem find_reference (h : (name, c) ∈ known.table) : known.find (reference name ++ rest) = some (name, c) := by
  have hself : (reference name).isPrefixOf (reference name ++ rest) = true :=
    List.isPrefixOf_iff_prefix.mpr (List.prefix_append ..)
  unfold find
  cases hfind : known.table.find? fun r => (reference r.1).isPrefixOf (reference name ++ rest) with
  | none => exact absurd hself (by simpa using List.find?_eq_none.mp hfind _ h)
  | some r =>
      have hmem := List.mem_of_find?_eq_some hfind
      have hprefix := List.find?_some hfind
      have hname : r.1 = name := name_eq_of_prefix (known.terminated r hmem) (known.terminated _ h) hprefix
      have heq : r = (name, c) :=
        List.inj_on_of_nodup_map known.distinct hmem h hname
      rw [heq]

theorem find_of_ne (hc : c ≠ '&') : known.find (c :: s) = none := by
  unfold find
  rw [List.find?_eq_none]
  intro r _ hprefix
  obtain ⟨tail, htail⟩ := List.isPrefixOf_iff_prefix.mp hprefix
  exact hc (List.cons.inj htail).1.symm

/-- A reference is read as the character it stands for, -/
theorem decode_reference (h : (name, c) ∈ known.table) :
    known.decode (reference name ++ rest) = c :: known.decode rest := by
  have hskip : known.decodeFrom (name.length + 1) (name ++ [';'] ++ rest) = known.decode rest := by
    rw [← decodeFrom_skip known (name ++ [';']) rest, List.length_append]
    rfl
  have hfind : known.find ('&' :: (name ++ [';'] ++ rest)) = some (name, c) := find_reference h
  show known.decodeFrom 0 ('&' :: (name ++ [';'] ++ rest)) = _
  rw [decodeFrom, hfind]
  simp only
  rw [hskip]

/-- and a character that begins no reference as itself. -/
theorem decode_cons (hc : c ≠ '&') : known.decode (c :: s) = c :: known.decode s := by
  show known.decodeFrom 0 (c :: s) = _
  rw [decodeFrom, find_of_ne hc]
  rfl

theorem decode_append_plain (hs : '&' ∉ s) : known.decode (s ++ t) = s ++ known.decode t := by
  induction s with
  | nil => rfl
  | cons c s ih =>
      have hc : c ≠ '&' := fun h => hs (h ▸ List.mem_cons_self)
      rw [List.cons_append, decode_cons hc, ih fun h => hs (List.mem_cons_of_mem _ h), List.cons_append]

/-- The reader knows every reference of the writer. -/
def Knows (known : CharRefs) (e : Escaper) : Prop := ∀ r ∈ e.table, (r.2, r.1) ∈ known.table

/-- **Reading undoes escaping**, whatever follows. -/
theorem decode_escape {e : Escaper} (hknown : known.Knows e) (s t : List Char) :
    known.decode (e.escape s ++ t) = s ++ known.decode t := by
  rw [Escaper.escape_eq]
  induction s with
  | nil => rfl
  | cons c s ih =>
      rw [List.flatMap_cons, List.append_assoc]
      by_cases hmem : c ∈ e.table.map Prod.fst
      · obtain ⟨name, hname, hone⟩ := Escaper.one_of_mem hmem
        rw [hone, decode_reference (hknown _ hname), ih, List.cons_append]
      · have hc : c ≠ '&' := fun h => hmem (h ▸ e.ampersand)
        rw [Escaper.one_of_notMem hmem, List.singleton_append, decode_cons hc, ih, List.cons_append]

/-- HTML's references for the characters with a meaning in markup. -/
def standard : CharRefs where
  table := [("amp".toList, '&'), ("lt".toList, '<'), ("gt".toList, '>'), ("quot".toList, '"'), ("#39".toList, '\''),
    ("#x27".toList, '\'')]
  terminated := by decide
  distinct := by decide

end CharRefs

/-! ## Templates -/

/-- A piece of a template: its own text, or a place for a value. -/
inductive Piece (ι : Type) where
  | lit (s : String)
  | hole (i : ι)

abbrev Template (ι : Type) := List (Piece ι)

namespace Template

variable {ι : Type}

/-- The page. -/
def render (values : ι → String) : Template ι → String
  | [] => ""
  | .lit s :: t => s ++ render values t
  | .hole i :: t => values i ++ render values t

/-- The values go where content goes, and nothing in the template's own content reads as a reference. -/
def safe : Context → Template ι → Bool
  | _, [] => true
  | p, .lit s :: t => !(content p s.toList).contains '&' && safe (p.after s.toList) t
  | p, .hole _ :: t => p.isContent && safe p t

/-- Where the reader is behind the template. -/
def after : Context → Template ι → Context
  | p, [] => p
  | p, .lit s :: t => after (p.after s.toList) t
  | p, .hole _ :: t => after p t

/-- The markup of the template itself. -/
def markup : Context → Template ι → List Char
  | _, [] => []
  | p, .lit s :: t => Html.markup p s.toList ++ markup (p.after s.toList) t
  | p, .hole _ :: t => markup p t

/-- The content of the template, with these values in it. -/
def content (values : ι → String) : Context → Template ι → List Char
  | _, [] => []
  | p, .lit s :: t => Html.content p s.toList ++ content values (p.after s.toList) t
  | p, .hole i :: t => (values i).toList ++ content values p t

variable {values raw : ι → String} {known : CharRefs}

/-- The value in each place is inert, and is read as the raw one. -/
def Written (known : CharRefs) (values raw : ι → String) (t : Template ι) : Prop :=
  ∀ i, .hole i ∈ t → Inert (values i).toList ∧
    ∀ rest, known.decode ((values i).toList ++ rest) = (raw i).toList ++ known.decode rest

/-- **A page is read as its template**: the same markup, and the template's content with the raw values. -/
theorem read {t : Template ι} (hsafe : t.safe p = true) (hvalues : Written known values raw t) :
    p.after (t.render values).toList = t.after p ∧ Html.markup p (t.render values).toList = t.markup p ∧
      known.decode (Html.content p (t.render values).toList) = t.content raw p := by
  induction t generalizing p with
  | nil => exact ⟨rfl, rfl, rfl⟩
  | cons piece t ih =>
      have htail : Written known values raw t := fun i hi => hvalues i (List.mem_cons_of_mem _ hi)
      cases piece with
      | lit s =>
          obtain ⟨hplain, hrest⟩ := Bool.and_eq_true_iff.mp hsafe
          obtain ⟨hafter, hmarkup, hcontent⟩ := ih hrest htail
          have hamp : '&' ∉ Html.content p s.toList := by
            simpa using hplain
          rw [render, String.toList_append]
          refine ⟨?_, ?_, ?_⟩
          · rw [Context.after_append]
            exact hafter
          · rw [markup_append, hmarkup]
            rfl
          · rw [content_append, CharRefs.decode_append_plain hamp, hcontent]
            rfl
      | hole i =>
          obtain ⟨hp, hrest⟩ := Bool.and_eq_true_iff.mp hsafe
          obtain ⟨hafter, hmarkup, hcontent⟩ := ih hrest htail
          obtain ⟨hinert, hdecode⟩ := hvalues i List.mem_cons_self
          obtain ⟨hstay, hnone, hall⟩ := read_inert hp hinert
          rw [render, String.toList_append]
          refine ⟨?_, ?_, ?_⟩
          · rw [Context.after_append, hstay]
            exact hafter
          · rw [markup_append, hnone, hstay, hmarkup]
            rfl
          · rw [content_append, hall, hstay, hdecode, hcontent]
            rfl

/-! ### Composing templates -/

variable {κ : Type} {t u : Template ι}

theorem safe_append : safe p (t ++ u) = (safe p t && safe (after p t) u) := by
  induction t generalizing p with
  | nil => rfl
  | cons piece t ih =>
      cases piece with
      | lit s => simp only [List.cons_append, safe, after, ih, Bool.and_assoc]
      | hole i => simp only [List.cons_append, safe, after, ih, Bool.and_assoc]

theorem after_append : after p (t ++ u) = after (after p t) u := by
  induction t generalizing p with
  | nil => rfl
  | cons piece t ih =>
      cases piece with
      | lit s => exact ih
      | hole i => exact ih

theorem markup_append : markup p (t ++ u) = markup p t ++ markup (after p t) u := by
  induction t generalizing p with
  | nil => rfl
  | cons piece t ih =>
      cases piece with
      | lit s => simp only [List.cons_append, markup, after, ih, List.append_assoc]
      | hole i => exact ih

/-- Rename the holes. -/
def fill (f : ι → κ) (t : Template ι) : Template κ := t.map fun
  | .lit s => .lit s
  | .hole i => .hole (f i)

@[simp] theorem safe_fill (f : ι → κ) : safe p (t.fill f) = safe p t := by
  induction t generalizing p with
  | nil => rfl
  | cons piece t ih =>
      cases piece with
      | lit s => exact congrArg (_ && ·) ih
      | hole i => exact congrArg (_ && ·) ih

@[simp] theorem after_fill (f : ι → κ) : after p (t.fill f) = after p t := by
  induction t generalizing p with
  | nil => rfl
  | cons piece t ih =>
      cases piece with
      | lit s => exact ih
      | hole i => exact ih

/-- **The markup does not depend on the values.** -/
@[simp] theorem markup_fill (f : ι → κ) : markup p (t.fill f) = markup p t := by
  induction t generalizing p with
  | nil => rfl
  | cons piece t ih =>
      cases piece with
      | lit s => exact congrArg (_ ++ ·) ih
      | hole i => exact ih

theorem mem_fill {f : ι → κ} {k : κ} (h : .hole k ∈ t.fill f) : ∃ i, .hole i ∈ t ∧ f i = k := by
  obtain ⟨piece, hmem, hpiece⟩ := List.mem_map.mp h
  cases piece with
  | lit s => cases hpiece
  | hole i => exact ⟨i, hmem, Piece.hole.inj hpiece⟩

/-- A template that a reader of text can pass through. -/
def Whole (t : Template ι) : Prop := t.safe .text = true ∧ t.after .text = .text

instance (t : Template ι) : Decidable t.Whole := inferInstanceAs (Decidable (_ ∧ _))

/-- A page is read as this template with these values: the reader ends in text, has met the template's markup and
    nothing else, and has read the template's content with the values in their places. -/
structure Reads (known : CharRefs) (t : Template ι) (raw : ι → String) (html : String) : Prop where
  balanced : Context.text.after html.toList = .text
  markup : Html.markup .text html.toList = t.markup .text
  content : known.decode (Html.content .text html.toList) = t.content raw .text

/-- A page that is written with inert values. -/
theorem Whole.reads (h : t.Whole) (hvalues : Written known values raw t) : t.Reads known raw (t.render values) := by
  obtain ⟨hafter, hmarkup, hcontent⟩ := read h.1 hvalues
  exact ⟨hafter.trans h.2, hmarkup, hcontent⟩

theorem Whole.nil : Whole ([] : Template ι) := ⟨rfl, rfl⟩

theorem Whole.append (ht : t.Whole) (hu : u.Whole) : Whole (t ++ u) := by
  refine ⟨?_, ?_⟩
  · rw [safe_append, ht.1, ht.2, hu.1]
    rfl
  · rw [after_append, ht.2, hu.2]

theorem Whole.fill (h : t.Whole) (f : ι → κ) : (t.fill f).Whole := by
  refine ⟨?_, ?_⟩
  · rw [safe_fill, h.1]
  · rw [after_fill, h.2]

theorem Whole.flatMap {α : Type} {rows : List α} {f : α → Template ι} (h : ∀ a ∈ rows, (f a).Whole) :
    Whole (rows.flatMap f) := by
  induction rows with
  | nil => exact .nil
  | cons a rows ih =>
      rw [List.flatMap_cons]
      exact (h a List.mem_cons_self).append (ih fun b hb => h b (List.mem_cons_of_mem _ hb))

theorem markup_flatMap {α : Type} {rows : List α} {f : α → Template ι} (h : ∀ a ∈ rows, (f a).Whole) :
    markup .text (rows.flatMap f) = rows.flatMap fun a => markup .text (f a) := by
  induction rows with
  | nil => rfl
  | cons a rows ih =>
      rw [List.flatMap_cons, List.flatMap_cons, markup_append, (h a List.mem_cons_self).2,
        ih fun b hb => h b (List.mem_cons_of_mem _ hb)]

end Template

/-- A text that is read as itself wherever content is. -/
def Verbatim (s : String) : Prop := Inert s.toList ∧ '&' ∉ s.toList

instance (s : String) : Decidable (Verbatim s) := inferInstanceAs (Decidable (_ ∧ _))

theorem verbatim_iff {t : String} : Verbatim t ↔ ∀ c ∈ t.toList, c ∉ '&' :: delimiters := by
  simp only [Verbatim, Inert, List.mem_cons, not_or]
  refine ⟨fun h c hc => ⟨?_, h.1 c hc⟩, fun h => ⟨fun c hc => (h c hc).2, fun hamp => (h _ hamp).1 rfl⟩⟩
  rintro rfl
  exact h.2 hc

theorem Verbatim.append {s t : String} (hs : Verbatim s) (ht : Verbatim t) : Verbatim (s ++ t) := by
  rw [verbatim_iff] at hs ht ⊢
  intro c hc
  rw [String.toList_append] at hc
  rcases List.mem_append.mp hc with h | h
  · exact hs c h
  · exact ht c h

end Text.Html
