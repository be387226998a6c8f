import BambuBabu.Core.Slicer
import BambuBabu.Core.Text
import BambuBabu.Text.Regex

/-!
# `Core.Estimates` — the estimate of a slicing run, of `backend/core/slicer.py`

`_parse_estimated_time` searches what the slicer printed for three patterns, one after the other. The pattern classes
are those of Python's `re` on `str` (Unicode 15) under `IGNORECASE`.
-/

namespace BambuBabu

open Text

/-! ## Character classes -/

/-- The code points of the digit zero in each script; the other nine digits follow. -/
def zeros : List Nat := [
  0x30, 0x660, 0x6f0, 0x7c0, 0x966, 0x9e6, 0xa66, 0xae6, 0xb66, 0xbe6, 0xc66, 0xce6, 0xd66, 0xde6, 0xe50, 0xed0,
  0xf20, 0x1040, 0x1090, 0x17e0, 0x1810, 0x1946, 0x19d0, 0x1a80, 0x1a90, 0x1b50, 0x1bb0, 0x1c40, 0x1c50, 0xa620,
  0xa8d0, 0xa900, 0xa9d0, 0xa9f0, 0xaa50, 0xabf0, 0xff10, 0x104a0, 0x10d30, 0x11066, 0x110f0, 0x11136, 0x111d0,
  0x112f0, 0x11450, 0x114d0, 0x11650, 0x116c0, 0x11730, 0x118e0, 0x11950, 0x11c50, 0x11d50, 0x11da0, 0x11f50,
  0x16a60, 0x16ac0, 0x16b50, 0x1d7ce, 0x1d7d8, 0x1d7e2, 0x1d7ec, 0x1d7f6, 0x1e140, 0x1e2f0, 0x1e4f0, 0x1e950,
  0x1fbf0]

/-- Whether a character is one of the ten digits from `first` on. -/
def inBlock (c : Char) (first : Nat) : Bool := first ≤ c.toNat && c.toNat < first + 10

/-- `\d` -/
def isDecimal (c : Char) : Bool := zeros.any (inBlock c)

/-- The number a digit stands for. -/
def decimalValue (c : Char) : Nat :=
  match zeros.find? (inBlock c) with
  | some first => c.toNat - first
  | none => 0

/-- The characters that `IGNORECASE` takes for a small letter: its two cases, and the dotless, the dotted and the long
    forms of `i` and `s`. -/
def spellings (letter : Char) : List Char :=
  [letter, letter.toUpper] ++ if letter = 'i' then ['İ', 'ı'] else if letter = 's' then ['ſ'] else []

/-- A small letter of a pattern, in any case. -/
def caseless (letter c : Char) : Bool := (spellings letter).contains c

/-- `.` -/
def isDot (c : Char) : Bool := c ≠ '\n'

/-! ## Patterns -/

/-- A word of a pattern. -/
def word (letters : String) : Regex Char := .lits (letters.toList.map caseless)

/-- `(\d+)` -/
def number : Regex Char := (Regex.plus isDecimal).group

/-- `\s*` -/
def spaces : Regex Char := .many true isSpace

/-- `(\d+)h\s*(\d+)m` -/
def hoursMinutes : Regex Char := number.seq ((word "h").seq (spaces.seq (number.seq (word "m"))))

/-- `(\d+)\s*minutes?` -/
def minutesWord : Regex Char := number.seq (spaces.seq ((word "minute").seq (word "s").opt))

/-- `print\s*time.*?(\d+)` -/
def printTime : Regex Char :=
  (word "print").seq (spaces.seq ((word "time").seq ((Regex.many false isDot).seq number)))

/-- `int(digits)`. Longer texts than the interpreter converts are refused. -/
def intOf (digits : List Char) : Except String Nat :=
  if 4300 < digits.length then
    .error <| s!"Exceeds the limit (4300 digits) for integer string conversion: value has {digits.length} digits; "
      ++ "use sys.set_int_max_str_digits() to increase the limit"
  else .ok (digits.foldl (fun n c => 10 * n + decimalValue c) 0)

/-- `_parse_estimated_time` -/
def parseEstimatedTime (output : String) : Except String (Option Nat) :=
  match [hoursMinutes, minutesWord, printTime].findSome? fun pat => pat.search output.toList with
  | some [hours, minutes] => do
    let h ← intOf hours
    let m ← intOf minutes
    return some (h * 60 + m)
  | some [minutes] => do
    let m ← intOf minutes
    return some m
  | _ => .ok none

/-- The end of `_orca_slice`, when the run left a printable project. -/
def orcaSlice (stdout stderr : String) : SliceOutcome :=
  match parseEstimatedTime (stdout ++ stderr) with
  | .ok est => .sliced est
  | .error msg => .raised msg

example : parseEstimatedTime "Estimated printing time: 2h 34m 0s" = .ok (some 154) := by decide +kernel

example : parseEstimatedTime "Print time on this plate: about 45 min" = .ok (some 45) := by decide +kernel

example : parseEstimatedTime "Estimated printing time: 34m 12s" = .ok none := by decide +kernel

/-! ## The classes are apart -/

variable {c letter : Char} {n : Nat} {letters xs : List Char}

/-- The letters of the patterns. -/
def patternLetters : List Char := ['p', 'r', 'i', 'n', 't', 'm', 'e', 'u', 'h', 's']

/-- In no spelling is one of them a digit or white space. -/
theorem spellings_apart :
    (patternLetters.all fun l => (spellings l).all fun c => !isDecimal c && !isSpace c) = true := by decide +kernel

theorem apart_of_caseless (hl : letter ∈ patternLetters) (hc : caseless letter c = true) :
    isDecimal c = false ∧ isSpace c = false := by
  have hletter := List.all_eq_true.mp spellings_apart letter hl
  simpa using List.all_eq_true.mp hletter c (List.contains_iff_mem.mp hc)

theorem caseless_of_isDecimal (hl : letter ∈ patternLetters) (hc : isDecimal c = true) :
    caseless letter c = false := by
  apply Bool.eq_false_iff.mpr
  intro hspelled
  rw [(apart_of_caseless hl hspelled).1] at hc
  cases hc

theorem caseless_of_isSpace (hl : letter ∈ patternLetters) (hc : isSpace c = true) : caseless letter c = false := by
  apply Bool.eq_false_iff.mpr
  intro hspelled
  rw [(apart_of_caseless hl hspelled).2] at hc
  cases hc

/-- What a word of a pattern matches holds neither. -/
theorem apart_of_fits (hl : letters ⊆ patternLetters) (hfits : Regex.Fits (letters.map caseless) xs) :
    ∀ c ∈ xs, isDecimal c = false ∧ isSpace c = false := by
  induction letters generalizing xs with
  | nil =>
    cases hfits
    simp
  | cons l letters ih =>
    obtain ⟨hletter, hrest⟩ := List.cons_subset.mp hl
    obtain ⟨x, ys, hx, hys, rfl⟩ := List.forall₂_cons_left_iff.mp hfits
    intro c hc
    rcases List.mem_cons.mp hc with rfl | hmem
    · exact apart_of_caseless hletter hx
    · exact ih hrest hys c hmem

/-- A digit is no white space. -/
theorem isSpace_of_isDecimal (h : isDecimal c = true) : isSpace c = false := by
  have hall : (zeros.all fun first => (List.range 10).all fun i => !isSpace (Char.ofNat (first + i))) = true := by
    decide +kernel
  obtain ⟨first, hmem, hblock⟩ := List.any_eq_true.mp h
  simp only [inBlock, Bool.and_eq_true, decide_eq_true_eq] at hblock
  have hplace : c.toNat - first ∈ List.range 10 := List.mem_range.mpr (by omega)
  have hspace := List.all_eq_true.mp (List.all_eq_true.mp hall first hmem) _ hplace
  rw [Nat.add_sub_cancel' hblock.1, Char.ofNat_toNat] at hspace
  simpa using hspace

theorem isDecimal_of_isSpace (h : isSpace c = true) : isDecimal c = false := by
  apply Bool.eq_false_iff.mpr
  intro hdecimal
  rw [isSpace_of_isDecimal hdecimal] at h
  cases h

/-! ## Numbers in their own digits -/

theorem inBlock_of_isDigit (h : c.isDigit = true) : inBlock c 0x30 = true := by
  obtain ⟨hlow, hhigh⟩ : 48 ≤ c.toNat ∧ c.toNat ≤ 57 := by
    simp only [Char.isDigit, Bool.and_eq_true, decide_eq_true_eq, ge_iff_le, UInt32.le_iff_toNat_le] at h
    exact h
  simp only [inBlock, Bool.and_eq_true, decide_eq_true_eq]
  omega

theorem isDecimal_of_isDigit (h : c.isDigit = true) : isDecimal c = true :=
  List.any_eq_true.mpr ⟨0x30, List.mem_cons_self, inBlock_of_isDigit h⟩

theorem decimalValue_of_isDigit (h : c.isDigit = true) : decimalValue c = c.toNat - '0'.toNat := by
  have hfind : zeros.find? (inBlock c) = some 0x30 := List.find?_cons_of_pos (inBlock_of_isDigit h)
  unfold decimalValue
  rw [hfind]
  rfl

theorem isDecimal_of_mem_toDigits (h : c ∈ Nat.toDigits 10 n) : isDecimal c = true :=
  isDecimal_of_isDigit (Nat.isDigit_of_mem_toDigits (by decide) (by decide) h)

/-- **A number that is not too long is read back.** -/
theorem intOf_toDigits (h : (Nat.toDigits 10 n).length ≤ 4300) : intOf (Nat.toDigits 10 n) = .ok n := by
  have hvalue : (Nat.toDigits 10 n).foldl (fun n c => 10 * n + decimalValue c) 0
      = (Nat.toDigits 10 n).foldl (fun n c => 10 * n + (c.toNat - '0'.toNat)) 0 := by
    apply List.foldl_ext
    intro m c hc
    rw [decimalValue_of_isDigit (Nat.isDigit_of_mem_toDigits (by decide) (by decide) hc)]
  unfold intOf
  rw [if_neg (by omega), hvalue]
  exact congrArg Except.ok Nat.ofDigitChars_ten_toDigits

/-- Hours, minutes and seconds have two digits at most. -/
theorem intOf_small (h : n < 60) : intOf (Nat.toDigits 10 n) = .ok n := by
  have hlength : (Nat.toDigits 10 n).length ≤ 2 :=
    (Nat.length_toDigits_le_iff (by decide) (by decide)).mpr (by omega)
  exact intOf_toDigits (by omega)

end BambuBabu
