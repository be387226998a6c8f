import Mathlib.Data.Rat.Floor
import Mathlib.Algebra.Order.Ring.Rat
import Mathlib.Tactic.Linarith
import Mathlib.Tactic.Positivity
import Mathlib.Tactic.NormNum

/-!
# `Core.Text` — the Python text operations the modelled code uses

Substring and prefix tests on strings, and the renderings of numbers that reach log and error texts.
-/

namespace BambuBabu

/-- `pat in text`, on characters. -/
def occursIn (pat : List Char) : List Char → Bool
  | [] => pat.isEmpty
  | c :: cs => pat.isPrefixOf (c :: cs) || occursIn pat cs

/-- `pat in text`. -/
def contains (pat text : String) : Bool := occursIn pat.toList text.toList

/-- `text.startswith(pat)`. -/
def startsWith (pat text : String) : Bool := pat.toList.isPrefixOf text.toList

/-- `text.endswith(pat)`. -/
def endsWith (pat text : String) : Bool := pat.toList.isSuffixOf text.toList

/-- `str.isspace` of one character -/
def isSpace (c : Char) : Bool :=
  let n := c.toNat
  (9 ≤ n && n ≤ 13) || (28 ≤ n && n ≤ 32) || n = 0x85 || n = 0xA0 || n = 0x1680 || (0x2000 ≤ n && n ≤ 0x200A) ||
    n = 0x2028 || n = 0x2029 || n = 0x202F || n = 0x205F || n = 0x3000

/-- A control character: a code point below 32, or 127. -/
def isControl (c : Char) : Bool := c.toNat < 32 || c.toNat = 127

/-- `text.strip()` -/
def strip (text : List Char) : List Char := ((text.dropWhile isSpace).reverse.dropWhile isSpace).reverse

/-- `text.replace(old, new)` for an `old` of one character. -/
def replaceChar (old : Char) (new text : String) : String :=
  String.ofList (text.toList.flatMap fun c => if c = old then new.toList else [c])

/-- The integer nearest to `q`, a tie going to the even neighbour. -/
def roundHalfEven (q : ℚ) : Int :=
  let n := ⌊q⌋
  let r := q - n
  if r < 1 / 2 then n
  else if 1 / 2 < r then n + 1
  else if n % 2 = 0 then n else n + 1

/-- `round(q, digits)` -/
def roundTo (digits : Nat) (q : ℚ) : ℚ := roundHalfEven (q * 10 ^ digits) / 10 ^ digits

/-- The digits of `n`, padded with zeros to at least `width`. -/
def padded (width n : Nat) : String :=
  let ds := toString n
  String.ofList (List.replicate (width - ds.length) '0') ++ ds

/-- `f"{q:.<digits>f}"` -/
def fixedPoint (digits : Nat) (q : ℚ) : String :=
  let n := roundHalfEven (q * (10 : ℚ) ^ digits)
  let sign := if n < 0 then "-" else ""
  let whole := toString (n.natAbs / 10 ^ digits)
  if digits = 0 then sign ++ whole
  else sign ++ whole ++ "." ++ padded digits (n.natAbs % 10 ^ digits)

/-- The double nearest to a whole number, a tie going to the even significand. -/
def nearestDouble (n : Nat) : Nat :=
  let unit : Nat := 2 ^ (n.log2 - 52)
  (roundHalfEven ((n : ℚ) / unit)).toNat * unit

/-- The number with the fewest significant digits that stands for the double `d`. -/
def shortestDecimal (d : Nat) : Nat :=
  let rounded := fun k => (roundHalfEven ((d : ℚ) / 10 ^ k)).toNat * 10 ^ k
  (((List.range (toString d).length).reverse.map rounded).find? fun m => nearestDouble m = d).getD d

/-- `str` of a float from `1e16` on, in scientific notation. -/
def scientific (n : Nat) : String :=
  let digits := (toString (shortestDecimal (nearestDouble n))).toList
  let fraction := ((digits.drop 1).reverse.dropWhile (· = '0')).reverse
  String.ofList (digits.take 1 ++ if fraction = [] then [] else '.' :: fraction) ++ "e+" ++
    padded 2 (digits.length - 1)

/-- `str(q)` of a float that was rounded to two decimals: at least one digit after the point, no trailing
    zero after that. -/
def floatText (q : ℚ) : String :=
  if 10 ^ 16 ≤ q then scientific q.floor.toNat
  else if q ≤ -10 ^ 16 then "-" ++ scientific (-q).floor.toNat
  else
    let tenths := roundHalfEven (q * 10)
    if (tenths : ℚ) = q * 10 then fixedPoint 1 q else fixedPoint 2 q

/-- `value or fallback` on an optional number, where `None` and `0` count as false. -/
def orElseText (value : Option Nat) (fallback : String) : String :=
  match value with
  | none => fallback
  | some 0 => fallback
  | some n => toString n

example : floatText (25 / 2) = "12.5" ∧ floatText (10 ^ 16) = "1e+16" := by decide +kernel

example : fixedPoint 1 (1225 / 100) = "12.2" := by decide +kernel

/-! ## Rounding -/

/-- A whole number is its own rounding. -/
theorem roundHalfEven_intCast (n : Int) : roundHalfEven n = n := by
  unfold roundHalfEven
  have hfract : (n : ℚ) - ((⌊(n : ℚ)⌋ : Int) : ℚ) < 1 / 2 := by
    rw [Int.floor_intCast, sub_self]
    norm_num
  rw [if_pos hfract, Int.floor_intCast]

/-- The rounding is one of the two whole numbers next to `q`. -/
theorem floor_le_roundHalfEven (q : ℚ) : ⌊q⌋ ≤ roundHalfEven q ∧ roundHalfEven q ≤ ⌊q⌋ + 1 := by
  unfold roundHalfEven
  simp only
  split_ifs <;> omega

/-- **Rounding keeps the order.** -/
theorem roundHalfEven_mono {p q : ℚ} (h : p ≤ q) : roundHalfEven p ≤ roundHalfEven q := by
  rcases (Int.floor_mono h).lt_or_eq with hlt | hsame
  · -- a whole number lies between the two
    calc roundHalfEven p ≤ ⌊p⌋ + 1 := (floor_le_roundHalfEven p).2
      _ ≤ ⌊q⌋ := hlt
      _ ≤ roundHalfEven q := (floor_le_roundHalfEven q).1
  · -- the same two neighbours, and `q` is not the one further down
    unfold roundHalfEven
    simp only [hsame]
    have hrest : p - ((⌊q⌋ : Int) : ℚ) ≤ q - ((⌊q⌋ : Int) : ℚ) := by linarith
    split_ifs <;> first | omega | (exfalso; linarith)

theorem roundTo_mono (digits : Nat) {p q : ℚ} (h : p ≤ q) : roundTo digits p ≤ roundTo digits q := by
  have hpow : (0 : ℚ) < 10 ^ digits := by positivity
  have hround : roundHalfEven (p * 10 ^ digits) ≤ roundHalfEven (q * 10 ^ digits) :=
    roundHalfEven_mono (mul_le_mul_of_nonneg_right h hpow.le)
  unfold roundTo
  exact div_le_div_of_nonneg_right (Int.cast_le.mpr hround) hpow.le

theorem roundTo_intCast (digits : Nat) (n : Int) : roundTo digits n = n := by
  have hpow : (10 : ℚ) ^ digits ≠ 0 := by positivity
  have hwhole : (n : ℚ) * 10 ^ digits = ((n * 10 ^ digits : Int) : ℚ) := by push_cast; rfl
  unfold roundTo
  rw [hwhole, roundHalfEven_intCast]
  push_cast
  exact mul_div_cancel_right₀ _ hpow

/-- The last character of a text that ends in `pat` is the last one of `pat`. -/
theorem endsWith_getLast {pat text : String} (h : endsWith pat text = true) (hne : pat.toList ≠ []) :
    text.toList.getLast? = pat.toList.getLast? := by
  obtain ⟨front, htext⟩ := List.isSuffixOf_iff_suffix.mp h
  rw [← htext, List.getLast?_append_of_ne_nil front hne]

end BambuBabu
