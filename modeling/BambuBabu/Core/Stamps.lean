import Mathlib.Data.String.Basic
import Mathlib.Tactic.Ring

/-!
# `Core.Stamps` — the time stamp in a file name

`strftime` writes every component of a time in a fixed number of digits, from the year downwards, so the texts are
ordered as the times are (`strftime_lt_iff`). That is what code relies on which sorts files by their names.
-/

namespace BambuBabu

/-! ## Numbers of a fixed width -/

/-- The last `width` decimal digits of `n`, with leading zeros. -/
def fixedWidth : Nat → Nat → List Char
  | 0, _ => []
  | width + 1, n => fixedWidth width (n / 10) ++ [Nat.digitChar (n % 10)]

variable {width m n : Nat} {a b x y : List Char}

theorem length_fixedWidth : ∀ width n, (fixedWidth width n).length = width
  | 0, _ => rfl
  | width + 1, n => by rw [fixedWidth, List.length_append, length_fixedWidth width, List.length_singleton]

/-- Texts whose first parts are equally long are compared by these first. -/
theorem append_lt_append_iff (h : a.length = b.length) : a ++ x < b ++ y ↔ a < b ∨ a = b ∧ x < y := by
  induction a generalizing b with
  | nil =>
      obtain rfl := List.length_eq_zero_iff.mp h.symm
      simp
  | cons c cs ih =>
      obtain ⟨d, ds, rfl⟩ := List.exists_cons_of_length_eq_add_one h.symm
      rw [List.cons_append, List.cons_append, List.cons_lt_cons_iff, List.cons_lt_cons_iff, List.cons.injEq,
        ih (Nat.succ.inj h)]
      tauto

theorem digitChar_lt_iff (hm : m < 10) (hn : n < 10) : Nat.digitChar m < Nat.digitChar n ↔ m < n := by
  have hall : ∀ m < 10, ∀ n < 10, (Nat.digitChar m < Nat.digitChar n ↔ m < n) := by decide
  exact hall m hm n hn

theorem digitChar_inj (hm : m < 10) (hn : n < 10) : Nat.digitChar m = Nat.digitChar n ↔ m = n := by
  have hall : ∀ m < 10, ∀ n < 10, (Nat.digitChar m = Nat.digitChar n ↔ m = n) := by decide
  exact hall m hm n hn

theorem fixedWidth_inj : ∀ {width m n : Nat}, m < 10 ^ width → n < 10 ^ width →
    (fixedWidth width m = fixedWidth width n ↔ m = n)
  | 0, m, n, hm, hn => by
      rw [pow_zero] at hm hn
      exact ⟨fun _ => by omega, fun _ => rfl⟩
  | width + 1, m, n, hm, hn => by
      rw [pow_succ] at hm hn
      refine ⟨fun h => ?_, fun h => by rw [h]⟩
      rw [fixedWidth, fixedWidth] at h
      have hlength : (fixedWidth width (m / 10)).length = (fixedWidth width (n / 10)).length := by
        rw [length_fixedWidth, length_fixedWidth]
      obtain ⟨hfront, hlast⟩ := List.append_inj h hlength
      have hdiv : m / 10 = n / 10 := (fixedWidth_inj (by omega) (by omega)).mp hfront
      have hmod : m % 10 = n % 10 :=
        (digitChar_inj (Nat.mod_lt m (by decide)) (Nat.mod_lt n (by decide))).mp (List.cons.inj hlast).1
      omega

/-- **Numbers of one width are ordered as their digits are.** -/
theorem fixedWidth_lt_iff : ∀ {width m n : Nat}, m < 10 ^ width → n < 10 ^ width →
    (fixedWidth width m < fixedWidth width n ↔ m < n)
  | 0, m, n, hm, hn => by
      rw [pow_zero] at hm hn
      exact ⟨fun h => absurd h (List.lt_irrefl _), fun _ => by omega⟩
  | width + 1, m, n, hm, hn => by
      rw [pow_succ] at hm hn
      have hm' : m / 10 < 10 ^ width := by omega
      have hn' : n / 10 < 10 ^ width := by omega
      have hlength : (fixedWidth width (m / 10)).length = (fixedWidth width (n / 10)).length := by
        rw [length_fixedWidth, length_fixedWidth]
      have hlast : [Nat.digitChar (m % 10)] < [Nat.digitChar (n % 10)] ↔ m % 10 < n % 10 := by
        rw [List.cons_lt_cons_iff]
        simp [digitChar_lt_iff (Nat.mod_lt m (by decide)) (Nat.mod_lt n (by decide))]
      rw [fixedWidth, fixedWidth, append_lt_append_iff hlength, fixedWidth_lt_iff hm' hn', fixedWidth_inj hm' hn',
        hlast]
      omega

/-- One component of a text, and what follows it. -/
theorem fixedWidth_append_lt_iff (hm : m < 10 ^ width) (hn : n < 10 ^ width) :
    fixedWidth width m ++ x < fixedWidth width n ++ y ↔ m < n ∨ m = n ∧ x < y := by
  have hlength : (fixedWidth width m).length = (fixedWidth width n).length := by
    rw [length_fixedWidth, length_fixedWidth]
  rw [append_lt_append_iff hlength, fixedWidth_lt_iff hm hn, fixedWidth_inj hm hn]

/-! ## Times -/

/-- What `datetime.now(timezone.utc)` can return; the system clock counts from 1970. -/
structure UtcTime where
  year : Nat
  month : Nat
  day : Nat
  hour : Nat
  minute : Nat
  second : Nat
  microsecond : Nat
  year_ge : 1970 ≤ year
  year_le : year ≤ 9999
  month_pos : 1 ≤ month
  month_le : month ≤ 12
  day_pos : 1 ≤ day
  day_le : day ≤ 31
  hour_lt : hour < 24
  minute_lt : minute < 60
  second_lt : second < 60
  microsecond_lt : microsecond < 1000000
  deriving DecidableEq

namespace UtcTime

/-- The components, the coarsest first. -/
def components (t : UtcTime) : List Nat := [t.year, t.month, t.day, t.hour, t.minute, t.second, t.microsecond]

/-- `t` is earlier than `u`. -/
def Before (t u : UtcTime) : Prop := t.components < u.components

instance (t u : UtcTime) : Decidable (t.Before u) := inferInstanceAs (Decidable (t.components < u.components))

/-- `strftime("%Y%m%dT%H%M%S%fZ")` -/
def strftime (t : UtcTime) : List Char :=
  fixedWidth 4 t.year ++ (fixedWidth 2 t.month ++ (fixedWidth 2 t.day ++ ('T' ::
    (fixedWidth 2 t.hour ++ (fixedWidth 2 t.minute ++ (fixedWidth 2 t.second ++
      (fixedWidth 6 t.microsecond ++ ['Z'])))))))

theorem length_strftime (t : UtcTime) : t.strftime.length = 22 := by
  simp only [strftime, List.length_append, List.length_cons, length_fixedWidth, List.length_nil]

/-- **The texts are ordered as the times are.** -/
theorem strftime_lt_iff (t u : UtcTime) : t.strftime < u.strftime ↔ t.Before u := by
  have hyear : t.year < 10 ^ 4 ∧ u.year < 10 ^ 4 := ⟨by have := t.year_le; omega, by have := u.year_le; omega⟩
  have hmonth : t.month < 10 ^ 2 ∧ u.month < 10 ^ 2 := ⟨by have := t.month_le; omega, by have := u.month_le; omega⟩
  have hday : t.day < 10 ^ 2 ∧ u.day < 10 ^ 2 := ⟨by have := t.day_le; omega, by have := u.day_le; omega⟩
  have hhour : t.hour < 10 ^ 2 ∧ u.hour < 10 ^ 2 := ⟨by have := t.hour_lt; omega, by have := u.hour_lt; omega⟩
  have hminute : t.minute < 10 ^ 2 ∧ u.minute < 10 ^ 2 :=
    ⟨by have := t.minute_lt; omega, by have := u.minute_lt; omega⟩
  have hsecond : t.second < 10 ^ 2 ∧ u.second < 10 ^ 2 :=
    ⟨by have := t.second_lt; omega, by have := u.second_lt; omega⟩
  have hmicro : t.microsecond < 10 ^ 6 ∧ u.microsecond < 10 ^ 6 := ⟨t.microsecond_lt, u.microsecond_lt⟩
  unfold strftime Before components
  rw [fixedWidth_append_lt_iff hyear.1 hyear.2, fixedWidth_append_lt_iff hmonth.1 hmonth.2,
    fixedWidth_append_lt_iff hday.1 hday.2, List.cons_lt_cons_self, fixedWidth_append_lt_iff hhour.1 hhour.2,
    fixedWidth_append_lt_iff hminute.1 hminute.2, fixedWidth_append_lt_iff hsecond.1 hsecond.2,
    fixedWidth_append_lt_iff hmicro.1 hmicro.2]
  simp only [List.cons_lt_cons_iff, List.lt_irrefl, and_false, or_false]

theorem components_inj {t u : UtcTime} (h : t.components = u.components) : t = u := by
  cases t
  cases u
  simp only [components, List.cons.injEq, and_true] at h
  obtain ⟨rfl, rfl, rfl, rfl, rfl, rfl, rfl⟩ := h
  rfl

/-- Different times have different texts. -/
theorem strftime_inj {t u : UtcTime} (h : t.strftime = u.strftime) : t = u := by
  have hnot : ¬ t.Before u ∧ ¬ u.Before t := by
    rw [← strftime_lt_iff, ← strftime_lt_iff, h]
    exact ⟨List.lt_irrefl _, List.lt_irrefl _⟩
  exact components_inj (le_antisymm (not_lt.mp hnot.2) (not_lt.mp hnot.1))

end UtcTime

example : (⟨2026, 8, 21, 9, 5, 0, 42, by decide, by decide, by decide, by decide, by decide, by decide, by decide,
    by decide, by decide, by decide⟩ : UtcTime).strftime = "20260821T090500000042Z".toList := by decide

end BambuBabu
