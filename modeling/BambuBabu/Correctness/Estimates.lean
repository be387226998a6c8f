import BambuBabu.Core.Estimates
import BambuBabu.Db.Crud
import Mathlib.Data.List.TakeWhile

/-!
# `Correctness.Estimates` — the printed duration and the estimate

The slicer prints a duration of days, hours, minutes and seconds, from its first unit that is not zero. Three
patterns read it. The first wants hours and minutes and drops the days; the second wants the word `minutes`, which is
not there; the last, for everything else, wants `print time` where the slicer writes `printing time`.

* `Printout` — a duration in a text that has no other digits.
* `Readable` — the condition: no days, and an hour or more unless `print time` stands before the duration on its line.
* `estimate_iff` — **a duration is read as its whole minutes exactly when it is readable**, and exactly then the
  queue orders its job against those with readable durations as the durations are ordered.
-/

namespace BambuBabu

open Text

/-! ## What the slicer prints -/

/-- A duration in units. -/
structure Duration where
  days : Nat
  hours : Nat
  minutes : Nat
  seconds : Nat
  hours_lt : hours < 24
  minutes_lt : minutes < 60
  seconds_lt : seconds < 60

namespace Duration

variable {d : Duration}

def wholeMinutes (d : Duration) : Nat := 1440 * d.days + 60 * d.hours + d.minutes

/-- The units from the first that is not zero. -/
def fields (d : Duration) : List (Nat × Char) :=
  [(d.days, 'd'), (d.hours, 'h'), (d.minutes, 'm'), (d.seconds, 's')].dropWhile fun f => f.1 = 0

def text (d : Duration) : String := " ".intercalate (d.fields.map fun f => s!"{f.1}{f.2}")

/-- The fields of the minutes and the seconds. -/
def minutesText (d : Duration) : List Char :=
  Nat.toDigits 10 d.minutes ++ 'm' :: ' ' :: (Nat.toDigits 10 d.seconds ++ ['s'])

/-- The fields of the hours, the minutes and the seconds. -/
def hoursText (d : Duration) : List Char := Nat.toDigits 10 d.hours ++ 'h' :: ' ' :: d.minutesText

theorem text_of_days (h : 0 < d.days) : d.text.toList = Nat.toDigits 10 d.days ++ 'd' :: ' ' :: d.hoursText := by
  have hdays : d.days ≠ 0 := by omega
  simp [text, fields, hdays, hoursText, minutesText]

theorem text_of_hours (hdays : d.days = 0) (h : 0 < d.hours) : d.text.toList = d.hoursText := by
  have hhours : d.hours ≠ 0 := by omega
  simp [text, fields, hdays, hhours, hoursText, minutesText]

theorem text_of_minutes (hdays : d.days = 0) (hhours : d.hours = 0) (h : 0 < d.minutes) :
    d.text.toList = d.minutesText := by
  have hminutes : d.minutes ≠ 0 := by omega
  simp [text, fields, hdays, hhours, hminutes, minutesText]

theorem minutesText_append (d : Duration) (after : List Char) : d.minutesText ++ after
    = Nat.toDigits 10 d.minutes ++ 'm' :: ' ' :: (Nat.toDigits 10 d.seconds ++ 's' :: after) := by
  simp [minutesText]

end Duration

/-- A text without digits. -/
def Plain (xs : List Char) : Prop := ∀ c ∈ xs, isDecimal c = false

theorem plain_of_all {xs : List Char} (h : xs.all (fun c => !isDecimal c) = true) : Plain xs := by
  intro c hc
  simpa using List.all_eq_true.mp h c hc

/-- What a slicer run prints: a duration in a text that has no other digits. -/
structure Printout where
  before : String
  duration : Duration
  after : String
  before_plain : Plain before.toList
  after_plain : Plain after.toList

/-- What is printed before the duration. -/
def Printout.front (o : Printout) : String := o.before ++ "Estimated printing time: "

def Printout.text (o : Printout) : String := o.front ++ o.duration.text ++ o.after

/-- `print`, white space and `time` in any case, and no line end behind them. -/
def AtPrintTime (xs : List Char) : Prop :=
  ∃ print gap time behind, xs = print ++ (gap ++ (time ++ behind)) ∧
    Regex.Fits ("print".toList.map caseless) print ∧ (∀ c ∈ gap, isSpace c = true) ∧
    Regex.Fits ("time".toList.map caseless) time ∧ '\n' ∉ behind

/-- No days, and an hour or more unless `print time` stands before the duration on its line. -/
def Printout.Readable (o : Printout) : Prop :=
  o.duration.days = 0 ∧ (0 < o.duration.hours ∨ ∃ line, line <:+ o.front.toList ∧ AtPrintTime line)

theorem Printout.front_plain (o : Printout) : Plain o.front.toList := by
  have hlabel : Plain "Estimated printing time: ".toList := plain_of_all (by decide +kernel)
  intro c hc
  rw [front, String.toList_append, List.mem_append] at hc
  rcases hc with hc | hc
  · exact o.before_plain c hc
  · exact hlabel c hc

/-! ## The patterns that begin with a number -/

variable {n : Nat} {x : Char} {front after xs ys : List Char} {k : Regex Char} {d : Duration}

theorem digits_isDecimal (n : Nat) : ∀ c ∈ Nat.toDigits 10 n, isDecimal c = true :=
  fun _ => isDecimal_of_mem_toDigits

/-- A word starts with a letter. -/
theorem run_word_of_not {letters : String} (hl : letters.toList.head?.any patternLetters.contains = true)
    (hx : ∀ l ∈ patternLetters, caseless l x = false) : ((word letters).seq k).run (x :: xs) = [] := by
  unfold word
  cases hletters : letters.toList with
  | nil =>
    rw [hletters] at hl
    cases hl
  | cons l ls =>
    rw [hletters] at hl
    exact Regex.run_lits_seq_of_not (hx l (List.contains_iff_mem.mp hl))

theorem word_digit {letters : String} (hl : letters.toList.head?.any patternLetters.contains = true) :
    ∀ x xs, isDecimal x = true → ((word letters).seq k).run (x :: xs) = [] := by
  intro x xs hx
  exact run_word_of_not hl fun l hmem => caseless_of_isDecimal hmem hx

theorem word_space {letters : String} (hl : letters.toList.head?.any patternLetters.contains = true) :
    ∀ x xs, isSpace x = true → ((word letters).seq k).run (x :: xs) = [] := by
  intro x xs hx
  exact run_word_of_not hl fun l hmem => caseless_of_isSpace hmem hx

/-- Behind the number of `hoursMinutes` stands an `h`. -/
theorem run_hours_of_not (hx : caseless 'h' x = false) : ((word "h").seq k).run (x :: xs) = [] :=
  Regex.run_lits_seq_of_not hx

/-- Behind that of `minutesWord` stands white space or an `m`. -/
theorem run_minute_of_not (hspace : isSpace x = false) (hx : caseless 'm' x = false) :
    (spaces.seq ((word "minute").seq k)).run (x :: xs) = [] := by
  unfold spaces
  rw [Regex.run_greedy_seq (word_space (by decide)), List.dropWhile_cons_of_neg (by simp [hspace])]
  exact Regex.run_lits_seq_of_not hx

theorem run_minute_blank : (spaces.seq ((word "minute").seq k)).run ('m' :: ' ' :: xs) = [] := by
  unfold spaces
  rw [Regex.run_greedy_seq (word_space (by decide))]
  calc ((word "minute").seq k).run ('m' :: ' ' :: xs)
      = ((word "inute").seq k).run (' ' :: xs) := Regex.run_lits_seq_cons (by decide)
    _ = [] := Regex.run_lits_seq_of_not (by decide)

/-- No white space is skipped in front of a number. -/
theorem dropWhile_digits (n : Nat) (xs : List Char) :
    (Nat.toDigits 10 n ++ xs).dropWhile isSpace = Nat.toDigits 10 n ++ xs := by
  cases hdigits : Nat.toDigits 10 n with
  | nil => exact absurd hdigits Nat.toDigits_ne_nil
  | cons c cs =>
    have hc : isDecimal c = true := digits_isDecimal n c (by rw [hdigits]; exact List.mem_cons_self)
    rw [List.cons_append, List.dropWhile_cons_of_neg (by simp [isSpace_of_isDecimal hc])]

/-- **Hours and minutes are read where they stand.** -/
theorem run_hoursMinutes (h m : Nat) :
    hoursMinutes.run (Nat.toDigits 10 h ++ 'h' :: ' ' :: (Nat.toDigits 10 m ++ 'm' :: ys))
      = [([Nat.toDigits 10 h, Nat.toDigits 10 m], ys)] := by
  have hminutes : (number.seq (word "m")).run (Nat.toDigits 10 m ++ 'm' :: ys) = [([Nat.toDigits 10 m], ys)] := by
    unfold number
    rw [Regex.run_number_seq (digits_isDecimal m) (by decide) _ Nat.toDigits_ne_nil]
    · rfl
    · intro x xs hx
      have hletter : caseless 'm' x = false := caseless_of_isDecimal (by decide) hx
      exact Regex.run_one_seq_of_not hletter
  have hblank : (spaces.seq (number.seq (word "m"))).run (' ' :: (Nat.toDigits 10 m ++ 'm' :: ys))
      = [([Nat.toDigits 10 m], ys)] := by
    unfold spaces
    rw [Regex.run_greedy_seq, List.dropWhile_cons_of_pos (by decide), dropWhile_digits, hminutes]
    intro x xs hx
    exact Regex.run_number_seq_of_not (isDecimal_of_isSpace hx)
  have hletter : ((word "h").seq (spaces.seq (number.seq (word "m")))).run
      ('h' :: ' ' :: (Nat.toDigits 10 m ++ 'm' :: ys)) = [([Nat.toDigits 10 m], ys)] := by
    have hfits : Regex.Fits ("h".toList.map caseless) ['h'] := .cons (by decide) .nil
    rw [← hblank]
    exact Regex.run_lits_seq hfits
  unfold hoursMinutes
  unfold number at hletter ⊢
  rw [Regex.run_number_seq (digits_isDecimal h) (by decide) (word_digit (by decide)) Nat.toDigits_ne_nil, hletter]
  rfl

/-- A pattern that begins with a number and wants neither of the two units behind it. -/
theorem search_minutesText (hk : ∀ x xs, isDecimal x = true → k.run (x :: xs) = [])
    (hm : ∀ xs, k.run ('m' :: ' ' :: xs) = []) (hs : ∀ xs, k.run ('s' :: xs) = [])
    (hfront : Plain front) (hafter : Plain after) :
    (number.seq k).search (front ++ (d.minutesText ++ after)) = none := by
  have hblank : Plain ['m', ' '] := plain_of_all (by decide)
  have hend : ∀ c ∈ 's' :: after, isDecimal c = false := List.forall_mem_cons.mpr ⟨by decide, hafter⟩
  unfold number
  calc ((Regex.plus isDecimal).group.seq k).search (front ++ (d.minutesText ++ after))
      = ((Regex.plus isDecimal).group.seq k).search (d.minutesText ++ after) :=
        Regex.search_number_seq_plain hfront
    _ = ((Regex.plus isDecimal).group.seq k).search
          ('m' :: ' ' :: (Nat.toDigits 10 d.seconds ++ 's' :: after)) := by
        rw [Duration.minutesText_append]
        exact Regex.search_number_seq_number hk (digits_isDecimal _) (by decide) (hm _)
    _ = ((Regex.plus isDecimal).group.seq k).search (Nat.toDigits 10 d.seconds ++ 's' :: after) :=
        Regex.search_number_seq_plain hblank
    _ = ((Regex.plus isDecimal).group.seq k).search ('s' :: after) :=
        Regex.search_number_seq_number hk (digits_isDecimal _) (by decide) (hs _)
    _ = none := Regex.search_number_seq_none hend

theorem search_hoursMinutes_minutes (hfront : Plain front) (hafter : Plain after) :
    hoursMinutes.search (front ++ (d.minutesText ++ after)) = none :=
  search_minutesText (word_digit (by decide)) (fun _ => run_hours_of_not (by decide))
    (fun _ => run_hours_of_not (by decide)) hfront hafter

theorem search_minutesWord_minutes (hfront : Plain front) (hafter : Plain after) :
    minutesWord.search (front ++ (d.minutesText ++ after)) = none :=
  search_minutesText
    (fun _ _ hx => run_minute_of_not (isSpace_of_isDecimal hx) (caseless_of_isDecimal (by decide) hx))
    (fun _ => run_minute_blank) (fun _ => run_minute_of_not (by decide) (by decide)) hfront hafter

theorem search_hoursMinutes_hours (hfront : Plain front) :
    hoursMinutes.search (front ++ (d.hoursText ++ after))
      = some [Nat.toDigits 10 d.hours, Nat.toDigits 10 d.minutes] := by
  have hskip : hoursMinutes.search (front ++ (d.hoursText ++ after)) = hoursMinutes.search (d.hoursText ++ after) :=
    Regex.search_number_seq_plain hfront
  have htext : d.hoursText ++ after = Nat.toDigits 10 d.hours ++ 'h' :: ' ' :: (d.minutesText ++ after) := by
    simp [Duration.hoursText]
  rw [hskip, htext, Duration.minutesText_append]
  apply Regex.search_of_found
  rw [Regex.found, run_hoursMinutes]
  rfl

/-- The days in front make no difference. -/
theorem search_hoursMinutes_days (hfront : Plain front) :
    hoursMinutes.search (front ++ (Nat.toDigits 10 n ++ 'd' :: ' ' :: d.hoursText ++ after))
      = some [Nat.toDigits 10 d.hours, Nat.toDigits 10 d.minutes] := by
  have hblank : Plain ['d', ' '] := plain_of_all (by decide)
  have hnumber : hoursMinutes.search (Nat.toDigits 10 n ++ 'd' :: ' ' :: (d.hoursText ++ after))
      = hoursMinutes.search ('d' :: ' ' :: (d.hoursText ++ after)) :=
    Regex.search_number_seq_number (word_digit (by decide)) (digits_isDecimal n) (by decide)
      (run_hours_of_not (by decide))
  calc hoursMinutes.search (front ++ (Nat.toDigits 10 n ++ 'd' :: ' ' :: d.hoursText ++ after))
      = hoursMinutes.search (Nat.toDigits 10 n ++ 'd' :: ' ' :: (d.hoursText ++ after)) := by
        rw [List.append_assoc]
        exact Regex.search_number_seq_plain hfront
    _ = hoursMinutes.search ('d' :: ' ' :: (d.hoursText ++ after)) := hnumber
    _ = some [Nat.toDigits 10 d.hours, Nat.toDigits 10 d.minutes] := search_hoursMinutes_hours hblank

/-! ## The last pattern -/

/-- What it wants behind `time`: the next number on the line. -/
def nextNumber : Regex Char := (Regex.many false isDot).seq number

theorem number_starts : ∀ x xs, isDecimal x = false → number.run (x :: xs) = [] :=
  fun _ _ hx => Regex.run_number_of_not hx

/-- On the line of the number that comes next, that number is read. -/
theorem head_nextNumber {behind : List Char} (hplain : Plain behind) (hline : '\n' ∉ behind) (n : Nat)
    (ys : List Char) :
    (nextNumber.run (behind ++ (Nat.toDigits 10 n ++ 'm' :: ys))).head? = some ([Nat.toDigits 10 n], 'm' :: ys) := by
  have hdots : ∀ c ∈ behind, isDot c = true := by
    intro c hc
    have hne : c ≠ '\n' := fun heq => hline (heq ▸ hc)
    simp [isDot, hne]
  exact Regex.head_lazy_seq number_starts hplain hdots
    (Regex.head_number (digits_isDecimal n) (by decide) Nat.toDigits_ne_nil)

/-- On another line it is not. -/
theorem run_nextNumber_nil {behind : List Char} (hplain : Plain behind) (hline : '\n' ∈ behind) (ys : List Char) :
    nextNumber.run (behind ++ ys) = [] := by
  apply Regex.run_lazy_seq_nil number_starts hplain
  intro hdots
  exact absurd (hdots '\n' hline) (by decide)

theorem run_nextNumber_plain (hplain : Plain xs) : nextNumber.run xs = [] := by
  have hend : nextNumber.run (xs ++ []) = [] := by
    apply Regex.run_lazy_seq_nil number_starts hplain
    intro _
    rfl
  rwa [List.append_nil] at hend

/-- Where `printTime` matches, the words stand at the head of the text. -/
theorem words_of_run (h : printTime.run xs ≠ []) :
    ∃ print gap time behind, xs = print ++ (gap ++ (time ++ behind)) ∧
      Regex.Fits ("print".toList.map caseless) print ∧ (∀ c ∈ gap, isSpace c = true) ∧
      Regex.Fits ("time".toList.map caseless) time ∧ nextNumber.run behind ≠ [] := by
  obtain ⟨print, ys, hprint, rfl, hys⟩ := Regex.fits_of_run h
  unfold spaces at hys
  rw [Regex.run_greedy_seq (word_space (by decide))] at hys
  obtain ⟨time, behind, htime, hrest, hbehind⟩ := Regex.fits_of_run hys
  refine ⟨print, ys.takeWhile isSpace, time, behind, ?_, hprint, ?_, htime, hbehind⟩
  · rw [← hrest, List.takeWhile_append_dropWhile]
  · exact fun c hc => List.mem_takeWhile_imp hc

theorem print_letters : "print".toList ⊆ patternLetters := by simp [patternLetters]

theorem time_letters : "time".toList ⊆ patternLetters := by simp [patternLetters]

/-- Behind the words it is the next number that decides. -/
theorem run_of_words {print gap time behind : List Char} (hprint : Regex.Fits ("print".toList.map caseless) print)
    (hgap : ∀ c ∈ gap, isSpace c = true) (htime : Regex.Fits ("time".toList.map caseless) time) :
    printTime.run (print ++ (gap ++ (time ++ behind))) = nextNumber.run behind := by
  have hhead : (time ++ behind).dropWhile isSpace = time ++ behind := by
    have happart := apart_of_fits time_letters htime
    cases htime with
    | cons hx hxs => rw [List.cons_append, List.dropWhile_cons_of_neg (by simp [(happart _ List.mem_cons_self).2])]
  calc printTime.run (print ++ (gap ++ (time ++ behind)))
      = (spaces.seq ((word "time").seq nextNumber)).run (gap ++ (time ++ behind)) := Regex.run_lits_seq hprint
    _ = ((word "time").seq nextNumber).run ((gap ++ (time ++ behind)).dropWhile isSpace) :=
        Regex.run_greedy_seq (word_space (by decide))
    _ = ((word "time").seq nextNumber).run (time ++ behind) := by
        rw [List.dropWhile_append_of_pos hgap, hhead]
    _ = nextNumber.run behind := Regex.run_lits_seq htime

/-- The words hold no digit. -/
theorem words_plain {print gap time : List Char} (hprint : Regex.Fits ("print".toList.map caseless) print)
    (hgap : ∀ c ∈ gap, isSpace c = true) (htime : Regex.Fits ("time".toList.map caseless) time) :
    Plain (print ++ (gap ++ time)) := by
  intro c hc
  rcases List.mem_append.mp hc with hc | hc
  · exact (apart_of_fits print_letters hprint c hc).1
  rcases List.mem_append.mp hc with hc | hc
  · exact isDecimal_of_isSpace (hgap c hc)
  · exact (apart_of_fits time_letters htime c hc).1

/-- A plain text in front of a number comes first in any reading of both whose own front is plain. -/
theorem split_at_number {plain rest : List Char} (hplain : Plain plain)
    (h : xs ++ (Nat.toDigits 10 n ++ ys) = plain ++ rest) : ∃ behind, xs = plain ++ behind ∧
      rest = behind ++ (Nat.toDigits 10 n ++ ys) := by
  rcases List.append_eq_append_iff.mp h with ⟨extra, hplaineq, hnumber⟩ | ⟨behind, hxseq, hrest⟩
  · cases extra with
    | nil => exact ⟨[], by simpa using hplaineq.symm, by simpa using hnumber.symm⟩
    | cons c extra =>
      -- a digit would begin the rest of the plain text
      cases hdigits : Nat.toDigits 10 n with
      | nil => exact absurd hdigits Nat.toDigits_ne_nil
      | cons d ds =>
        rw [hdigits, List.cons_append, List.cons_append] at hnumber
        have hsame : d = c := (List.cons.inj hnumber).1
        have hd : isDecimal d = true := digits_isDecimal n d (by rw [hdigits]; exact List.mem_cons_self)
        have hc : isDecimal c = false := hplain c (by rw [hplaineq]; simp)
        rw [hsame, hc] at hd
        cases hd
  · exact ⟨behind, hxseq, hrest⟩

/-- **In front of a number the pattern matches exactly at `print time` on its line, and reads that number.** -/
theorem printTime_cases (hxs : Plain xs) (n : Nat) (ys : List Char) :
    (¬ AtPrintTime xs ∧ printTime.run (xs ++ (Nat.toDigits 10 n ++ 'm' :: ys)) = []) ∨
    (AtPrintTime xs ∧ printTime.found (xs ++ (Nat.toDigits 10 n ++ 'm' :: ys)) = some [Nat.toDigits 10 n]) := by
  have hreads : AtPrintTime xs →
      printTime.found (xs ++ (Nat.toDigits 10 n ++ 'm' :: ys)) = some [Nat.toDigits 10 n] := by
    rintro ⟨print, gap, time, behind, rfl, hprint, hgap, htime, hline⟩
    have hbehind : Plain behind := fun c hc => hxs c (by simp [hc])
    rw [Regex.found, List.append_assoc, List.append_assoc, List.append_assoc, run_of_words hprint hgap htime,
      head_nextNumber hbehind hline]
    rfl
  by_cases hrun : printTime.run (xs ++ (Nat.toDigits 10 n ++ 'm' :: ys)) = []
  · refine .inl ⟨fun hat => ?_, hrun⟩
    have hfound := hreads hat
    rw [Regex.found, hrun] at hfound
    cases hfound
  · have hat : AtPrintTime xs := by
      obtain ⟨print, gap, time, rest, htext, hprint, hgap, htime, hrest⟩ := words_of_run hrun
      have hassoc : print ++ (gap ++ (time ++ rest)) = (print ++ (gap ++ time)) ++ rest := by
        simp only [List.append_assoc]
      rw [hassoc] at htext
      obtain ⟨behind, rfl, rfl⟩ := split_at_number (words_plain hprint hgap htime) htext
      refine ⟨print, gap, time, behind, by simp only [List.append_assoc], hprint, hgap, htime, ?_⟩
      intro hline
      have hbehind : Plain behind := fun c hc => hxs c (by simp [hc])
      exact hrest (run_nextNumber_nil hbehind hline _)
    exact .inr ⟨hat, hreads hat⟩

/-- Nothing matches where no number follows. -/
theorem printTime_plain (hxs : Plain xs) : printTime.run xs = [] := by
  by_contra hrun
  obtain ⟨print, gap, time, behind, rfl, -, -, -, hbehind⟩ := words_of_run hrun
  exact hbehind (run_nextNumber_plain fun c hc => hxs c (by simp [hc]))

/-- No match begins in the duration or behind it. -/
theorem search_printTime_duration (hafter : Plain after) : printTime.search (d.minutesText ++ after) = none := by
  have hskip : printTime.search (d.minutesText ++ after) = printTime.search after := by
    apply Regex.search_append
    intro as hsuffix hne
    cases as with
    | nil => exact absurd rfl hne
    | cons c as =>
      have hc : c ∈ d.minutesText := hsuffix.mem List.mem_cons_self
      apply Regex.run_lits_seq_of_not
      simp only [Duration.minutesText, List.mem_append, List.mem_cons, List.not_mem_nil, or_false] at hc
      rcases hc with hc | rfl | rfl | hc | rfl
      · exact caseless_of_isDecimal (by decide) (digits_isDecimal _ c hc)
      · decide
      · decide
      · exact caseless_of_isDecimal (by decide) (digits_isDecimal _ c hc)
      · decide
  rw [hskip]
  apply Regex.search_eq_none
  intro as hsuffix
  exact printTime_plain fun c hc => hafter c (hsuffix.mem hc)

theorem search_printTime_line {line : List Char} (hfront : Plain front) (hsuffix : line <:+ front)
    (hat : AtPrintTime line) :
    printTime.search (front ++ (d.minutesText ++ after)) = some [Nat.toDigits 10 d.minutes] := by
  rw [Duration.minutesText_append]
  apply Regex.search_of_places
  · intro as has
    exact (printTime_cases (fun c hc => hfront c (has.mem hc)) _ _).imp And.right And.right
  · refine ⟨line, hsuffix, ?_⟩
    have hplain : Plain line := fun c hc => hfront c (hsuffix.mem hc)
    exact ((printTime_cases hplain _ _).resolve_left fun hno => hno.1 hat).2

theorem search_printTime_none (hfront : Plain front) (hafter : Plain after)
    (hno : ∀ line, line <:+ front → ¬ AtPrintTime line) :
    printTime.search (front ++ (d.minutesText ++ after)) = none := by
  have hskip : printTime.search (front ++ (d.minutesText ++ after)) = printTime.search (d.minutesText ++ after) := by
    rw [Duration.minutesText_append]
    apply Regex.search_append
    intro as has _
    have hplain : Plain as := fun c hc => hfront c (has.mem hc)
    exact ((printTime_cases hplain _ _).resolve_right fun hyes => hno as has hyes.1).2
  rw [hskip, search_printTime_duration hafter]

/-! ## The estimate -/

variable {o o' : Printout}

theorem toList_text (o : Printout) :
    o.text.toList = o.front.toList ++ (o.duration.text.toList ++ o.after.toList) := by
  simp [Printout.text]

/-- A duration of an hour or more is read from its hours and minutes. -/
theorem estimate_of_hours (h : 0 < o.duration.days ∨ 0 < o.duration.hours) :
    parseEstimatedTime o.text = .ok (some (60 * o.duration.hours + o.duration.minutes)) := by
  have hfound : hoursMinutes.search o.text.toList
      = some [Nat.toDigits 10 o.duration.hours, Nat.toDigits 10 o.duration.minutes] := by
    rw [toList_text]
    rcases Nat.eq_zero_or_pos o.duration.days with hzero | hdays
    · rw [Duration.text_of_hours hzero (h.resolve_left (by omega))]
      exact search_hoursMinutes_hours o.front_plain
    · rw [Duration.text_of_days hdays]
      exact search_hoursMinutes_days o.front_plain
  have hhours : intOf (Nat.toDigits 10 o.duration.hours) = .ok o.duration.hours :=
    intOf_small (by have := o.duration.hours_lt; omega)
  unfold parseEstimatedTime
  rw [List.findSome?_cons, hfound, Nat.mul_comm 60]
  simp only [hhours, intOf_small o.duration.minutes_lt]
  rfl

/-- One of less than an hour is left to the last pattern. -/
theorem findSome_of_minutes (hdays : o.duration.days = 0) (hhours : o.duration.hours = 0)
    (h : 0 < o.duration.minutes) :
    ([hoursMinutes, minutesWord, printTime].findSome? fun pat => pat.search o.text.toList)
      = printTime.search (o.front.toList ++ (o.duration.minutesText ++ o.after.toList)) := by
  rw [toList_text, Duration.text_of_minutes hdays hhours h, List.findSome?_cons,
    search_hoursMinutes_minutes o.front_plain o.after_plain]
  simp only [List.findSome?_cons, search_minutesWord_minutes o.front_plain o.after_plain]
  cases printTime.search (o.front.toList ++ (o.duration.minutesText ++ o.after.toList)) <;> rfl

theorem estimate_of_line {line : List Char} (hdays : o.duration.days = 0) (hhours : o.duration.hours = 0)
    (h : 0 < o.duration.minutes) (hsuffix : line <:+ o.front.toList) (hat : AtPrintTime line) :
    parseEstimatedTime o.text = .ok (some o.duration.minutes) := by
  unfold parseEstimatedTime
  rw [findSome_of_minutes hdays hhours h, search_printTime_line o.front_plain hsuffix hat]
  simp only [intOf_small o.duration.minutes_lt]
  rfl

theorem estimate_of_no_line (hdays : o.duration.days = 0) (hhours : o.duration.hours = 0)
    (h : 0 < o.duration.minutes) (hno : ∀ line, line <:+ o.front.toList → ¬ AtPrintTime line) :
    parseEstimatedTime o.text = .ok none := by
  unfold parseEstimatedTime
  rw [findSome_of_minutes hdays hhours h, search_printTime_none o.front_plain o.after_plain hno]

/-- What the code makes of a printout that it does not read: the days are dropped, or nothing is read. -/
theorem estimate_of_not_readable (h : 0 < o.duration.wholeMinutes) (hread : ¬ o.Readable) :
    (1440 ≤ o.duration.wholeMinutes ∧ ∃ m, m ≤ 1439 ∧ parseEstimatedTime o.text = .ok (some m)) ∨
    (o.duration.wholeMinutes ≤ 59 ∧ parseEstimatedTime o.text = .ok none) := by
  have hhours_lt := o.duration.hours_lt
  have hminutes_lt := o.duration.minutes_lt
  unfold Duration.wholeMinutes at h ⊢
  rcases Nat.eq_zero_or_pos o.duration.days with hdays | hdays
  · have hhours : o.duration.hours = 0 := by
      by_contra hne
      exact hread ⟨hdays, .inl (by omega)⟩
    have hno : ∀ line, line <:+ o.front.toList → ¬ AtPrintTime line :=
      fun line hsuffix hat => hread ⟨hdays, .inr ⟨line, hsuffix, hat⟩⟩
    exact .inr ⟨by omega, estimate_of_no_line hdays hhours (by omega) hno⟩
  · exact .inl ⟨by omega, _, by omega, estimate_of_hours (.inl hdays)⟩

theorem estimate_of_readable (h : 0 < o.duration.wholeMinutes) (hread : o.Readable) :
    parseEstimatedTime o.text = .ok (some o.duration.wholeMinutes) := by
  obtain ⟨hdays, hrest⟩ := hread
  unfold Duration.wholeMinutes at h ⊢
  rcases Nat.eq_zero_or_pos o.duration.hours with hhours | hhours
  · obtain ⟨line, hsuffix, hat⟩ := hrest.resolve_left (by omega)
    rw [estimate_of_line hdays hhours (by omega) hsuffix hat, hdays, hhours]
    simp
  · rw [estimate_of_hours (.inr hhours), hdays]
    simp

/-- The estimate that is stored with the sliced file. -/
theorem sliceStl_of_readable {s : Settings} {stlPath stdout stderr : String} {p : PrinterID}
    (hmock : s.mockSlicer = false) (htext : stdout ++ stderr = o.text) (h : 0 < o.duration.wholeMinutes)
    (hread : o.Readable) : sliceStl s stlPath p (orcaSlice stdout stderr)
      = .ok (sliceOutput s.slicedDir stlPath p, some o.duration.wholeMinutes) := by
  have hslice : orcaSlice stdout stderr = .sliced (some o.duration.wholeMinutes) := by
    unfold orcaSlice
    rw [htext, estimate_of_readable h hread]
  rw [hslice, sliceStl, hmock]
  rfl

/-! ## The order of the queue -/

/-- If the first duration has fewer whole minutes, the queue takes a job of the first before a job of the second. -/
def TakenInOrder (o o' : Printout) : Prop :=
  o.duration.wholeMinutes < o'.duration.wholeMinutes → ∀ x y : JobId × Job,
    parseEstimatedTime o.text = .ok x.2.estimatedMinutes → parseEstimatedTime o'.text = .ok y.2.estimatedMinutes →
    byEstimate x y = true ∧ byEstimate y x = false

theorem byEstimate_of_lt {x y : JobId × Job} {m m' : Nat} (hx : x.2.estimatedMinutes = some m)
    (hy : y.2.estimatedMinutes = some m') (hlt : m < m') : byEstimate x y = true ∧ byEstimate y x = false := by
  have hne : m' ≠ m := by omega
  have hnot : ¬ m' < m := by omega
  simp [byEstimate, hx, hy, hlt, hne, hnot]

/-- Readable durations are taken in order. -/
theorem takenInOrder_of_readable (h : 0 < o.duration.wholeMinutes) (hread : o.Readable)
    (h' : 0 < o'.duration.wholeMinutes) (hread' : o'.Readable) : TakenInOrder o o' := by
  intro hlt x y hx hy
  rw [estimate_of_readable h hread] at hx
  rw [estimate_of_readable h' hread'] at hy
  exact byEstimate_of_lt (Except.ok.inj hx).symm (Except.ok.inj hy).symm hlt

/-- A printout of a duration alone. -/
def Duration.alone (d : Duration) : Printout := ⟨"", d, "", plain_of_all rfl, plain_of_all rfl⟩

/-- The longest duration without days. -/
def almostADay : Duration := ⟨0, 23, 59, 59, by decide, by decide, by decide⟩

theorem almostADay_readable : almostADay.alone.Readable := ⟨rfl, .inl (by decide)⟩

theorem estimate_almostADay : parseEstimatedTime almostADay.alone.text = .ok (some 1439) :=
  estimate_of_hours (.inr (by decide))

/-- A job with an estimate. -/
def estimated (minutes : Option Nat) : JobId × Job :=
  ("", { Job.submitted 0 "" "" none "" "" with estimatedMinutes := minutes })

/-- **A duration that is not readable is misplaced**: with its days dropped its job goes before, or level with, one of
    23 hours and 59 minutes, and without an estimate it goes behind that one. -/
theorem misplaced_of_not_readable (h : 0 < o.duration.wholeMinutes) (hread : ¬ o.Readable) :
    ¬ (TakenInOrder o almostADay.alone ∧ TakenInOrder almostADay.alone o) := by
  rintro ⟨hbefore, hbehind⟩
  have hminutes : almostADay.alone.duration.wholeMinutes = 1439 := rfl
  rcases estimate_of_not_readable h hread with ⟨hdays, m, hm, hparse⟩ | ⟨hshort, hparse⟩
  · have hwrong := (hbehind (by omega) (estimated (some 1439)) (estimated (some m)) estimate_almostADay hparse).2
    have htaken : byEstimate (estimated (some m)) (estimated (some 1439)) = true := by
      rcases hm.lt_or_eq with hlt | rfl
      · exact (byEstimate_of_lt rfl rfl hlt).1
      · decide
    rw [hwrong] at htaken
    cases htaken
  · have hwrong := (hbefore (by omega) (estimated none) (estimated (some 1439)) hparse estimate_almostADay).1
    exact absurd hwrong (by decide)

/-! ## Results -/

/-- **A duration is read as its whole minutes exactly when it is readable**, and its job stands right in the queue,
    against all jobs with readable durations, exactly then. -/
theorem estimate_iff (o : Printout) (h : 0 < o.duration.wholeMinutes) :
    (parseEstimatedTime o.text = .ok (some o.duration.wholeMinutes) ↔ o.Readable) ∧
    ((∀ o' : Printout, 0 < o'.duration.wholeMinutes → o'.Readable → TakenInOrder o o' ∧ TakenInOrder o' o) ↔
      o.Readable) := by
  constructor
  · constructor
    · intro hparse
      by_contra hread
      rcases estimate_of_not_readable h hread with ⟨hdays, m, hm, hwrong⟩ | ⟨-, hwrong⟩
      · rw [hwrong] at hparse
        have hsame : m = o.duration.wholeMinutes := Option.some.inj (Except.ok.inj hparse)
        omega
      · rw [hwrong] at hparse
        cases hparse
    · exact estimate_of_readable h
  · constructor
    · intro hall
      by_contra hread
      exact misplaced_of_not_readable h hread (hall almostADay.alone (by decide) almostADay_readable)
    · intro hread o' h' hread'
      exact ⟨takenInOrder_of_readable h hread h' hread', takenInOrder_of_readable h' hread' h hread⟩

/-- The duration of the comment in the source, and a text in front of it. -/
def afternoon : Printout where
  before := "slicing done\n"
  duration := ⟨0, 2, 34, 56, by decide, by decide, by decide⟩
  after := "\n"
  before_plain := plain_of_all (by decide)
  after_plain := plain_of_all (by decide)

theorem estimate_afternoon :
    0 < afternoon.duration.wholeMinutes ∧ parseEstimatedTime afternoon.text = .ok (some 154) :=
  ⟨by decide, (estimate_iff afternoon (by decide)).1.mpr ⟨rfl, .inl (by decide)⟩⟩

/-- A day, two hours, three minutes and four seconds. -/
def overADay : Duration := ⟨1, 2, 3, 4, by decide, by decide, by decide⟩

/-- The days are dropped, so such a job goes before one of 23 hours and 59 minutes. -/
theorem days_dropped :
    (¬ ∀ o : Printout, 0 < o.duration.wholeMinutes →
      parseEstimatedTime o.text = .ok (some o.duration.wholeMinutes)) ∧
    ¬ ∀ o o' : Printout, 0 < o.duration.wholeMinutes → 0 < o'.duration.wholeMinutes → TakenInOrder o o' := by
  have hread : ¬ overADay.alone.Readable := fun hread => absurd hread.1 (by decide)
  constructor
  · intro hall
    have hparse := hall overADay.alone (by decide)
    rw [estimate_of_hours (.inl (by decide))] at hparse
    exact absurd (Option.some.inj (Except.ok.inj hparse)) (by decide)
  · intro hall
    exact misplaced_of_not_readable (by decide) hread
      ⟨hall overADay.alone almostADay.alone (by decide) (by decide),
        hall almostADay.alone overADay.alone (by decide) (by decide)⟩

end BambuBabu
