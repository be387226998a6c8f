import Mathlib.Data.List.Basic

/-!
# `Text.CurlConfig` — the grammar of a curl config file

What `curl --config` reads, as far as quoted values go: a line ends at a newline, a value in double quotes ends at the
first quote that is not escaped, and a backslash in it makes a control character of `t`, `n`, `r` and `v` and any other
character of itself.

* `configLines`, `configOption`, `quotedValue` — the reader;
* `escapeValue` — the writer of a value;
* `quotedValue_escapeValue` — **the value that was written is read**, and nothing after it.
-/

namespace Text

/-- The lines of a file; a final newline ends the last line and does not begin another one. -/
def configLines (text : List Char) : List (List Char) :=
  let parts := text.splitOnP (· = '\n')
  if parts.getLast? = some [] then parts.dropLast else parts

/-- What a backslash makes of the character after it. -/
def unescape : Char → Char
  | 't' => '\t'
  | 'n' => '\n'
  | 'r' => '\r'
  | 'v' => '\x0b'
  | c => c

/-- A value from after its opening quote: the decoded value, and what follows the closing quote. Without a closing
    quote there is no value. -/
def quotedValue : List Char → Option (List Char × List Char)
  | [] => none
  | '"' :: rest => some ([], rest)
  | '\\' :: [] => none
  | '\\' :: c :: rest => (quotedValue rest).map fun (value, rest) => (unescape c :: value, rest)
  | c :: rest => (quotedValue rest).map fun (value, rest) => (c :: value, rest)

/-- What separates the name of an option from its value. -/
def isSeparator (c : Char) : Bool := c = ' ' || c = '\t' || c = '=' || c = ':'

/-- A line with a quoted value: the name of the option, the value, and what follows the closing quote. -/
def configOption (line : List Char) : Option (List Char × List Char × List Char) :=
  let name := line.takeWhile fun c => !isSeparator c
  match (line.dropWhile fun c => !isSeparator c).dropWhile isSeparator with
  | '"' :: rest => (quotedValue rest).map fun (value, rest) => (name, value, rest)
  | _ => none

/-- A value with its backslashes and quotes escaped. -/
def escapeValue (value : List Char) : List Char :=
  value.flatMap fun c => if c = '\\' || c = '"' then ['\\', c] else [c]

variable {c : Char} {value rest line : List Char}

/-- A backslash and a quote stand for themselves behind a backslash. -/
theorem quotedValue_escaped (h : c = '\\' ∨ c = '"') :
    quotedValue ('\\' :: c :: rest) = (quotedValue rest).map fun (value, rest) => (c :: value, rest) := by
  rcases h with rfl | rfl <;> rfl

theorem quotedValue_plain (hback : c ≠ '\\') (hquote : c ≠ '"') :
    quotedValue (c :: rest) = (quotedValue rest).map fun (value, rest) => (c :: value, rest) := by
  rw [quotedValue.eq_def]
  split
  · next h => cases h
  · next h => exact absurd (List.cons.inj h).1 hquote
  · next h => exact absurd (List.cons.inj h).1 hback
  · next h => exact absurd (List.cons.inj h).1 hback
  · next h =>
      obtain ⟨rfl, rfl⟩ := List.cons.inj h
      rfl

/-- **Round trip.** The first unescaped quote is the one that was put behind the value. -/
theorem quotedValue_escapeValue (value rest : List Char) :
    quotedValue (escapeValue value ++ '"' :: rest) = some (value, rest) := by
  induction value with
  | nil => rfl
  | cons c value ih =>
      have hcons : escapeValue (c :: value)
          = (if c = '\\' || c = '"' then ['\\', c] else [c]) ++ escapeValue value := rfl
      rw [hcons, List.append_assoc]
      by_cases hspecial : c = '\\' ∨ c = '"'
      · rw [if_pos (by simpa using hspecial), List.cons_append, List.cons_append, List.nil_append,
          quotedValue_escaped hspecial, ih]
        rfl
      · obtain ⟨hback, hquote⟩ := not_or.mp hspecial
        rw [if_neg (by simpa using hspecial), List.cons_append, List.nil_append, quotedValue_plain hback hquote, ih]
        rfl

/-- Escaping adds backslashes only. -/
theorem mem_escapeValue (h : c ∈ escapeValue value) : c ∈ value ∨ c = '\\' := by
  obtain ⟨d, hd, hc⟩ := List.mem_flatMap.mp h
  split at hc
  · rcases List.mem_cons.mp hc with rfl | hlast
    · exact .inr rfl
    · exact .inl (List.mem_singleton.mp hlast ▸ hd)
  · exact .inl (List.mem_singleton.mp hc ▸ hd)

/-- One line and its newline are one line. -/
theorem configLines_line (h : '\n' ∉ line) : configLines (line ++ ['\n']) = [line] := by
  have hsplit : (line ++ ['\n']).splitOnP (fun c => decide (c = '\n')) = [line, []] := by
    rw [List.splitOnP_append_cons_of_forall_mem]
    · rfl
    · intro c hc
      exact decide_eq_false fun heq => h (heq ▸ hc)
    · rfl
  unfold configLines
  simp only [hsplit]
  rfl

end Text
