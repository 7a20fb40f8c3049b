import Triage.Json.Token
import Mathlib.Data.List.TakeWhile
import Mathlib.Tactic.Common
import Mathlib.Tactic.IntervalCases

namespace Triage.Json

/-!
# Integers in writing

* `Number.IsInteger` — an integer of 64 bits, as it may come out of a text.
* `Number.numeral` — the numeral that a number is written as.
* `Number.wordToken?_text` — an integer is written as that numeral.
* `Number.number?_numeral` — which denotes it.
-/

open Text

/-- An integer of 64 bits. One that is not negative is `natural`. -/
def Number.IsInteger : Number → Prop
  | .natural n => n ≤ maxWord
  | .negative n => n ≠ 0 ∧ n ≤ 2 ^ 63
  | .real _ => False

instance : DecidablePred Number.IsInteger
  | .natural n => inferInstanceAs (Decidable (n ≤ maxWord))
  | .negative n => inferInstanceAs (Decidable (n ≠ 0 ∧ n ≤ 2 ^ 63))
  | .real _ => inferInstanceAs (Decidable False)

/-- The numeral that a number is written as. -/
def Number.numeral (x : Number) : Numeral :=
  (Numeral.ofChars? x.text).getD ⟨false, ['0'], none, none⟩

/-! ### Digits -/

/-- The digits of a number are digits. -/
theorem isDigit_of_mem_toDigits {c : Char} {n : Nat} (h : c ∈ Nat.toDigits 10 n) :
    c.isDigit = true :=
  Nat.isDigit_of_mem_toDigits (by decide) (by decide) h

/-- A number above zero is not written with a zero in front. -/
theorem head?_toDigits {n : Nat} (h : 0 < n) : (Nat.toDigits 10 n).head? ≠ some '0' := by
  -- The first digit is that of a tenth of the number, down to a number of one digit.
  induction n using Nat.strongRecOn with
  | ind n ih =>
    by_cases hn : n < 10
    · rw [Nat.toDigits_of_lt_base hn]
      interval_cases n <;> decide
    · have hlater := ih (n / 10) (by omega) (by omega)
      rw [Nat.toDigits_of_base_le (by decide) (by omega)]
      cases hdigits : Nat.toDigits 10 (n / 10) with
      | nil => exact absurd hdigits Nat.toDigits_ne_nil
      | cons c rest =>
        rw [hdigits] at hlater
        exact hlater

/-- The digits of a number are read to their end. -/
theorem digits?_toDigits (n : Nat) : digits? (Nat.toDigits 10 n) = some (Nat.toDigits 10 n, []) := by
  have htake : (Nat.toDigits 10 n).takeWhile Char.isDigit = Nat.toDigits 10 n :=
    List.takeWhile_eq_self_iff.2 fun _ => isDigit_of_mem_toDigits
  have hdrop : (Nat.toDigits 10 n).dropWhile Char.isDigit = [] :=
    List.dropWhile_eq_nil_iff.2 fun _ => isDigit_of_mem_toDigits
  rw [digits?, htake, hdrop]
  -- There is at least one digit.
  split
  · exact absurd ‹_› Nat.toDigits_ne_nil
  · rfl

/-- The digits of a number are a whole part, for there is no zero too many in front. -/
theorem whole?_toDigits (n : Nat) :
    Numeral.whole? (Nat.toDigits 10 n) = some (Nat.toDigits 10 n, []) := by
  rw [Numeral.whole?, digits?_toDigits, Option.filter_some, if_pos]
  -- The number zero is the one with a zero in front.
  rcases Nat.eq_zero_or_pos n with rfl | hpos
  · decide
  · simp [head?_toDigits hpos]

/-- The numeral of digits, behind a minus sign or not. -/
theorem ofChars?_toDigits (negative : Bool) (n : Nat) :
    Numeral.ofChars? ((if negative then ['-'] else []) ++ Nat.toDigits 10 n)
      = some ⟨negative, Nat.toDigits 10 n, none, none⟩ := by
  cases negative with
  | true =>
    simp [Numeral.ofChars?, whole?_toDigits, Numeral.fraction?, Numeral.exponent?]
  | false =>
    have hsign : ∀ rest, Nat.toDigits 10 n = '-' :: rest → False := by
      intro rest h
      have hdigit := isDigit_of_mem_toDigits (c := '-') (n := n) (by rw [h]; exact List.mem_cons_self)
      exact absurd hdigit (by decide)
    -- the match on the sign is settled by `hsign`
    simp [Numeral.ofChars?, whole?_toDigits, Numeral.fraction?, Numeral.exponent?]

/-! ### Numbers -/

/-- An integer is read as its numeral. -/
theorem Number.ofChars?_text {x : Number} (h : x.IsInteger) :
    Numeral.ofChars? x.text = some x.numeral := by
  -- The numeral is defined by being read, so it is enough that there is one.
  have hread : ∃ numeral, Numeral.ofChars? x.text = some numeral := by
    cases x with
    | natural n => exact ⟨_, ofChars?_toDigits false n⟩
    | negative n => exact ⟨_, ofChars?_toDigits true n⟩
    | real _ => exact h.elim
  obtain ⟨numeral, hread⟩ := hread
  rw [Number.numeral, hread, Option.getD_some]

/-- **An integer is written as the numeral that denotes it.** -/
theorem Number.number?_numeral {x : Number} (h : x.IsInteger) : x.numeral.number? = some x := by
  cases x with
  | natural n =>
    have hn : n ≤ maxWord := h
    have hread : Numeral.ofChars? (Number.natural n).text = _ := ofChars?_toDigits false n
    rw [Number.numeral, hread, Option.getD_some, Numeral.number?]
    simp [Nat.ofDigitChars_ten_toDigits, hn]
  | negative n =>
    obtain ⟨hpos, hn⟩ : n ≠ 0 ∧ n ≤ 9223372036854775808 := h
    have hread : Numeral.ofChars? (Number.negative n).text = _ := ofChars?_toDigits true n
    rw [Number.numeral, hread, Option.getD_some, Numeral.number?]
    simp [Nat.ofDigitChars_ten_toDigits, hpos, hn]
  | real _ => exact h.elim

/-- A digit is part of a word. -/
theorem isWordChar_of_isDigit {c : Char} (h : c.isDigit = true) : isWordChar c = true := by
  simp [isWordChar, Char.isAlphanum, h]

/-- A number is written with a sign or a digit first, and digits after it. -/
theorem Number.isWordChar_of_mem_text {x : Number} (h : x.IsInteger) {c : Char}
    (hmem : c ∈ x.text) : isWordChar c = true := by
  cases x with
  | natural n => exact isWordChar_of_isDigit (isDigit_of_mem_toDigits hmem)
  | negative n =>
    rcases List.mem_cons.1 hmem with rfl | hmem
    · decide
    · exact isWordChar_of_isDigit (isDigit_of_mem_toDigits hmem)
  | real _ => exact h.elim

/-- A word that starts with a sign or a digit is no literal. -/
theorem Number.wordToken?_text {x : Number} (h : x.IsInteger) :
    wordToken? x.text = some (.numeral x.numeral) := by
  have hfirst : ∀ c ∈ x.text.head?, c = '-' ∨ c.isDigit = true := by
    intro c hc
    cases x with
    | natural n => exact .inr (isDigit_of_mem_toDigits (List.mem_of_mem_head? hc))
    | negative n => exact .inl (by simpa [Number.text, eq_comm] using hc)
    | real _ => exact h.elim
  -- The literals start with letters.
  have hliteral : ∀ c cs, c ≠ '-' → c.isDigit = false → x.text ≠ c :: cs := by
    intro c cs hsign hdigit heq
    rcases hfirst c (by rw [heq]; rfl) with hc | hc
    · exact hsign hc
    · rw [hdigit] at hc
      exact absurd hc (by decide)
  rw [wordToken?, if_neg (hliteral _ _ (by decide) (by decide)),
    if_neg (hliteral _ _ (by decide) (by decide)), if_neg (hliteral _ _ (by decide) (by decide)),
    Number.ofChars?_text h, Option.map_some]

end Triage.Json
