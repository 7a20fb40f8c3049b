import Triage.Text.Decimal
import Mathlib.Tactic.Common

namespace Triage.Text

/-!
# What decimal texts denote

* `Denotes` — the number that a text stands for: decimal digits, as many as one likes, after one plus
  sign at most.
* `readDigits_eq_ok_iff` — digits are read exactly if no number on the way is past 64 bits.
* `readWord_eq_ok_iff` — a text is read exactly if it denotes a number of 64 bits, and then as that
  one.
-/

/-- The text stands for the number in decimal digits, after one plus sign at most.  There may be any
number of zeros in front. -/
def Denotes (text : List Char) (n : Nat) : Prop :=
  ∃ sign digits, text = sign ++ digits ∧ (sign = [] ∨ sign = ['+']) ∧ digits ≠ [] ∧
    (∀ c ∈ digits, c.isDigit = true) ∧ Nat.ofDigitChars 10 digits 0 = n

/-- Further digits never make a number smaller. -/
theorem le_ofDigitChars (value : Nat) (digits : List Char) :
    value ≤ Nat.ofDigitChars 10 digits value := by
  induction digits generalizing value with
  | nil => exact Nat.le_refl value
  | cons c digits ih =>
    rw [Nat.ofDigitChars_cons]
    have := ih (10 * value + (c.toNat - '0'.toNat))
    omega

/-- Digits are read exactly if the number is one of 64 bits.  Since numbers only grow by further
digits, none on the way is larger. -/
theorem readDigits_eq_ok_iff {value n : Nat} {text : List Char} (hvalue : value ≤ maxWord) :
    readDigits value text = .ok n ↔
      (∀ c ∈ text, c.isDigit = true) ∧ Nat.ofDigitChars 10 text value = n ∧ n ≤ maxWord := by
  induction text generalizing value with
  | nil =>
    simp only [readDigits, Except.ok.injEq, List.not_mem_nil, false_implies, implies_true,
      Nat.ofDigitChars_nil, true_and]
    exact ⟨fun h => ⟨h, h ▸ hvalue⟩, fun h => h.1⟩
  | cons c rest ih =>
    have hcomm : 10 * value + (c.toNat - '0'.toNat) = value * 10 + (c.toNat - '0'.toNat) := by omega
    rw [readDigits, List.forall_mem_cons, Nat.ofDigitChars_cons, hcomm]
    by_cases hdigit : c.isDigit = true
    · rw [if_pos hdigit]
      by_cases hsmall : value * 10 + (c.toNat - '0'.toNat) ≤ maxWord
      · rw [if_pos hsmall, ih hsmall]
        simp [hdigit]
      · -- The number is past 64 bits already, and so is any that starts with these digits.
        have hle := le_ofDigitChars (value * 10 + (c.toNat - '0'.toNat)) rest
        rw [if_neg hsmall]
        simp only [reduceCtorEq, false_iff]
        rintro ⟨-, rfl, hn⟩
        omega
    · simp [hdigit]

/-- After the one plus sign, if there is one, come digits. -/
theorem readWord_append {sign digits : List Char} (hsign : sign = [] ∨ sign = ['+'])
    (hne : digits ≠ []) (hhead : digits.head? ≠ some '+') :
    readWord (sign ++ digits) = readDigits 0 digits := by
  obtain ⟨c, rest, rfl⟩ := List.exists_cons_of_ne_nil hne
  have hc : c ≠ '+' := fun h => hhead (congrArg some h)
  obtain rfl | rfl := hsign
  · rw [List.nil_append, readWord]
    · exact List.cons_ne_nil _ _
    · exact fun h => hc (List.head_eq_of_cons_eq h)
    · exact fun _ h => hc (List.head_eq_of_cons_eq h)
  · rw [List.singleton_append, readWord]
    exact List.cons_ne_nil _ _

/-- **A text is read exactly if it denotes a number of 64 bits**, and then as that one. -/
theorem readWord_eq_ok_iff {text : List Char} {n : Nat} :
    readWord text = .ok n ↔ Denotes text n ∧ n ≤ maxWord := by
  have hdigits : ∀ {digits : List Char}, readDigits 0 digits = .ok n ↔
      (∀ c ∈ digits, c.isDigit = true) ∧ Nat.ofDigitChars 10 digits 0 = n ∧ n ≤ maxWord :=
    readDigits_eq_ok_iff (Nat.zero_le _)
  constructor
  · intro h
    unfold readWord at h
    split at h
    · cases h
    · cases h
    · rename_i digits hne
      obtain ⟨hall, hn, hle⟩ := hdigits.1 h
      exact ⟨⟨['+'], digits, rfl, .inr rfl, hne, hall, hn⟩, hle⟩
    · rename_i hne _ _
      obtain ⟨hall, hn, hle⟩ := hdigits.1 h
      exact ⟨⟨[], text, rfl, .inl rfl, hne, hall, hn⟩, hle⟩
  · rintro ⟨⟨sign, digits, rfl, hsign, hne, hall, hn⟩, hle⟩
    -- Digits do not start with a sign, so that the sign is the one that was taken off.
    have hhead : digits.head? ≠ some '+' := by
      intro hplus
      exact absurd (hall '+' (List.mem_of_mem_head? hplus)) (by decide)
    rw [readWord_append hsign hne hhead]
    exact hdigits.2 ⟨hall, hn, hle⟩

/-- The same where only the number counts, and not what is wrong with a text that denotes none. -/
theorem toOption_readWord_eq_some_iff {text : List Char} {n : Nat} :
    (readWord text).toOption = some n ↔ Denotes text n ∧ n ≤ maxWord := by
  rw [← readWord_eq_ok_iff]
  cases readWord text <;> simp [Except.toOption]

end Triage.Text
