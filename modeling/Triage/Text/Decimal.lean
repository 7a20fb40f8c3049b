namespace Triage.Text

/-!
# Decimal numbers of 64 bits

* `maxWord` — the largest number of 64 bits.
* `readWord` — the number that a text of decimal digits denotes, or why it denotes none.
-/

/-- The largest number of 64 bits. -/
def maxWord : Nat := 18446744073709551615

/-- Why a text denotes no number of 64 bits. -/
inductive WordError
  | empty
  | invalidDigit
  | tooLarge
  deriving DecidableEq, Repr

/-- The wording of each cause. -/
def WordError.message : WordError → String
  | .empty => "cannot parse integer from empty string"
  | .invalidDigit => "invalid digit found in string"
  | .tooLarge => "number too large to fit in target type"

/-- Appends digits to `value`. The first character that is no digit, or that takes the value past 64
bits, decides. -/
def readDigits (value : Nat) : List Char → Except WordError Nat
  | [] => .ok value
  | c :: rest =>
    if c.isDigit then
      if value * 10 + (c.toNat - '0'.toNat) ≤ maxWord then
        readDigits (value * 10 + (c.toNat - '0'.toNat)) rest
      else .error .tooLarge
    else .error .invalidDigit

/-- The number of 64 bits that a text denotes: decimal digits, after one plus sign at most. -/
def readWord : List Char → Except WordError Nat
  | [] => .error .empty
  | ['+'] => .error .invalidDigit
  | '+' :: rest => readDigits 0 rest
  | cs => readDigits 0 cs

end Triage.Text
