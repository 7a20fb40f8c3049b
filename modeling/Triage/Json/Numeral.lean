import Triage.Text.Decimal
import Triage.Json.Binary64

namespace Triage.Json

/-!
# Numerals

* `Numeral` — a number as it is written.
* `Numeral.ofChars?` — the grammar: no plus sign, no leading zeros, digits on both sides of a point.
* `Number` — what a numeral denotes: a natural number or a negative one of 64 bits, or a number in
  floating point.
* `Numeral.number?` — what it denotes, unless it is too large for floating point.
-/

open Text

/-- A numeral: digits before the point, after it, and of the exponent with its sign. -/
structure Numeral where
  negative : Bool
  whole : List Char
  fraction : Option (List Char)
  exponent : Option (Bool × List Char)
  deriving DecidableEq, Repr

/-- The digits at the start of a text, at least one, and what follows them. -/
def digits? (cs : List Char) : Option (List Char × List Char) :=
  match cs.takeWhile Char.isDigit with
  | [] => none
  | ds => some (ds, cs.dropWhile Char.isDigit)

namespace Numeral

/-- The part before the point: a zero alone, or digits that start with another one. -/
def whole? (cs : List Char) : Option (List Char × List Char) :=
  (digits? cs).filter fun (ds, _) => ds.head? != some '0' || ds.length == 1

/-- The part after the point, if there is a point. -/
def fraction? : List Char → Option (Option (List Char) × List Char)
  | '.' :: rest => (digits? rest).map fun (ds, rest) => (some ds, rest)
  | rest => some (none, rest)

/-- The sign and the digits of the exponent, if there is one. -/
def exponent? : List Char → Option (Option (Bool × List Char) × List Char)
  | c :: rest =>
    if c = 'e' ∨ c = 'E' then
      let (negative, rest) := match rest with
        | '-' :: rest => (true, rest)
        | '+' :: rest => (false, rest)
        | rest => (false, rest)
      (digits? rest).map fun (ds, rest) => (some (negative, ds), rest)
    else some (none, c :: rest)
  | [] => some (none, [])

/-- The numeral that a text is, from its first character to its last. -/
def ofChars? (cs : List Char) : Option Numeral := do
  let (negative, cs) := match cs with
    | '-' :: rest => (true, rest)
    | cs => (false, cs)
  let (whole, cs) ← whole? cs
  let (fraction, cs) ← fraction? cs
  let (exponent, cs) ← exponent? cs
  if cs.isEmpty then some ⟨negative, whole, fraction, exponent⟩ else none

end Numeral

/-- What a numeral denotes. A natural number is below `2 ^ 64`; a negative one is `- n` with `n` from
`1` to `2 ^ 63`; all others are in floating point, minus zero among them. -/
inductive Number
  | natural (n : Nat)
  | negative (n : Nat)
  | real (x : Binary64)
  deriving DecidableEq, Repr

namespace Numeral

/-- Appends digits to a significand while it has 64 bits, and counts the digits left over. -/
def significand (value : Nat) : List Char → Nat × Nat
  | [] => (value, 0)
  | c :: rest =>
    let next := value * 10 + (c.toNat - '0'.toNat)
    if next ≤ maxWord then significand next rest else (value, rest.length + 1)

/-- The significand of a numeral, and the power of ten that its point stands for. A digit that would
take the significand past 64 bits is dropped with all that follow it on its side of the point. -/
def scaled (x : Numeral) : Nat × Int :=
  let (value, dropped) := significand 0 x.whole
  match x.fraction with
  | none => (value, dropped)
  | some ds =>
    let (value, left) := significand value ds
    (value, (dropped : Int) - (ds.length - left : Nat))

/-- The power of ten that the exponent states. -/
def power (x : Numeral) : Int :=
  match x.exponent with
  | none => 0
  | some (negative, ds) =>
    let n : Int := Nat.ofDigitChars 10 ds 0
    if negative then -n else n

/-- What the numeral denotes in floating point, if it is not too large. -/
def real? (x : Numeral) : Option Number :=
  let (value, place) := x.scaled
  (Binary64.ofDecimal value (place + x.power)).map fun (mantissa, exponent) =>
    .real ⟨x.negative, mantissa, exponent⟩

/-- What the numeral denotes. Only a numeral without point and exponent denotes an integer. -/
def number? (x : Numeral) : Option Number :=
  match x.fraction, x.exponent with
  | none, none =>
    let n := Nat.ofDigitChars 10 x.whole 0
    if !x.negative && n ≤ maxWord then some (.natural n)
    else if x.negative && n != 0 && n ≤ Nat.pow 2 63 then some (.negative n)
    else x.real?
  | _, _ => x.real?

/-- The natural number of 64 bits that the numeral denotes. -/
def natural? (x : Numeral) : Option Nat :=
  match x.number? with
  | some (.natural n) => some n
  | _ => none

end Numeral

/-- The number in writing. -/
def Number.text : Number → List Char
  | .natural n => Nat.toDigits 10 n
  | .negative n => '-' :: Nat.toDigits 10 n
  | .real x => x.text

end Triage.Json
