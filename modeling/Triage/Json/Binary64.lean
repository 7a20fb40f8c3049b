namespace Triage.Json

/-!
# Numbers in binary floating point of 64 bits

* `Binary64` — a finite number `± mantissa · 2 ^ exponent`.
* `Binary64.round` — the nearest number to a quotient, a tie going to the even mantissa.
* `Binary64.ofDecimal` — the number for `significand · 10 ^ power`, by one or two rounded steps.
* `Binary64.text` — the fewest digits that read back to the number.
-/

/-- The finite number `mantissa · 2 ^ exponent`, with a sign that zero has too. -/
structure Binary64 where
  negative : Bool
  mantissa : Nat
  exponent : Int
  deriving DecidableEq, Repr

/-- A magnitude `mantissa · 2 ^ exponent`. -/
abbrev Magnitude := Nat × Int

namespace Binary64

/-- The exponent of the last place of a magnitude near `num / den`: 53 bits, none below `2 ^ -1074`. -/
def placeOf (num den : Nat) : Int :=
  let guess := (num.log2 : Int) - den.log2 - 52
  let below :=
    num * Nat.pow 2 (-guess).toNat < den * Nat.pow 2 guess.toNat * Nat.pow 2 52
  max (if below then guess - 1 else guess) (-1074)

/-- The nearest magnitude to `num / den`, a tie going to the even mantissa; none if it is too large. -/
def round (num den : Nat) : Option Magnitude :=
  if num = 0 then some (0, -1074)
  else
    let place := placeOf num den
    let top := num * Nat.pow 2 (-place).toNat
    let bottom := den * Nat.pow 2 place.toNat
    let down := top / bottom
    let twice := 2 * (top % bottom)
    let mantissa := if twice > bottom ∨ (twice = bottom ∧ down % 2 = 1) then down + 1 else down
    let (mantissa, place) :=
      if mantissa = Nat.pow 2 53 then (Nat.pow 2 52, place + 1) else (mantissa, place)
    if place > 971 then none else some (mantissa, place)

/-- The rounded product of a magnitude and the rounded power of ten. -/
def timesTen (x : Magnitude) (power : Nat) : Option Magnitude := do
  let ten ← round (Nat.pow 10 power) 1
  let place := x.2 + ten.2
  round (x.1 * ten.1 * Nat.pow 2 place.toNat) (Nat.pow 2 (-place).toNat)

/-- The rounded quotient of a magnitude and the rounded power of ten. -/
def overTen (x : Magnitude) (power : Nat) : Option Magnitude := do
  let ten ← round (Nat.pow 10 power) 1
  let place := x.2 - ten.2
  round (x.1 * Nat.pow 2 place.toNat) (ten.1 * Nat.pow 2 (-place).toNat)

/-- The magnitude for `significand · 10 ^ power`, where the significand has 64 bits: it is rounded
first, then scaled by a power of ten up to the 308th, twice if need be. None if it is too large. -/
def ofDecimal (significand : Nat) (power : Int) : Option Magnitude := do
  let x ← round significand 1
  if x.1 = 0 then pure x
  else if power > 308 then none
  else if power ≥ 0 then timesTen x power.toNat
  else if power ≥ -308 then overTen x (-power).toNat
  else if power ≥ -616 then overTen (← overTen x 308) (-power - 308).toNat
  else pure (0, -1074)

/-- The decimal `c · 10 ^ power`, with `power` the place of its last digit. -/
abbrev Decimal := Nat × Int

/-- The neighbour of `m · 2 ^ e` on the grid of the multiples of `10 ^ power`, if one of the two
neighbours rounds to it. The nearer one counts. Lengths are in quarters of the last place. -/
def onGrid (m : Nat) (e : Int) (power : Int) : Option Nat :=
  let unit := Nat.pow 10 power.toNat * Nat.pow 2 (2 - e).toNat
  let scale := Nat.pow 10 (-power).toNat * Nat.pow 2 (e - 2).toNat
  let value := 4 * m * scale
  let low := (if m = Nat.pow 2 52 ∧ e > -1074 then 4 * m - 1 else 4 * m - 2) * scale
  let high := (4 * m + 2) * scale
  let inside (c : Nat) : Bool :=
    if m % 2 = 0 then low ≤ c * unit && c * unit ≤ high else low < c * unit && c * unit < high
  let down := value / unit
  match inside down && down != 0, inside (down + 1) with
  | false, false => none
  | true, false => some down
  | false, true => some (down + 1)
  | true, true =>
    let rest := 2 * (value - down * unit)
    if rest < unit ∨ (rest = unit ∧ down % 2 = 0) then some down else some (down + 1)

/-- The decimal with the fewest digits that rounds to `m · 2 ^ e`: the coarsest grid with a hit. -/
def shortest (m : Nat) (e : Int) : Decimal :=
  ((List.range 640).findSome? fun i : Nat =>
    let power : Int := 308 - i
    (onGrid m e power).map (·, power)).getD (0, 0)

/-- Places a point `before` digits from the left. -/
def pointAt (digits : List Char) (before : Nat) : List Char :=
  digits.take before ++ '.' :: digits.drop before

/-- An exponent with its sign, plus included. -/
def signed (exponent : Int) : List Char :=
  (if exponent < 0 then '-' else '+') :: Nat.toDigits 10 exponent.natAbs

/-- Writes `digits · 10 ^ power`: by position from `1e-5` up to `1e16`, else with an exponent. -/
def layout (digits : List Char) (power : Int) : List Char :=
  let point := digits.length + power
  if 0 ≤ power ∧ point ≤ 16 then digits ++ List.replicate power.toNat '0' ++ ['.', '0']
  else if 0 < point ∧ point ≤ 16 then pointAt digits point.toNat
  else if -5 < point ∧ point ≤ 0 then '0' :: '.' :: List.replicate (-point).toNat '0' ++ digits
  else
    (if digits.length = 1 then digits else pointAt digits 1)
      ++ 'e' :: signed (point - 1)

/-- The number in the fewest digits that read back to it, always with a point or an exponent. -/
def text (x : Binary64) : List Char :=
  let digits :=
    if x.mantissa = 0 then ['0', '.', '0']
    else
      let (c, power) := shortest x.mantissa x.exponent
      layout (Nat.toDigits 10 c) power
  if x.negative then '-' :: digits else digits

end Binary64

end Triage.Json
