import Triage.Http.Percent
import Triage.Text.Search

namespace Triage.Http

/-!
# Numbers of hosts

* `endsInNumber`, `shortNumber?` — a number of 32 bits in one to four parts with points between them, as
  a host whose last part is a number has to be.
* `longNumber?` — a number of 128 bits in eight pieces with colons between them.
* `shortText`, `longText` — such numbers in writing.
-/

/-! ### Numbers of 32 bits -/

/-- The base of a part and its digits: `0x` is for sixteen, another zero in front for eight. -/
def partBase : List Char → Nat × List Char
  | '0' :: c :: rest => if c = 'x' ∨ c = 'X' then (16, rest) else (8, c :: rest)
  | digits => (10, digits)

/-- The value of a digit below the base. -/
def digitBelow? (base : Nat) (c : Char) : Option Nat := (percentValue? c).filter (· < base)

/-- The number of a part. After `0x` there may be nothing, which is zero. -/
def partNumber? (part : List Char) : Option Nat :=
  if part.isEmpty then none
  else
    let (base, digits) := partBase part
    (digits.mapM (digitBelow? base)).map (·.foldl (· * base + ·) 0)

/-- The number of 32 bits that parts make up. Each part but the last is one byte; the last one fills
the rest. -/
def joinParts? (number : Nat) : (left : Nat) → List Nat → Option Nat
  | _, [] => none
  | left, [last] =>
    if last < Nat.pow 256 left then some (number * Nat.pow 256 left + last) else none
  | left, part :: rest => if part < 256 then joinParts? (number * 256 + part) (left - 1) rest else none

/-- The parts between points. A point at the end does not count. -/
def pointParts (name : List Char) : List (List Char) :=
  let parts := Text.splitBy (· == '.') name
  if parts.length ≠ 1 ∧ parts.getLast? = some [] then parts.dropLast else parts

/-- The last part of a name is a number or at least made of digits. -/
def endsInNumber (name : List Char) : Bool :=
  match (pointParts name).getLast? with
  | none | some [] => false
  | some part => part.all Char.isDigit || (partNumber? part).isSome

/-- The number of 32 bits that a name denotes. -/
def shortNumber? (name : List Char) : Option Nat := do
  let parts := pointParts name
  if parts.length > 4 then none else joinParts? 0 4 (← parts.mapM partNumber?)

/-- A number of 32 bits in writing, byte by byte. -/
def shortText (number : Nat) : List Char :=
  List.intercalate ['.'] <|
    [number / 0x1000000, number / 0x10000, number / 0x100, number].map fun n =>
      Nat.toDigits 10 (n % 256)

/-! ### Numbers of 128 bits -/

/-- A byte in decimal digits, without a zero in front. -/
def byte? (digits : List Char) : Option Nat :=
  let n := Nat.ofDigitChars 10 digits 0
  if !digits.isEmpty && digits.all Char.isDigit && (digits.length == 1 || digits.head? != some '0')
      && n < 256 then some n
  else none

/-- Two pieces from four bytes with points between them. -/
def quad? (text : List Char) : Option (List Nat) := do
  match ← (Text.splitBy (· == '.') text).mapM byte? with
  | [a, b, c, d] => some [a * 256 + b, c * 256 + d]
  | _ => none

/-- A piece of sixteen bits in hexadecimal digits. -/
def piece? (digits : List Char) : Option Nat :=
  if digits.isEmpty || 4 < digits.length then none
  else (digits.mapM percentValue?).map (·.foldl (· * 16 + ·) 0)

/-- The pieces in texts. Where `endsHere`, four bytes may stand for the last two. -/
def pieces? (endsHere : Bool) : List (List Char) → Option (List Nat)
  | [] => some []
  | [last] => ((piece? last).map ([·])).orElse fun _ => if endsHere then quad? last else none
  | piece :: rest => do some ((← piece? piece) :: (← pieces? endsHere rest))

/-- The pieces in a text with colons between them; none in an empty text. -/
def piecesIn? (endsHere : Bool) (text : List Char) : Option (List Nat) :=
  if text.isEmpty then some [] else pieces? endsHere (Text.splitBy (· == ':') text)

/-- The texts before and after the first two colons in a row. -/
def cutAtGap : List Char → Option (List Char × List Char)
  | ':' :: ':' :: rest => some ([], rest)
  | c :: rest => (cutAtGap rest).map fun (before, after) => (c :: before, after)
  | [] => none

/-- The eight pieces of a number of 128 bits. A gap stands for at least one piece, which is zero. -/
def longNumber? (text : List Char) : Option (List Nat) :=
  match cutAtGap text with
  | none => (piecesIn? true text).filter (·.length == 8)
  | some (before, after) => do
    let before ← piecesIn? false before
    let after ← piecesIn? true after
    if before.length + after.length ≤ 7 then
      some (before ++ List.replicate (8 - before.length - after.length) 0 ++ after)
    else none

/-- How many zeros there are in a row from a place on. -/
def zerosFrom (pieces : List Nat) (place : Nat) : Nat := ((pieces.drop place).takeWhile (· == 0)).length

/-- The place and the length of the longest row of zeros, the first one if there are several. -/
def longestZeros (pieces : List Nat) : Nat × Nat :=
  (List.range pieces.length).foldl
    (fun best place =>
      if best.2 < zerosFrom pieces place then (place, zerosFrom pieces place) else best)
    (0, 0)

/-- Pieces in writing. -/
def piecesText (pieces : List Nat) : List Char :=
  List.intercalate [':'] (pieces.map (Nat.toDigits 16))

/-- A number of 128 bits in writing, with a gap for two zeros or more. -/
def longText (pieces : List Nat) : List Char :=
  let (place, length) := longestZeros pieces
  if length < 2 then piecesText pieces
  else piecesText (pieces.take place) ++ [':', ':'] ++ piecesText (pieces.drop (place + length))

end Triage.Http
