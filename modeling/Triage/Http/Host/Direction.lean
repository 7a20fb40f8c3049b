import Triage.Http.Host.DirectionTable
import Triage.Text.Mark

namespace Triage.Http

/-!
# Directions in host names

A name with letters that are written from right to left has to look the same in any surroundings: each
label keeps to one direction.

* `Direction` — what a character does to the direction of writing.
* `keepsDirection` — a label keeps to the direction of its first letter.
* `directionsStand` — the rule for the labels of a name.
-/

/-- What a character does to the direction of writing. -/
inductive Direction
  /-- A letter that is written from left to right. -/
  | left
  /-- A letter that is written from right to left. -/
  | right
  /-- A letter of Arabic and its kin. -/
  | arabic
  | arabicDigit
  | europeanDigit
  /-- Plus and minus. -/
  | sign
  /-- A mark between digits. -/
  | separator
  /-- A sign around numbers. -/
  | terminator
  /-- Symbols and punctuation. -/
  | neutral
  /-- A character that only joins or parts its neighbours. -/
  | boundary
  /-- A mark, which goes with the character before it. -/
  | mark
  deriving DecidableEq, Repr

/-- The direction of an ASCII character. -/
def asciiDirection (c : Char) : Direction :=
  if c.isAlpha then .left
  else if c.isDigit then .europeanDigit
  else if c == '+' || c == '-' then .sign
  else if c == '#' || c == '$' || c == '%' then .terminator
  else if [',', '.', '/', ':'].contains c then .separator
  else .neutral

/-- The directions other than from left to right, with their characters. -/
def directionRanges : List (Direction × List (Nat × Nat)) :=
  [(.right, rightToLeftRanges), (.arabic, arabicLetterRanges), (.arabicDigit, arabicDigitRanges),
    (.europeanDigit, europeanDigitRanges), (.sign, signRanges), (.separator, separatorRanges),
    (.terminator, terminatorRanges), (.neutral, neutralRanges), (.boundary, boundaryRanges)]

/-- The marks without a width that are written from left to right all the same. -/
def leftMarks : List Nat := [0xCBF, 0xCC6, 0x11A07, 0x11A08, 0x11C3F]

/-- The direction of a character in a host name. -/
def directionOf (c : Char) : Direction :=
  if c.toNat < 0x80 then asciiDirection c
  else if Text.isNonspacing c then if leftMarks.contains c.toNat then .left else .mark
  else match directionRanges.find? fun (_, ranges) => Text.inRanges ranges c.toNat with
    | some (direction, _) => direction
    | none => .left

namespace Direction

/-- The direction goes from right to left. -/
def isBackward : Direction → Bool
  | .right | .arabic | .arabicDigit => true
  | _ => false

/-- May end a label from left to right, marks apart. -/
def endsForward : Direction → Bool
  | .left | .europeanDigit => true
  | _ => false

/-- May end a label from right to left, marks apart. -/
def endsBackward : Direction → Bool
  | .right | .arabic | .arabicDigit | .europeanDigit => true
  | _ => false

end Direction

/-- A label that starts with a letter from left to right keeps to that direction. `rest` is what follows
the letter, in reverse and without the marks at the end. -/
def keepsForward (rest : List Direction) : Bool :=
  rest.head?.all (·.endsForward) && rest.all (!·.isBackward)

/-- A label that starts with a letter from right to left keeps to that direction, and has digits of
one kind. -/
def keepsBackward (rest : List Direction) : Bool :=
  rest.head?.all (·.endsBackward) && rest.all (· != .left)
    && !(rest.contains .arabicDigit && rest.contains .europeanDigit)

/-- The label starts with a letter and keeps to its direction. -/
def keepsDirection (label : List Char) : Bool :=
  match label.map directionOf with
  | [] => true
  | first :: rest =>
    let rest := rest.reverse.dropWhile (· == .mark)
    match first with
    | .left => keepsForward rest
    | .right | .arabic => keepsBackward rest
    | _ => false

/-- In a name with anything from right to left, every label keeps to its direction. -/
def directionsStand (labels : List (List Char)) : Bool :=
  !(labels.any fun label => label.any fun c => (directionOf c).isBackward)
    || labels.all keepsDirection

end Triage.Http
