import Triage.Text.CompositeTable

namespace Triage.Text

/-!
# Composed form

A letter and its marks may be one character or several. In the composed form marks stand in the order
of their classes, and each character has taken up the marks that it can.

* `combiningClass` — the class of a mark; zero for all that is no mark of this kind.
* `parts?`, `whole?` — the two characters that one is made of, and back.
* `inOrder` — a text with its marks in order.
* `composed` — the composed form.
-/

/-- The combining class of a character. -/
def combiningClass (c : Char) : Nat :=
  match combiningRuns.find? fun (first, last, _) => first ≤ c.toNat && c.toNat ≤ last with
  | some (_, _, k) => k
  | none => 0

/-! ### Characters and their parts -/

/-- The characters of a text in pairs. -/
def pairsOf : List Char → List (Char × Char)
  | a :: b :: rest => (a, b) :: pairsOf rest
  | _ => []

/-- A syllable of Hangul from its first two letters, or from these together and its third one. -/
def syllable? (first second : Char) : Option Char :=
  let a := first.toNat
  let b := second.toNat
  if 0x1100 ≤ a ∧ a ≤ 0x1112 ∧ 0x1161 ≤ b ∧ b ≤ 0x1175 then
    some (Char.ofNat (0xAC00 + ((a - 0x1100) * 21 + (b - 0x1161)) * 28))
  else if 0xAC00 ≤ a ∧ a ≤ 0xD7A3 ∧ (a - 0xAC00) % 28 = 0 ∧ 0x11A8 ≤ b ∧ b ≤ 0x11C2 then
    some (Char.ofNat (a + (b - 0x11A7)))
  else none

/-- The two parts of a syllable of Hangul. -/
def syllableParts? (c : Char) : Option (Char × Char) :=
  if 0xAC00 ≤ c.toNat ∧ c.toNat ≤ 0xD7A3 then
    let place := c.toNat - 0xAC00
    if place % 28 = 0 then
      some (Char.ofNat (0x1100 + place / 28 / 21), Char.ofNat (0x1161 + place / 28 % 21))
    else some (Char.ofNat (c.toNat - place % 28), Char.ofNat (0x11A7 + place % 28))
  else none

/-- The character that two others make. -/
def whole? (first second : Char) : Option Char :=
  (syllable? first second).orElse fun _ =>
    compositeRuns.findSome? fun (mark, text) =>
      if mark = second.toNat then (pairsOf text.toList).lookup first else none

/-- The two characters that make another one. -/
def parts? (c : Char) : Option (Char × Char) :=
  if c.toNat < 0x80 then none
  else (syllableParts? c).orElse fun _ =>
    compositeRuns.findSome? fun (mark, text) =>
      ((pairsOf text.toList).find? (·.2 == c)).map fun (first, _) => (first, Char.ofNat mark)

/-- A character in its parts, the first of which is taken apart `depth` times at most. -/
def spelledOut : (depth : Nat) → Char → List Char
  | 0, c => [c]
  | depth + 1, c =>
    match parts? c with
    | none => [c]
    | some (first, second) => spelledOut depth first ++ [second]

/-- No character is made of more than four. -/
def deepest : Nat := 3

/-! ### Order of marks -/

/-- Puts a character in front of a text whose marks are in order. -/
def putMark (c : Char) : List Char → List Char
  | [] => [c]
  | d :: rest =>
    if 0 < combiningClass d ∧ combiningClass d < combiningClass c then d :: putMark c rest
    else c :: d :: rest

/-- The text with its marks in order: between two other characters, marks of a lower class come first. -/
def inOrder : List Char → List Char
  | [] => []
  | c :: rest => putMark c (inOrder rest)

/-! ### Composition -/

/-- Composes what follows a character. `passed` holds the marks in between that it has not taken up,
in reverse, and `last` is the class of the last one: it hides marks of its own class. -/
def composeFrom (base : Char) (passed : List Char) (last : Nat) : List Char → List Char
  | [] => base :: passed.reverse
  | c :: rest =>
    let k := combiningClass c
    match if passed.isEmpty || last < k then whole? base c else none with
    | some whole => composeFrom whole passed last rest
    | none =>
      if k = 0 then base :: passed.reverse ++ composeFrom c [] 0 rest
      else composeFrom base (c :: passed) k rest

/-- The composed form of a text. Characters that fall into parts for good are left as they are. -/
def composed (text : List Char) : List Char :=
  let spelled := inOrder (text.flatMap (spelledOut deepest))
  spelled.takeWhile (combiningClass · != 0) ++
    match spelled.dropWhile (combiningClass · != 0) with
    | [] => []
    | base :: rest => composeFrom base [] 0 rest

/-- The empty text is composed. -/
@[simp] theorem composed_nil : composed [] = [] := rfl

end Triage.Text
