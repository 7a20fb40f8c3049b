import Triage.Http.Host.JoiningTable
import Triage.Text.Composed
import Triage.Text.Mark

namespace Triage.Http

/-!
# Joiners in host names

Two characters without a glyph control whether their neighbours join. They stand in a name only where
that can be seen.

* `joinerStands` — the rule for one of them.
* `joinersStand` — the rule for a label.
-/

/-- A character that letters join across. -/
def isTransparent (c : Char) : Bool := Text.isNonspacing c || c.toNat == 0x1E94B

/-- The letter joins the one before it. -/
def joinsBefore (c : Char) : Bool :=
  Text.inRanges dualJoiningRanges c.toNat || Text.inRanges rightJoiningRanges c.toNat

/-- The letter joins the one after it. -/
def joinsAfter (c : Char) : Bool :=
  Text.inRanges dualJoiningRanges c.toNat || Text.inRanges leftJoiningRanges c.toNat

/-- The first character that is not transparent meets the test. -/
def meets (test : Char → Bool) (text : List Char) : Bool :=
  (text.dropWhile isTransparent).head?.any test

/-- The sign that takes the vowel from a letter is before. -/
def followsVirama (before : List Char) : Bool :=
  before.head?.any (Text.combiningClass · == 9)

/-- The character that keeps letters apart. -/
def nonJoiner : Char := '\u200c'

/-- The character that brings letters together. -/
def joiner : Char := '\u200d'

/-- Such a character stands after the text `before`, which is in reverse, and before the text
`after`. -/
def joinerStands (c : Char) (before after : List Char) : Bool :=
  followsVirama before || (c == nonJoiner && meets joinsAfter before && meets joinsBefore after)

/-- All such characters stand in a text that comes after `before`, which is in reverse. -/
def joinersStand (before : List Char) : List Char → Bool
  | [] => true
  | c :: rest =>
    (!(c == nonJoiner || c == joiner) || joinerStands c before rest) && joinersStand (c :: before) rest

end Triage.Http
