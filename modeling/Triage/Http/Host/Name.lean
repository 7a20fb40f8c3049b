import Triage.Http.Host.Direction
import Triage.Http.Host.Form
import Triage.Http.Host.Joining
import Triage.Http.Host.Punycode

namespace Triage.Http

/-!
# Host names

* `isBadInName` — the ASCII characters that stand in no name.
* `readLabel?` — a label of a name in its own characters.
* `isLabel`, `asciiLabel` — the rule for a label above ASCII, and its ASCII form.
* `hostName?` — reads a name, in its ASCII form.
-/

/-- An ASCII character that stands in no name. -/
def isBadInName (c : Char) : Bool :=
  c.toNat ≤ 0x20 || c.toNat == 0x7F
    || ['"', '#', '%', '/', ':', '<', '>', '?', '@', '[', '\\', ']', '^', '\u0060', '{', '|', '}'].contains c

/-- All characters are ASCII ones. -/
def isAscii (text : List Char) : Bool := text.all (·.toNat < 0x80)

/-- The length up to which the ASCII form of a label is read. -/
def maxWritten : Nat := 2000

/-- The length up to which a label above ASCII is taken. -/
def maxLabel : Nat := 1000

/-- The characters after `xn--`, which a label is written with: others than ASCII, and in plain form. -/
def writtenLabel? (written : List Char) : Option (List Char) :=
  if !isAscii written || written.getLast?.all (· == '-') || maxWritten < written.length then none
  else (punyDecode? written).filter isPlain

/-- A label in its own characters. -/
def readLabel? : List Char → Option (List Char)
  | 'x' :: 'n' :: '-' :: '-' :: written => writtenLabel? written
  | label => some label

/-- The label is in ASCII, or it does not start with a mark, its joiners stand, and it is not too
long. -/
def isLabel (label : List Char) : Bool :=
  isAscii label
    || (!label.head?.any Text.isMark && joinersStand [] label && label.length ≤ maxLabel)

/-- The ASCII form of a label. -/
def asciiLabel (label : List Char) : List Char :=
  if isAscii label then label else ['x', 'n', '-', '-'] ++ punyEncode label

/-- Reads a name, in its ASCII form. -/
def hostName? (text : List Char) : Option (List Char) := do
  let name ← plainForm? text
  let labels ← (Text.splitBy (· == '.') name).mapM readLabel?
  if name.any isBadInName then none
  else if labels.all isLabel && directionsStand labels then
    some (List.intercalate ['.'] (labels.map asciiLabel))
  else none

end Triage.Http
