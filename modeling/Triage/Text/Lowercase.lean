import Triage.Text.CaseTable

namespace Triage.Text

/-!
# Lower-casing by the Unicode rules

* `lowerOne` — the lower case of one character, whatever stands around it.
* `isFinal` — a sigma between these neighbours ends its word.
* `lower` — the lower case of a text.

Only two characters are out of the ordinary: a capital I with a dot becomes two characters, and a
capital sigma at the end of a word becomes the final one.
-/

/-- A letter with a case; on ASCII these are the letters. -/
def isCased (c : Char) : Bool :=
  if c.toNat < 0x80 then c.isAlpha else inRanges casedRanges c.toNat

/-- A character that is looked through when the end of a word is sought. -/
def isCaseIgnorable (c : Char) : Bool :=
  if c.toNat < 0x80 then c == '\'' || c == '.' || c == ':' || c == '^' || c.toNat == 0x60
  else inRanges caseIgnorableRanges c.toNat

/-- The lower case of one character by itself. -/
def lowerOne (c : Char) : List Char :=
  if c.toNat < 0x80 then [if c.isUpper then Char.ofNat (c.toNat + 32) else c]
  else if c = '\u0130' then ['i', '\u0307']
  else match lowerRuns.find? (·.covers c.toNat) with
    | some run => [Char.ofNat (c.toNat + run.shift).toNat]
    | none => [c]

/-- The nearest character that is not looked through has a case. -/
def meetsCased (cs : List Char) : Bool :=
  match cs.dropWhile isCaseIgnorable with
  | [] => false
  | c :: _ => isCased c

/-- A sigma stands at the end of a word: a letter comes before it and none after it. `before` is in
reverse, nearest character first. -/
def isFinal (before after : List Char) : Bool := meetsCased before && !meetsCased after

/-- Lower-cases what follows the text `before`, which is in reverse. -/
def lowerAfter (before : List Char) : List Char → List Char
  | [] => []
  | c :: rest =>
    (if c = 'Σ' then [if isFinal before rest then 'ς' else 'σ'] else lowerOne c)
      ++ lowerAfter (c :: before) rest

/-- The lower case of a text. -/
def lower (text : List Char) : List Char := lowerAfter [] text

/-- The empty text is in lower case. -/
@[simp] theorem lower_nil : lower [] = [] := rfl

end Triage.Text
