import Triage.Text.Ranges

namespace Triage.Text

/-!
# White space

* `isBlank` — the Unicode property `White_Space`.
* `trim` — a text without the white space at its two ends.
* `isBlankText` — nothing but white space.
-/

/-- The code points with the property `White_Space`. -/
def blankRanges : List (Nat × Nat) :=
  [(0x9, 0xD), (0x20, 0x20), (0x85, 0x85), (0xA0, 0xA0), (0x1680, 0x1680), (0x2000, 0x200A),
    (0x2028, 0x2029), (0x202F, 0x202F), (0x205F, 0x205F), (0x3000, 0x3000)]

/-- White space in the sense of Unicode. -/
def isBlank (c : Char) : Bool := inRanges blankRanges c.toNat

/-- The characters without the white space before the first and after the last other one. -/
def trim (cs : List Char) : List Char :=
  ((cs.dropWhile isBlank).reverse.dropWhile isBlank).reverse

/-- There is no character but white space. -/
def isBlankText (cs : List Char) : Bool := cs.all isBlank

/-- Of the empty text nothing is left to trim. -/
@[simp] theorem trim_nil : trim [] = [] := rfl

end Triage.Text
