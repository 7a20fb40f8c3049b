import Triage.Text.MarkTable
import Triage.Text.Ranges

namespace Triage.Text

/-!
# Marks

* `isNonspacing` — a mark without a width of its own.
* `isMark` — a mark, which goes with the character before it.
-/

/-- The character is a mark without a width of its own. -/
def isNonspacing (c : Char) : Bool := inRanges nonspacingRanges c.toNat

/-- The character is a mark. -/
def isMark (c : Char) : Bool := isNonspacing c || inRanges spacingRanges c.toNat

end Triage.Text
