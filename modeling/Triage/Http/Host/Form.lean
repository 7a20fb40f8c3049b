import Triage.Http.Host.FormTable
import Triage.Text.Composed
import Triage.Text.Lowercase
import Triage.Text.Search

namespace Triage.Http

/-!
# Plain form of host names

Many characters stand for others in a host name: capital letters for small ones, wide and ornamented
characters for plain ones, and some for nothing.

* `form?` — what a character stands for.
* `plainForm?` — the plain form of a text.
* `isPlain` — a text that stands for itself.
-/

/-- The one character, other than a lower case, that a code point stands for. -/
def replacement? (n : Nat) : Option Char :=
  replacedRuns.findSome? fun (first, text) =>
    if first ≤ n then text.toList[n - first]? else none

/-- The text that a code point stands for. -/
def rewriting? (n : Nat) : Option (List Char) :=
  rewrittenRuns.findSome? fun (first, text) =>
    if first ≤ n then (Text.splitBy (· == '|') text.toList)[n - first]? else none

/-- The letters of Cherokee that came without a case stand for themselves. -/
def isCaseless (c : Char) : Bool := 0x13A0 ≤ c.toNat && c.toNat ≤ 0x13F5

/-- What a character above ASCII stands for, if it can stand in a name. -/
def wideForm? (c : Char) : Option (List Char) :=
  if Text.inRanges disallowedRanges c.toNat then none
  else if Text.inRanges ignoredRanges c.toNat then some []
  else match replacement? c.toNat with
    | some d => some [d]
    | none =>
      match rewriting? c.toNat with
      | some text => some text
      | none => some (if isCaseless c then [c] else Text.lowerOne c)

/-- What a character stands for, if it can stand in a name. -/
def form? (c : Char) : Option (List Char) :=
  if c.toNat < 0x80 then some [c.toLower] else wideForm? c

/-- The plain form of a text, if each of its characters can stand in a name. -/
def plainForm? (text : List Char) : Option (List Char) :=
  (text.mapM form?).map fun forms => Text.composed forms.flatten

/-- The text stands for itself. -/
def isPlain (text : List Char) : Bool :=
  text.all (fun c => form? c == some [c]) && Text.composed text == text

end Triage.Http
