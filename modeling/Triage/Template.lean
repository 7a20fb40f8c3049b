import Triage.Label
import Triage.Text.Lowercase
import Triage.Text.Search

namespace Triage.Template

/-!
# Lines of the issue template

* `Field` — the three lines that the template asks for, each with its marker.
* `find?` — the field's line in a body: from the first marker through the end of that line.
* `bugFixLabel`, `typeLabels` — the labels that a line stands for.
-/

/-- A line of the template. -/
inductive Field
  | os
  | bugFix
  | type
  deriving DecidableEq, Repr

/-- The text that a line of the template starts with. -/
def Field.marker : Field → String
  | .os => "* OS:"
  | .bugFix => "* Bug fix:"
  | .type => "* Type:"

/-- The text through its first line break, if it has one. -/
def throughBreak? (text : List Char) : Option (List Char) :=
  (Text.cutAt '\n' text).map fun (line, _) => line ++ ['\n']

/-- From the first place where the marker stands through the end of that line. A marker on a last
line without a line break counts for nothing. -/
def findMarked? (marker : List Char) : List Char → Option (List Char)
  | [] => none
  | c :: rest =>
    if marker.isPrefixOf (c :: rest) then throughBreak? (c :: rest) else findMarked? marker rest

/-- The line of a field in a body, line break included. -/
def find? (field : Field) (body : String) : Option String :=
  (findMarked? field.marker.toList body.toList).map String.ofList

/-- The line says so, letter case aside. -/
def tells (line word : String) : Bool := Text.occurs word.toList (Text.lower line.toList)

/-- A fix of a bug is a `bug`, all else an `enhancement`. -/
def bugFixLabel (line : String) : Label := if tells line "yes" then "bug" else "enhancement"

/-- The labels that the type line can name. -/
def typeNames : List Label :=
  ["doc", "performance", "scripts", "tests", "wheels", "new-api", "new-platform"]

/-- The labels that a type line names, in their fixed order. -/
def typeLabels (line : String) : List Label := typeNames.filter (tells line)

end Triage.Template
