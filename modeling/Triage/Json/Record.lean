import Triage.Json.Value

namespace Triage.Json

/-!
# Documents that stand for records

* `Document.fields?` — the fields of a record with known names, from an object or from an array.
* `Document.optionalString?`, `Document.stringOrEmpty?`, `Document.optionalValue?` — fields that may
  be left out.

Of an object only the members with a known name are looked into: none of them may repeat, and every
key has to denote a text, but the values of the others are free. An array holds the fields in order.
-/

/-- The fields of a record, by name. -/
abbrev Fields := String → Option Document

namespace Document

/-- How many members have the key. -/
def occurrences (name : String) (members : List (Key × Document)) : Nat :=
  members.countP (·.1 == some name)

/-- The fields with the known names. An array gives the first `least` of them at least. -/
def fields? (names : List String) (least : Nat) : Document → Option Fields
  | .object members =>
    if members.all (·.1.isSome) && names.all (occurrences · members ≤ 1) then
      some fun name => members.lookup (some name)
    else none
  | .array items =>
    if least ≤ items.length && items.length ≤ names.length then
      some fun name => (names.zip items).lookup name
    else none
  | _ => none

/-- The text of a field that may be null or missing. -/
def optionalString? : Option Document → Option (Option String)
  | none | some .null => some none
  | some d => d.string?.map some

/-- The text of a field that may be missing, but not null. -/
def stringOrEmpty? : Option Document → Option String
  | none => some ""
  | some d => d.string?

/-- The value of a field that may be null or missing. -/
def optionalValue? (room : Nat) : Option Document → Option (Option Value)
  | none | some .null => some none
  | some d => (d.value? room).map some

end Document

end Triage.Json
