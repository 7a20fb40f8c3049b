import Triage.Issue
import Triage.Json.Printer
import Triage.Json.Record

namespace Triage

/-!
# Issues in JSON

* `Issue.ofDocument?` — reads an issue; body, pull request, state and labels may be missing.
* `Issue.toJson` — the object that describes an issue.
-/

open Json

/-- The field names of an issue, in their order. -/
def Issue.fieldNames : List String :=
  ["id", "number", "title", "body", "state", "labels", "pull_request"]

/-- A label is a record with a name. -/
def Label.ofDocument? (document : Document) : Option Label := do
  (← (← document.fields? ["name"] 1) "name").string?

/-- The labels of a field that may be missing, but not null. -/
def Label.listOf? : Option Document → Option (List Label)
  | none => some []
  | some (.array items) => items.mapM Label.ofDocument?
  | some _ => none

namespace Issue

/-- Reads an issue. As an array it needs all fields through the body. -/
def ofDocument? (document : Document) : Option Issue := do
  let field ← document.fields? fieldNames 4
  let id ← (← field "id").natural?
  let number ← (← field "number").natural?
  let title ← (← field "title").string?
  let body ← Document.optionalString? (field "body")
  let state ← Document.stringOrEmpty? (field "state")
  let labels ← Label.listOf? (field "labels")
  let pullRequest ← Document.optionalValue? (maxDepth - 1) (field "pull_request")
  some { id, number, title, body, state, labels, pullRequest }

/-- Reads an issue from a text. -/
def ofString? (text : String) : Option Issue := do ofDocument? (← Document.ofString? text)

/-- The object that describes an issue. -/
def toJson (issue : Issue) : Value :=
  .object
    [("id", .ofNat issue.id), ("number", .ofNat issue.number), ("title", .string issue.title),
      ("body", (issue.body.map Value.string).getD .null), ("state", .string issue.state),
      ("labels", .array (issue.labels.map fun label => .object [("name", .string label)])),
      ("pull_request", issue.pullRequest.getD .null)]

end Issue

end Triage
