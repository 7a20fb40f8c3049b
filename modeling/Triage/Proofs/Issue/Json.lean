import Triage.Issue.Json
import Triage.Proofs.Json.Record

namespace Triage

/-!
# Issues in JSON and back

* `Issue.IsProper` — an issue as it may come out of a text; `Issue.asRead` — how it comes out of one.
* `Issue.ofDocument?_toJson` — an issue is read back from the object that describes it.
-/

open Json

/-- An issue whose numbers have 64 bits, with a pull request member that may stand in a text. -/
structure Issue.IsProper (issue : Issue) : Prop where
  id_le : issue.id ≤ Text.maxWord
  number_le : issue.number ≤ Text.maxWord
  pullRequest : ∀ v ∈ issue.pullRequest, v.IsProper (maxDepth - 1)

/-- The issue as it is read: a pull request member that is null counts as none. -/
def Issue.asRead (issue : Issue) : Issue :=
  { issue with pullRequest := issue.pullRequest.filter (!·.isNull) }

/-- An issue that is read is a pull request if it was one. -/
@[simp] theorem Issue.isPullRequest_asRead (issue : Issue) :
    issue.asRead.isPullRequest = issue.isPullRequest := by
  unfold Issue.isPullRequest Issue.asRead
  cases issue.pullRequest with
  | none => rfl
  | some v => cases h : v.isNull <;> simp [h]

/-- A text that may be missing holds no number. -/
theorem optionalString_hasIntegers (text : Option String) :
    ((text.map Value.string).getD .null).HasIntegers := by
  cases text <;> trivial

/-- Labels hold no number. -/
theorem Label.itemsHaveIntegers (labels : List Label) :
    Value.ItemsHaveIntegers (labels.map fun label => .object [("name", .string label)]) := by
  induction labels with
  | nil => trivial
  | cons label rest ih => exact ⟨⟨trivial, trivial⟩, ih⟩

/-- The numbers in the description of a proper issue are integers. -/
theorem Issue.IsProper.hasIntegers {issue : Issue} (h : issue.IsProper) :
    issue.toJson.HasIntegers := by
  have hrequest : (issue.pullRequest.getD .null).HasIntegers := by
    cases hvalue : issue.pullRequest with
    | none => trivial
    | some v => exact (h.pullRequest v hvalue).hasIntegers
  exact ⟨h.id_le, h.number_le, trivial, optionalString_hasIntegers issue.body, trivial,
    Label.itemsHaveIntegers issue.labels, hrequest, trivial⟩

/-! ### Reading -/

/-- A label is read back from the object with its name. -/
theorem Label.ofDocument?_document (label : Label) :
    Label.ofDocument? (Value.object [("name", .string label)]).document = some label := by
  have hkeys : ["name"].Nodup := by decide
  rw [Label.ofDocument?, Value.fields?_document (by exact hkeys)]
  rfl

/-- Labels are read back from the list of them. -/
theorem Label.mapM_ofDocument? (labels : List Label) :
    (Value.itemDocuments (labels.map fun label => .object [("name", .string label)])).mapM
      Label.ofDocument? = some labels := by
  induction labels with
  | nil => rfl
  | cons label rest ih =>
    rw [List.map_cons, Value.itemDocuments, List.mapM_cons, Label.ofDocument?_document, ih]
    rfl

/-- A pull request member is read back, unless it is null. -/
theorem optionalValue?_document {room : Nat} {value : Option Value}
    (h : ∀ v ∈ value, v.IsProper room) :
    Document.optionalValue? room (some (value.getD .null).document)
      = some (value.filter (!·.isNull)) := by
  cases value with
  | none => rfl
  | some v =>
    have hread : (v.document.value? room).map some = some (some v) := by
      rw [Value.value?_document room v (h v rfl), Option.map_some]
    -- Null is the one value that is taken for none.
    cases v with
    | null => rfl
    | _ => exact hread

/-- **An issue is read back from the object that describes it.** -/
theorem Issue.ofDocument?_toJson {issue : Issue} (h : issue.IsProper) :
    Issue.ofDocument? issue.toJson.document = some issue.asRead := by
  have hkeys : Issue.fieldNames.Nodup := by decide
  have hid := Value.natural?_document h.id_le
  have hnumber := Value.natural?_document h.number_le
  have htitle : (Value.string issue.title).document.string? = some issue.title := rfl
  have hstate : Document.stringOrEmpty? (some (Value.string issue.state).document)
      = some issue.state := rfl
  have hlabels : Label.listOf? (some (Value.array (issue.labels.map fun label =>
      .object [("name", .string label)])).document) = some issue.labels :=
    Label.mapM_ofDocument? issue.labels
  have hrequest := optionalValue?_document h.pullRequest
  -- Each field is found under its name, and read back as shown above.
  rw [Issue.ofDocument?, Issue.toJson, Value.fields?_document (by exact hkeys)]
  simp [List.lookup_cons, hid, hnumber, htitle, Value.optionalString?_document, hstate, hlabels, hrequest,
    Issue.asRead]

end Triage
