import Triage.Json.Record
import Triage.Proofs.Json.Reading
import Mathlib.Data.List.Nodup

namespace Triage.Json

/-!
# The fields of an object in writing

* `fields?_document` — of an object whose keys do not repeat, each member is the field of its key.
* `natural?_document`, `optionalString?_document` — fields of numbers and of texts that may be null.
-/

namespace Value

/-- A number of 64 bits is read back from its document. -/
theorem natural?_document {n : Nat} (h : n ≤ Text.maxWord) :
    (ofNat n).document.natural? = some n := by
  have hnumber : (Number.natural n).numeral.number? = some (.natural n) :=
    Number.number?_numeral (x := .natural n) h
  rw [ofNat, document, Document.natural?, Numeral.natural?, hnumber]

/-- A text that may be missing is read back, from null if it is. -/
theorem optionalString?_document (text : Option String) :
    Document.optionalString? (some ((text.map Value.string).getD .null).document) = some text := by
  cases text <;> rfl

/-- Keys with their documents are as many as without. -/
theorem occurrences_memberDocuments (name : String) (members : List (String × Value)) :
    Document.occurrences name (memberDocuments members) = (members.map (·.1)).count name := by
  rw [Document.occurrences, memberDocuments_eq_map, List.countP_map, List.count_eq_countP,
    List.countP_map]
  congr 1

/-- Under a name stands the document of what stood there. -/
theorem lookup_memberDocuments (name : String) (members : List (String × Value)) :
    (memberDocuments members).lookup (some name) = (members.lookup name).map document := by
  induction members with
  | nil => rfl
  | cons member rest ih =>
    obtain ⟨key, v⟩ := member
    rw [memberDocuments, List.lookup_cons, List.lookup_cons, ih]
    -- The key is a text in any case, so it is compared as one.
    by_cases h : name = key
    · simp [h]
    · simp [beq_eq_false_iff_ne.2 h]

/-- **Each member is the field of its key**, if no key repeats. -/
theorem fields?_document {members : List (String × Value)} (h : (members.map (·.1)).Nodup)
    (names : List String) (least : Nat) :
    (object members).document.fields? names least
      = some fun name => (members.lookup name).map document := by
  have hkeys : (memberDocuments members).all (·.1.isSome) = true := by
    simp [memberDocuments_eq_map]
  -- A name that comes up twice would leave no field to read.
  have honce : names.all (Document.occurrences · (memberDocuments members) ≤ 1) = true := by
    rw [List.all_eq_true]
    intro name _
    rw [occurrences_memberDocuments]
    simpa using List.nodup_iff_count_le_one.1 h name
  rw [document, Document.fields?, hkeys, honce]
  simp only [Bool.and_self, if_true, lookup_memberDocuments]

end Value

end Triage.Json
