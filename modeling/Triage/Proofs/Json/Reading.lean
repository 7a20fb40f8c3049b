import Triage.Proofs.Json.Scanning
import Triage.Proofs.Json.Spelling
import Triage.Proofs.Text.Utf8
import Mathlib.Data.String.Basic

namespace Triage.Json

/-!
# Reading back a compact writing

* `Value.document` — the document that a value is written as.
* `tokens_document`, `ofSymbols?_render` — the writing of a value is read as that document.
* `Value.IsProper` — a value as it comes out of a text, with arrays and objects only so deep.
* `value?_document`, `ofString?_text` — the document of such a value means it.
-/

/-! ### Documents -/

namespace Value

mutual

/-- The document that a value is written as. -/
def document : Value → Document
  | .null => .null
  | .bool b => .bool b
  | .number x => .numeral x.numeral
  | .string s => .string (some s)
  | .array items => .array (itemDocuments items)
  | .object members => .object (memberDocuments members)

/-- The documents of items. -/
def itemDocuments : List Value → List Document
  | [] => []
  | v :: rest => document v :: itemDocuments rest

/-- The documents of members, with their keys. -/
def memberDocuments : List (String × Value) → List (Key × Document)
  | [] => []
  | (key, v) :: rest => (some key, document v) :: memberDocuments rest

end

/-- The documents of members stand under their keys, in order. -/
theorem memberDocuments_eq_map (members : List (String × Value)) :
    memberDocuments members = members.map fun member => (some member.1, document member.2) := by
  induction members with
  | nil => rfl
  | cons member rest ih => rw [memberDocuments, ih, List.map_cons]

end Value

namespace Value

mutual

/-- The tokens of a value are those of its document. -/
theorem tokens_document : (v : Value) → v.document.tokens = v.tokens
  | .null => rfl
  | .bool _ => rfl
  | .number _ => rfl
  | .string _ => rfl
  | .array items => by rw [document, Document.tokens, tokens, itemTokens_itemDocuments items]
  | .object members => by
    rw [document, Document.tokens, tokens, memberTokens_memberDocuments members]

/-- The tokens of items are those of their documents. -/
theorem itemTokens_itemDocuments :
    (items : List Value) → Document.itemTokens (itemDocuments items) = itemTokens items
  | [] => rfl
  | [v] => tokens_document v
  | v :: w :: rest => by
    -- The comma is due to the next item, which has to be seen for it.
    have hrest := itemTokens_itemDocuments (w :: rest)
    rw [itemDocuments] at hrest
    rw [itemDocuments, itemDocuments, Document.itemTokens, itemTokens, tokens_document v, hrest]

/-- The tokens of members are those of their documents, behind the keys. -/
theorem memberTokens_memberDocuments :
    (members : List (String × Value)) →
      Document.memberTokens (memberDocuments members) = memberTokens members
  | [] => rfl
  | [(key, v)] => by
    rw [memberDocuments, memberDocuments, Document.memberTokens, memberTokens, tokens_document v]
  | (key, v) :: (other, w) :: rest => by
    have hrest := memberTokens_memberDocuments ((other, w) :: rest)
    rw [memberDocuments] at hrest
    rw [memberDocuments, memberDocuments, Document.memberTokens, memberTokens, tokens_document v,
      hrest]

end

end Value

/-- **The compact writing of a value is read as its document.** -/
theorem ofSymbols?_render {v : Value} (h : v.HasIntegers) :
    Document.ofSymbols? (v.render.map some) = some v.document := by
  rw [Document.ofSymbols?, tokens?_render h, Option.bind_eq_bind, Option.bind_some]
  exact ofTokens?_eq_some_iff.2 v.tokens_document.symm

/-! ### Meaning -/

namespace Value

mutual

/-- The value may come out of a text in which arrays and objects nest at most `room` deep: its numbers
are integers of 64 bits, and its members are in the order of their keys, each key once. -/
def IsProper (room : Nat) : Value → Prop
  | .null | .bool _ | .string _ => True
  | .number x => x.IsInteger
  | .array items => room ≠ 0 ∧ AreProper (room - 1) items
  | .object members =>
    room ≠ 0 ∧ (members.map (·.1)).Pairwise (· < ·) ∧ AreProperMembers (room - 1) members

/-- All the items are proper. -/
def AreProper (room : Nat) : List Value → Prop
  | [] => True
  | v :: rest => v.IsProper room ∧ AreProper room rest

/-- All the members are proper. -/
def AreProperMembers (room : Nat) : List (String × Value) → Prop
  | [] => True
  | (_, v) :: rest => v.IsProper room ∧ AreProperMembers room rest

end

/-- A key after all the others is put at the end. -/
theorem insert_of_forall_lt {key : String} {v : Value} {members : List (String × Value)}
    (h : ∀ k ∈ members.map (·.1), k < key) : insert key v members = members ++ [(key, v)] := by
  induction members with
  | nil => rfl
  | cons member rest ih =>
    obtain ⟨k, w⟩ := member
    -- The first key is neither the same nor a later one.
    have hk : k < key := h k (by simp)
    rw [insert, if_neg (by rintro rfl; exact lt_irrefl _ hk), if_neg (lt_asymm hk),
      ih fun k hmem => h k (List.mem_cons_of_mem _ hmem), List.cons_append]

mutual

/-- **The document of a proper value means it.** -/
theorem value?_document (room : Nat) :
    (v : Value) → v.IsProper room → v.document.value? room = some v
  | .null, _ => rfl
  | .bool _, _ => rfl
  | .number x, h => by
    rw [document, Document.value?, Number.number?_numeral h, Option.map_some]
  | .string _, _ => rfl
  | .array items, h => by
    rw [document, Document.value?, if_neg h.1, items?_itemDocuments (room - 1) items h.2,
      Option.map_some]
  | .object members, h => by
    rw [document, Document.value?, if_neg h.1,
      members?_memberDocuments (room - 1) [] members h.2.2 h.2.1, Option.map_some, List.nil_append]

/-- The documents of proper items mean them. -/
theorem items?_itemDocuments (room : Nat) :
    (items : List Value) → AreProper room items →
      Document.items? room (itemDocuments items) = some items
  | [], _ => rfl
  | v :: rest, h => by
    rw [itemDocuments, Document.items?, value?_document room v h.1,
      items?_itemDocuments room rest h.2]
    rfl

/-- The documents of proper members mean them, put behind those so far. -/
theorem members?_memberDocuments (room : Nat) (sofar : List (String × Value)) :
    (members : List (String × Value)) → AreProperMembers room members →
      ((sofar ++ members).map (·.1)).Pairwise (· < ·) →
      Document.members? room sofar (memberDocuments members) = some (sofar ++ members)
  | [], _, _ => by rw [memberDocuments, Document.members?, List.append_nil]
  | (key, v) :: rest, h, hsorted => by
    -- The keys are in order, so each member is inserted behind those so far.
    have hlast : ∀ k ∈ sofar.map (·.1), k < key := by
      intro k hk
      rw [List.map_append, List.pairwise_append] at hsorted
      exact hsorted.2.2 k hk key (by simp)
    rw [memberDocuments, Document.members?, value?_document room v h.1]
    simp only [Option.bind_eq_bind, Option.bind_some]
    rw [insert_of_forall_lt hlast, members?_memberDocuments room (sofar ++ [(key, v)]) rest h.2
      (by simpa using hsorted)]
    simp

end

mutual

/-- The numbers of a proper value are integers. -/
theorem hasIntegers_of_isProper (room : Nat) : (v : Value) → v.IsProper room → v.HasIntegers
  | .null, _ => trivial
  | .bool _, _ => trivial
  | .number _, h => h
  | .string _, _ => trivial
  | .array items, h => itemsHaveIntegers_of_areProper (room - 1) items h.2
  | .object members, h => membersHaveIntegers_of_areProper (room - 1) members h.2.2

/-- The numbers of proper items are integers. -/
theorem itemsHaveIntegers_of_areProper (room : Nat) :
    (items : List Value) → AreProper room items → ItemsHaveIntegers items
  | [], _ => trivial
  | v :: rest, h =>
    ⟨hasIntegers_of_isProper room v h.1, itemsHaveIntegers_of_areProper room rest h.2⟩

/-- The numbers of proper members are integers. -/
theorem membersHaveIntegers_of_areProper (room : Nat) :
    (members : List (String × Value)) → AreProperMembers room members →
      MembersHaveIntegers members
  | [], _ => trivial
  | (_, v) :: rest, h =>
    ⟨hasIntegers_of_isProper room v h.1, membersHaveIntegers_of_areProper room rest h.2⟩

end

/-- The numbers of a proper value are integers, however deep it may be. -/
theorem IsProper.hasIntegers {room : Nat} {v : Value} (h : v.IsProper room) : v.HasIntegers :=
  hasIntegers_of_isProper room v h

/-- **Reading undoes compact writing**, for every value that may come out of a text. -/
theorem ofString?_text {v : Value} (h : v.IsProper maxDepth) : ofString? v.text = some v := by
  rw [ofString?, Document.ofString?, text, String.toList_ofList, ofSymbols?_render h.hasIntegers]
  exact value?_document maxDepth v h

end Value

end Triage.Json
