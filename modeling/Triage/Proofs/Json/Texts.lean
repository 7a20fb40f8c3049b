import Triage.Proofs.Json.Lexing
import Triage.Proofs.Json.Spelling
import Mathlib.Data.List.Basic

namespace Triage.Json

/-!
# Texts of arrays and objects

The text of an array is put together from those of its items, and the text of an object from those of its
members, with any white space around each of them.

* `ValueText`, `MemberText` — a text with the document that it is read as, and a member of an object.
* `Margins`, `ValueText.ofItems`, `ValueText.ofMembers` — texts of arrays and objects, with the proof that
  they are read as such.
* `ValueText.exists_eq_ofItems`, `ValueText.exists_eq_ofMembers` — all texts of arrays and objects in which
  anything stands are of this kind.
-/

/-- A text is read as a document exactly if it has the tokens of that document. -/
theorem ofSymbols?_eq_some_iff {text : List Symbol} {d : Document} :
    Document.ofSymbols? text = some d ↔ tokens? text = some d.tokens := by
  have hread : Document.ofSymbols? text = (tokens? text).bind Document.ofTokens? := rfl
  rw [hread, Option.bind_eq_some_iff]
  simp only [ofTokens?_eq_some_iff, exists_eq_right]

/-! ### Texts between commas -/

/-- The tokens of items stand between commas. -/
theorem itemTokens_eq_intercalate (items : List Document) :
    Document.itemTokens items = [Token.comma].intercalate (items.map (·.tokens)) := by
  induction items with
  | nil => rfl
  | cons d rest ih =>
    cases rest with
    | nil => simp [Document.itemTokens]
    | cons next rest =>
      rw [Document.itemTokens, ih, List.map_cons, List.map_cons, List.map_cons,
        List.intercalate_cons_cons]
      simp

/-- The tokens of one member. -/
def singleTokens (member : Key × Document) : List Token :=
  .string member.1 :: .colon :: member.2.tokens

/-- The tokens of members stand between commas. -/
theorem memberTokens_eq_intercalate (members : List (Key × Document)) :
    Document.memberTokens members = [Token.comma].intercalate (members.map singleTokens) := by
  induction members with
  | nil => rfl
  | cons member rest ih =>
    cases rest with
    | nil => simp [Document.memberTokens, singleTokens]
    | cons next rest =>
      rw [Document.memberTokens, ih, List.map_cons, List.map_cons, List.map_cons,
        List.intercalate_cons_cons]
      simp [singleTokens]

section Commas

variable {α β : Type} {text : α → List Symbol}

/-- Texts with commas between them have the tokens of all of them, with commas between. -/
theorem tokens?_intercalate {spelling : α → List Token} (h : ∀ a, tokens? (text a) = some (spelling a))
    (pieces : List α) :
    tokens? ([some ','].intercalate (pieces.map text))
      = some ([Token.comma].intercalate (pieces.map spelling)) := by
  induction pieces with
  | nil => rfl
  | cons first rest ih =>
    cases rest with
    | nil => simpa using h first
    | cons next rest =>
      have hmark : mark? ',' = some .comma := rfl
      rw [List.map_cons, List.map_cons, List.map_cons, List.map_cons, List.intercalate_cons_cons,
        List.intercalate_cons_cons]
      simpa using tokens?_append_mark (h first) hmark ih

/-- A text that has commas among its tokens is cut at them, into pieces of the kind that each of its parts
is spelled by. -/
theorem exists_pieces_of_intercalate {part : α → β} {spelling : β → List Token}
    (h : ∀ symbols b, tokens? symbols = some (spelling b) → ∃ a, text a = symbols ∧ part a = b)
    {parts : List β} (hne : parts ≠ []) {symbols : List Symbol}
    (htext : tokens? symbols = some ([Token.comma].intercalate (parts.map spelling))) :
    ∃ pieces : List α, symbols = [some ','].intercalate (pieces.map text) ∧ pieces.map part = parts := by
  induction parts generalizing symbols with
  | nil => exact absurd rfl hne
  | cons b rest ih =>
    cases rest with
    | nil =>
      obtain ⟨a, rfl, rfl⟩ := h symbols b (by simpa using htext)
      exact ⟨[a], by simp, rfl⟩
    | cons next rest =>
      rw [List.map_cons, List.map_cons, List.intercalate_cons_cons, List.append_assoc,
        List.singleton_append] at htext
      have hmark : mark? ',' = some .comma := rfl
      obtain ⟨first, second, rfl, hfirst, hsecond⟩ := exists_pieces_of_tokens? hmark htext
      obtain ⟨a, rfl, rfl⟩ := h first b hfirst
      obtain ⟨pieces, rfl, hpieces⟩ := ih (by simp) hsecond
      -- there is at least one more piece, which the comma stands in front of
      cases pieces with
      | nil => simp at hpieces
      | cons other pieces =>
        refine ⟨a :: other :: pieces, ?_, by rw [List.map_cons, hpieces]⟩
        rw [List.map_cons, List.map_cons, List.map_cons, List.intercalate_cons_cons]
        simp

end Commas

/-! ### Texts between brackets -/

/-- White space in front of an array or object, and behind it. -/
structure Margins where
  left : List Symbol
  right : List Symbol
  left_blank : IsBlank left
  right_blank : IsBlank right

/-- No white space. -/
def Margins.none : Margins := ⟨[], [], by simp [IsBlank], by simp [IsBlank]⟩

/-- A text between two characters, with margins around them. -/
def Margins.enclose (margins : Margins) (opening closing : Char) (inner : List Symbol) : List Symbol :=
  margins.left ++ some opening :: (inner ++ some closing :: margins.right)

section Enclosed

variable {opening closing : Char} {first last : Token} (hopening : mark? opening = some first)
  (hclosing : mark? closing = some last)
include hopening hclosing

/-- A text between two marks has its tokens between theirs, whatever the margins. -/
theorem tokens?_enclose (margins : Margins) {inner : List Symbol} {tokens : List Token}
    (h : tokens? inner = some tokens) :
    tokens? (margins.enclose opening closing inner) = some (first :: tokens ++ [last]) := by
  have hright : tokens? (inner ++ some closing :: margins.right) = some (tokens ++ [last]) :=
    tokens?_append_mark h hclosing (tokens?_eq_nil_iff.2 margins.right_blank)
  have hleft : tokens? margins.left = some [] := tokens?_eq_nil_iff.2 margins.left_blank
  have hboth := tokens?_append_mark hleft hopening hright
  exact hboth

/-- A text whose tokens stand between two marks is a text between them, with margins. -/
theorem exists_enclose_of_tokens? {text : List Symbol} {tokens : List Token}
    (h : tokens? text = some (first :: tokens ++ [last])) :
    ∃ margins inner, text = Margins.enclose margins opening closing inner ∧
      tokens? inner = some tokens := by
  have hfirst : tokens? text = some ([] ++ first :: (tokens ++ [last])) := h
  -- First the opening mark is cut off, then the closing one.
  obtain ⟨left, rest, rfl, hleft, hrest⟩ := exists_pieces_of_tokens? hopening hfirst
  obtain ⟨inner, right, rfl, hinner, hright⟩ := exists_pieces_of_tokens? hclosing hrest
  exact ⟨⟨left, right, tokens?_eq_nil_iff.1 hleft, tokens?_eq_nil_iff.1 hright⟩, inner, rfl, hinner⟩

end Enclosed

/-! ### Values and members -/

/-- A text that follows the grammar, with the document that it is read as. -/
structure ValueText where
  text : List Symbol
  document : Document
  reads : Document.ofSymbols? text = some document

/-- The tokens of such a text are those of its document. -/
theorem ValueText.tokens?_text (v : ValueText) : tokens? v.text = some v.document.tokens :=
  ofSymbols?_eq_some_iff.1 v.reads

/-- A member of an object: a text that is read as a string, and that of its value. -/
structure MemberText where
  keyText : List Symbol
  key : Key
  value : ValueText
  reads : Document.ofSymbols? keyText = some (.string key)

namespace MemberText

/-- The text of a member. -/
def text (m : MemberText) : List Symbol := m.keyText ++ some ':' :: m.value.text

/-- What a member is read as. -/
def member (m : MemberText) : Key × Document := (m.key, m.value.document)

/-- The tokens of a member are its key, a colon and those of its value. -/
theorem tokens?_text (m : MemberText) : tokens? m.text = some (singleTokens m.member) :=
  tokens?_append_mark (ofSymbols?_eq_some_iff.1 m.reads) rfl m.value.tokens?_text

end MemberText

namespace ValueText

/-- The text of an array. -/
def ofItems (margins : Margins) (items : List ValueText) : ValueText where
  text := margins.enclose '[' ']' ([some ','].intercalate (items.map (·.text)))
  document := .array (items.map (·.document))
  reads := by
    rw [ofSymbols?_eq_some_iff, Document.tokens, itemTokens_eq_intercalate, List.map_map]
    exact tokens?_enclose rfl rfl margins (tokens?_intercalate tokens?_text items)

/-- The text of an object. -/
def ofMembers (margins : Margins) (members : List MemberText) : ValueText where
  text := margins.enclose '{' '}' ([some ','].intercalate (members.map (·.text)))
  document := .object (members.map (·.member))
  reads := by
    rw [ofSymbols?_eq_some_iff, Document.tokens, memberTokens_eq_intercalate, List.map_map]
    exact tokens?_enclose rfl rfl margins (tokens?_intercalate MemberText.tokens?_text members)

end ValueText

/-! ### All texts of arrays and objects -/

/-- A text with the tokens of a document is read as it. -/
theorem exists_valueText {text : List Symbol} {d : Document} (h : tokens? text = some d.tokens) :
    ∃ v : ValueText, v.text = text ∧ v.document = d :=
  ⟨⟨text, d, ofSymbols?_eq_some_iff.2 h⟩, rfl, rfl⟩

/-- A text with the tokens of a member is put together from its key and its value. -/
theorem exists_memberText {text : List Symbol} {member : Key × Document}
    (h : tokens? text = some (singleTokens member)) :
    ∃ m : MemberText, m.text = text ∧ m.member = member := by
  obtain ⟨key, d⟩ := member
  have hmark : mark? ':' = some .colon := rfl
  -- The first colon is the one behind the key, for the key is one token.
  have hcolon : tokens? text = some ([.string key] ++ .colon :: d.tokens) := h
  obtain ⟨keyText, valueText, rfl, hkey, hvalue⟩ := exists_pieces_of_tokens? hmark hcolon
  exact ⟨⟨keyText, key, ⟨valueText, d, ofSymbols?_eq_some_iff.2 hvalue⟩,
    ofSymbols?_eq_some_iff.2 hkey⟩, rfl, rfl⟩

/-- A text is read as one document. -/
theorem ValueText.eq_of_text {v w : ValueText} (h : v.text = w.text) : v = w := by
  obtain ⟨text, d, hd⟩ := v
  obtain ⟨other, e, he⟩ := w
  obtain rfl : text = other := h
  obtain rfl : d = e := Option.some.inj (hd.symm.trans he)
  rfl

/-- **Every text of an array is put together from those of its items**, if it has any. -/
theorem ValueText.exists_eq_ofItems {v : ValueText} {items : List Document} (hne : items ≠ [])
    (h : v.document = .array items) :
    ∃ margins values, v = ofItems margins values ∧ values.map (·.document) = items := by
  have htokens := v.tokens?_text
  rw [h, Document.tokens, itemTokens_eq_intercalate] at htokens
  have hopening : mark? '[' = some .openBracket := rfl
  have hclosing : mark? ']' = some .closeBracket := rfl
  obtain ⟨margins, inner, htext, hinner⟩ := exists_enclose_of_tokens? hopening hclosing htokens
  obtain ⟨values, rfl, rfl⟩ := exists_pieces_of_intercalate (fun _ _ => exists_valueText) hne hinner
  -- A text has one document, so the parts of the text make the value.
  exact ⟨margins, values, eq_of_text htext, rfl⟩

/-- **Every text of an object is put together from those of its members**, if it has any. -/
theorem ValueText.exists_eq_ofMembers {v : ValueText} {members : List (Key × Document)}
    (hne : members ≠ []) (h : v.document = .object members) :
    ∃ margins ms, v = ofMembers margins ms ∧ ms.map (·.member) = members := by
  have htokens := v.tokens?_text
  rw [h, Document.tokens, memberTokens_eq_intercalate] at htokens
  have hopening : mark? '{' = some .openBrace := rfl
  have hclosing : mark? '}' = some .closeBrace := rfl
  obtain ⟨margins, inner, htext, hinner⟩ := exists_enclose_of_tokens? hopening hclosing htokens
  obtain ⟨ms, rfl, rfl⟩ := exists_pieces_of_intercalate (fun _ _ => exists_memberText) hne hinner
  exact ⟨margins, ms, eq_of_text htext, rfl⟩

end Triage.Json
