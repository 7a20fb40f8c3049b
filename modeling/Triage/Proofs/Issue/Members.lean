import Triage.GitHub.Client
import Triage.Issue.Json
import Triage.Proofs.Json.Edits
import Triage.Proofs.Json.Reading
import Mathlib.Logic.Relation

namespace Triage

/-!
# What an issue is read from

An issue is read from the members of its seven names. How its text is laid out otherwise does not matter.

* `Issue.ofSymbols?` — reads an issue from symbols, be it a text or the answer to a request.
* `Issue.ofFields?`, `Issue.defaults`, `Issue.ofFields?_congr` — an issue from its fields, four of which may
  be missing.
* `IssueEdit`, `Issue.ofDocument?_of_edit` — edits of the members that leave the issue as it is.
* `AreInFieldOrder`, `Issue.ofDocument?_of_array` — the array that stands for the same issue.
* `Issue.ofSymbols?_edited` — texts of one issue.
-/

open Json

namespace Issue

/-- Reads an issue from symbols: the characters of a text, or what the bytes of an answer come to. -/
def ofSymbols? (symbols : List Symbol) : Option Issue := (Document.ofSymbols? symbols).bind ofDocument?

/-- A text is read by its characters. -/
theorem ofString?_eq (text : String) : ofString? text = ofSymbols? (text.toList.map some) := rfl

/-- The answer to a request is read by the symbols that its bytes come to. -/
theorem documentOf?_bind (body : List UInt8) :
    (GitHub.documentOf? body).bind ofDocument? = ofSymbols? (Text.decodeUtf8 body) := rfl

/-- A text that follows the grammar is read by its document. -/
theorem ofSymbols?_text (v : ValueText) : ofSymbols? v.text = ofDocument? v.document := by
  rw [ofSymbols?, v.reads, Option.bind_some]

/-! ### Fields -/

/-- An issue from its fields. -/
def ofFields? (field : Fields) : Option Issue := do
  let id ← (← field "id").natural?
  let number ← (← field "number").natural?
  let title ← (← field "title").string?
  let body ← Document.optionalString? (field "body")
  let state ← Document.stringOrEmpty? (field "state")
  let labels ← Label.listOf? (field "labels")
  let pullRequest ← Document.optionalValue? (maxDepth - 1) (field "pull_request")
  some { id, number, title, body, state, labels, pullRequest }

/-- An issue is read from the fields of its names. -/
theorem ofDocument?_eq (d : Document) :
    ofDocument? d = (d.fields? fieldNames 4).bind ofFields? := rfl

/-- What the fields that may be missing come to if they are. -/
def defaults : List (String × Document) :=
  [("body", .null), ("state", .string (some "")), ("labels", .array []), ("pull_request", .null)]

/-- Each default stands under its own name. -/
theorem lookup_defaults {name : String} {d : Document} (h : (name, d) ∈ defaults) :
    defaults.lookup name = some d := by
  simp only [defaults, List.mem_cons, Prod.mk.injEq, List.not_mem_nil, or_false] at h
  rcases h with ⟨rfl, rfl⟩ | ⟨rfl, rfl⟩ | ⟨rfl, rfl⟩ | ⟨rfl, rfl⟩ <;> rfl

/-- The fields, with those that are missing filled in. -/
def withDefaults (field : Fields) : Fields := fun name => (field name).or (defaults.lookup name)

/-- **A missing field is as good as its default.** -/
theorem ofFields?_withDefaults (field : Fields) : ofFields? (withDefaults field) = ofFields? field := by
  have hbody : Document.optionalString? (withDefaults field "body")
      = Document.optionalString? (field "body") := by
    show Document.optionalString? ((field "body").or (some .null)) = _
    cases field "body" <;> rfl
  have hstate : Document.stringOrEmpty? (withDefaults field "state")
      = Document.stringOrEmpty? (field "state") := by
    show Document.stringOrEmpty? ((field "state").or (some (.string (some "")))) = _
    cases field "state" <;> rfl
  have hlabels : Label.listOf? (withDefaults field "labels") = Label.listOf? (field "labels") := by
    show Label.listOf? ((field "labels").or (some (.array []))) = _
    cases field "labels" <;> rfl
  have hrequest : Document.optionalValue? (maxDepth - 1) (withDefaults field "pull_request")
      = Document.optionalValue? (maxDepth - 1) (field "pull_request") := by
    show Document.optionalValue? _ ((field "pull_request").or (some .null)) = _
    cases field "pull_request" <;> rfl
  -- The other fields have no default.
  have hneeded : ∀ name ∈ ["id", "number", "title"], withDefaults field name = field name := by
    intro name hname
    have hnone : defaults.lookup name = none := by
      revert name
      decide
    rw [withDefaults, hnone, Option.or_none]
  rw [ofFields?, ofFields?, hneeded "id" (by simp), hneeded "number" (by simp),
    hneeded "title" (by simp), hbody, hstate, hlabels, hrequest]

/-- **Fields are read alike** if they are the same, up to defaults and to how labels are written. -/
theorem ofFields?_congr {field other : Fields}
    (h : ∀ name ∈ fieldNames, name ≠ "labels" → withDefaults other name = withDefaults field name)
    (hlabels : Label.listOf? (withDefaults other "labels") = Label.listOf? (withDefaults field "labels")) :
    ofFields? other = ofFields? field := by
  have hsame : ∀ name ∈ ["id", "number", "title", "body", "state", "pull_request"],
      withDefaults other name = withDefaults field name := by
    intro name hname
    refine h name ?_ ?_ <;> revert name <;> decide
  rw [← ofFields?_withDefaults, ← ofFields?_withDefaults field, ofFields?, ofFields?, hlabels,
    hsame "id" (by simp), hsame "number" (by simp), hsame "title" (by simp), hsame "body" (by simp),
    hsame "state" (by simp), hsame "pull_request" (by simp)]

/-- The labels of an issue that is read are those in their field. -/
theorem listOf?_of_ofFields? {field : Fields} {issue : Issue} (h : ofFields? field = some issue) :
    Label.listOf? (field "labels") = some issue.labels := by
  simp only [ofFields?, Option.bind_eq_bind, Option.bind_eq_some_iff, Option.some.injEq] at h
  obtain ⟨-, -, -, -, -, -, -, -, -, -, -, -, -, -, -, -, labels, hlabels, -, -, rfl⟩ := h
  exact hlabels

/-- Fields that are the same, up to defaults, are read alike. -/
theorem ofFields?_of_same {field other : Fields}
    (h : ∀ name ∈ fieldNames, withDefaults other name = withDefaults field name) :
    ofFields? other = ofFields? field :=
  ofFields?_congr (fun name hname _ => h name hname) (by rw [h "labels" (by decide)])

end Issue

/-! ### Edits of labels -/

/-- An edit leaves a label as it is. -/
theorem Label.ofDocument?_of_edit {ms more : List MemberText} (h : MemberEdit ["name"] ms more)
    {label : Label} (hlabel : Label.ofDocument? (.object (ms.map (·.member))) = some label) :
    Label.ofDocument? (.object (more.map (·.member))) = some label := by
  unfold Label.ofDocument? at hlabel ⊢
  obtain ⟨field, hfield, hname⟩ := Option.bind_eq_some_iff.1 hlabel
  obtain ⟨other, hother, hsame⟩ := h.fields?_eq hfield
  rw [hother, Option.bind_eq_bind, Option.bind_some, hsame "name" (by simp)]
  exact hname

/-- One label among others is written in another way. -/
theorem Label.mapM_ofDocument?_congr {first last : List Document} {d other : Document}
    (h : ∀ label, Label.ofDocument? d = some label → Label.ofDocument? other = some label)
    {labels : List Label} (hlabels : (first ++ d :: last).mapM Label.ofDocument? = some labels) :
    (first ++ other :: last).mapM Label.ofDocument? = some labels := by
  rw [List.mapM_append, List.mapM_cons] at hlabels ⊢
  cases hd : Label.ofDocument? d with
  | none => simp [hd] at hlabels
  | some label =>
    rw [h label hd]
    rwa [hd] at hlabels

/-! ### Edits of issues -/

/-- The member says what its field would come to without it. -/
def IsDefaultMember (m : MemberText) : Prop :=
  ∃ name, m.key = some name ∧ (name, m.value.document) ∈ Issue.defaults

/-- Members of an issue are put in another order, or one is put in that is not known. The same is done
inside one label. Or a member is left out that says what its field comes to anyway. -/
inductive IssueEdit : List MemberText → List MemberText → Prop
  | members {ms more : List MemberText} (h : MemberEdit Issue.fieldNames ms more) : IssueEdit ms more
  | label (before after : List MemberText) {m : MemberText} (hkey : m.key = some "labels")
      (margins outer inner : Margins) (others : Margins) (first last : List ValueText)
      {ms more : List MemberText} (h : MemberEdit ["name"] ms more) :
    IssueEdit
      (before ++ { m with value := .ofItems margins (first ++ .ofMembers inner ms :: last) } :: after)
      (before ++ { m with value := .ofItems outer (first ++ .ofMembers others more :: last) } :: after)
  | leaveOut (before after : List MemberText) {m : MemberText} (h : IsDefaultMember m) :
    IssueEdit (before ++ m :: after) (before ++ after)

namespace Issue

/-- What an object that is read as an issue comes to. -/
theorem ofDocument?_object_eq_some_iff {members : List (Key × Document)} {issue : Issue} :
    ofDocument? (.object members) = some issue ↔
      AreReadable fieldNames members ∧
        ofFields? (fun name => (valuesOf name members).head?) = some issue := by
  rw [ofDocument?_eq, Option.bind_eq_some_iff]
  constructor
  · rintro ⟨field, hfield, hissue⟩
    obtain ⟨hmembers, rfl⟩ := fields?_object_eq_some_iff.1 hfield
    exact ⟨hmembers, hissue⟩
  · rintro ⟨hmembers, hissue⟩
    exact ⟨_, fields?_object_eq_some_iff.2 ⟨hmembers, rfl⟩, hissue⟩

section Objects

variable {before after : List (Key × Document)} {issue : Issue}

/-- Labels that are written in another way are the same labels. -/
theorem ofDocument?_of_labels {items others : List Document}
    (h : ∀ labels, items.mapM Label.ofDocument? = some labels →
      others.mapM Label.ofDocument? = some labels)
    (hissue : ofDocument? (.object (before ++ (some "labels", .array items) :: after)) = some issue) :
    ofDocument? (.object (before ++ (some "labels", .array others) :: after)) = some issue := by
  obtain ⟨hreadable, hissue⟩ := ofDocument?_object_eq_some_iff.1 hissue
  have hreplaced := hreadable.replace (some "labels", .array others) rfl
  refine ofDocument?_object_eq_some_iff.2 ⟨hreplaced, ?_⟩
  -- Under the key stands the list of labels, before and after.
  have hgiven := head?_valuesOf_eq_some (d := .array items)
    (hreadable.once "labels" (by decide)) (by simp)
  have hwritten := head?_valuesOf_eq_some (d := .array others)
    (hreplaced.once "labels" (by decide)) (by simp)
  have hlabels := listOf?_of_ofFields? hissue
  rw [hgiven] at hlabels
  rw [← hissue]
  refine ofFields?_congr (fun name hname hother => ?_) ?_
  · have hkey : (some "labels" : Key) ≠ some name := fun h => hother (Option.some.inj h).symm
    simp only [withDefaults]
    rw [valuesOf_of_ne hkey, valuesOf_of_ne hkey]
  · simp only [withDefaults, hgiven, hwritten, Option.some_or]
    rw [hlabels]
    exact h _ hlabels

/-- A member that says what its field comes to anyway can be left out. -/
theorem ofDocument?_of_default {name : String} {d : Document} (hdefault : (name, d) ∈ defaults)
    (hissue : ofDocument? (.object (before ++ (some name, d) :: after)) = some issue) :
    ofDocument? (.object (before ++ after)) = some issue := by
  obtain ⟨hreadable, hissue⟩ := ofDocument?_object_eq_some_iff.1 hissue
  refine ofDocument?_object_eq_some_iff.2 ⟨hreadable.remove, ?_⟩
  rw [← hissue]
  refine ofFields?_of_same fun other hother => ?_
  by_cases hname : name = other
  · -- The field is the default before, and after there is none.
    subst hname
    have hgiven := head?_valuesOf_eq_some (d := d) (hreadable.once name hother) (by simp)
    have hnone := valuesOf_eq_nil_of_once (hreadable.once name hother) rfl
    simp only [withDefaults, hgiven, hnone, lookup_defaults hdefault, List.head?_nil, Option.none_or,
      Option.some_or]
  · have hkey : (some name : Key) ≠ some other := fun h => hname (Option.some.inj h)
    simp only [withDefaults]
    rw [valuesOf_of_ne hkey]

end Objects

/-- **An edit leaves the issue as it is.** -/
theorem ofDocument?_of_edit {ms more : List MemberText} (h : IssueEdit ms more) {issue : Issue}
    (hissue : ofDocument? (.object (ms.map (·.member))) = some issue) :
    ofDocument? (.object (more.map (·.member))) = some issue := by
  cases h with
  | members h =>
    rw [ofDocument?_eq] at hissue ⊢
    obtain ⟨field, hfield, hissue⟩ := Option.bind_eq_some_iff.1 hissue
    obtain ⟨other, hother, hsame⟩ := h.fields?_eq hfield
    have hdefaults : ∀ name ∈ fieldNames, withDefaults other name = withDefaults field name :=
      fun name hname => congrArg (Option.or · _) (hsame name hname)
    rw [hother, Option.bind_some, ofFields?_of_same hdefaults, hissue]
  | @label before after m hkey margins outer inner others first last ms more h =>
    -- The list of labels stays, with one of its objects written in another way.
    obtain ⟨keyText, key, value, reads⟩ := m
    obtain rfl : key = some "labels" := hkey
    rw [List.map_append, List.map_cons] at hissue ⊢
    refine ofDocument?_of_labels (fun labels hlabels => ?_) hissue
    rw [List.map_append, List.map_cons] at hlabels ⊢
    exact Label.mapM_ofDocument?_congr (fun _ => Label.ofDocument?_of_edit h) hlabels
  | @leaveOut before after m h =>
    obtain ⟨name, hkey, hdefault⟩ := h
    rw [List.map_append, List.map_cons, MemberText.member, hkey] at hissue
    rw [List.map_append]
    exact ofDocument?_of_default hdefault hissue

/-- Any number of edits leave the issue as it is. -/
theorem ofDocument?_of_edits {ms more : List MemberText} (h : Relation.ReflTransGen IssueEdit ms more)
    {issue : Issue} (hissue : ofDocument? (.object (ms.map (·.member))) = some issue) :
    ofDocument? (.object (more.map (·.member))) = some issue := by
  induction h with
  | refl => exact hissue
  | tail _ hedit ih => exact ofDocument?_of_edit hedit ih

/-- **A second member of a known name is one too many.** -/
theorem ofDocument?_of_twice {before after : List (Key × Document)} {name : String}
    (hname : name ∈ fieldNames) {d : Document} (h : some name ∈ (before ++ after).map (·.1)) :
    ofDocument? (.object (before ++ (some name, d) :: after)) = none := by
  refine Option.eq_none_iff_forall_ne_some.2 fun issue hissue => ?_
  obtain ⟨hreadable, -⟩ := ofDocument?_object_eq_some_iff.1 hissue
  -- Without this member nothing may stand under its name.
  have hnone := valuesOf_eq_nil_of_once (hreadable.once name hname) rfl
  obtain ⟨⟨key, other⟩, hother, rfl⟩ := List.mem_map.1 h
  exact absurd (hnone ▸ mem_valuesOf.2 hother) List.not_mem_nil

end Issue

/-! ### Issues as arrays -/

/-- The item of an array stands for the field of a name: it is the value of the member with that name, or
the default of the field if there is no such member. -/
def StandsFor (ms : List MemberText) (name : String) (item : ValueText) : Prop :=
  (∃ m ∈ ms, m.key = some name ∧ item.document = m.value.document) ∨
    (∀ m ∈ ms, m.key ≠ some name) ∧ (name, item.document) ∈ Issue.defaults

/-- The items are the values of the members in the order of the fields. From the fifth one on they may
stop, if the fields that are left are missing or say what they come to anyway. -/
structure AreInFieldOrder (ms : List MemberText) (items : List ValueText) : Prop where
  least : 4 ≤ items.length
  most : items.length ≤ Issue.fieldNames.length
  given : ∀ pair ∈ Issue.fieldNames.zip items, StandsFor ms pair.1 pair.2
  rest : ∀ name ∈ Issue.fieldNames.drop items.length, ∀ m ∈ ms, m.key = some name → IsDefaultMember m

namespace Issue

/-- **The array of the values in field order is the same issue.** -/
theorem ofDocument?_of_array {ms : List MemberText} {items : List ValueText}
    (h : AreInFieldOrder ms items) {issue : Issue}
    (hissue : ofDocument? (.object (ms.map (·.member))) = some issue) :
    ofDocument? (.array (items.map (·.document))) = some issue := by
  obtain ⟨hreadable, hissue⟩ := ofDocument?_object_eq_some_iff.1 hissue
  have hfields : (Document.array (items.map (·.document))).fields? fieldNames 4
      = some fun name => (fieldNames.zip (items.map (·.document))).lookup name := by
    simp [Document.fields?, h.least, h.most]
  rw [ofDocument?_eq, hfields, Option.bind_some, ← hissue]
  refine ofFields?_of_same fun name hname => ?_
  -- What the member of a name says is the field of the object.
  have hmember : ∀ m ∈ ms, m.key = some name →
      (valuesOf name (ms.map (·.member))).head? = some m.value.document := by
    intro m hm hkey
    refine head?_valuesOf_eq_some (hreadable.once name hname) ?_
    rw [← hkey]
    exact List.mem_map_of_mem hm
  have hmissing : (∀ m ∈ ms, m.key ≠ some name) →
      (valuesOf name (ms.map (·.member))).head? = none := by
    intro hno
    refine head?_valuesOf_eq_none fun member hmem => ?_
    obtain ⟨m, hm, rfl⟩ := List.mem_map.1 hmem
    exact hno m hm
  obtain ⟨i, hi, rfl⟩ := List.getElem_of_mem hname
  have hlookup := lookup_zip (by decide) (items.map (·.document)) hi
  simp only [withDefaults, hlookup]
  -- The array has an item for the field, or it has stopped before.
  by_cases hlength : i < items.length
  · have hpair : (fieldNames[i], items[i]) ∈ fieldNames.zip items := by
      rw [List.mem_iff_getElem]
      exact ⟨i, by simp [hi, hlength], by simp⟩
    rw [List.getElem?_map, List.getElem?_eq_getElem hlength, Option.map_some, Option.some_or]
    rcases h.given _ hpair with ⟨m, hm, hkey, hdocument⟩ | ⟨hno, hdefault⟩
    · rw [hmember m hm hkey, hdocument, Option.some_or]
    · rw [hmissing hno, Option.none_or, lookup_defaults hdefault]
  · rw [List.getElem?_eq_none (by simpa using hlength), Option.none_or]
    by_cases hno : ∀ m ∈ ms, m.key ≠ some fieldNames[i]
    · rw [hmissing hno, Option.none_or]
    · push Not at hno
      obtain ⟨m, hm, hkey⟩ := hno
      have hrest : fieldNames[i] ∈ fieldNames.drop items.length := by
        rw [List.mem_drop_iff_getElem]
        exact ⟨i - items.length, by omega, by congr 1; omega⟩
      obtain ⟨name, hname, hdefault⟩ := h.rest _ hrest m hm hkey
      obtain rfl : fieldNames[i] = name := Option.some.inj (hkey.symm.trans hname)
      rw [hmember m hm hkey, Option.some_or, lookup_defaults hdefault]

/-- **An issue depends on the members of its names alone.** Every text of an object that is read as an
issue is put together from its members. Those may be put in another order, with any others in between, and
likewise inside the labels; what a field comes to anyway may be left out. The text is read as the same
issue then, and so is an array of the values in the order of the fields. With a second member of a known
name it is read as none. White space does not matter. -/
theorem ofSymbols?_edited (issue : Issue) :
    (∀ text members, Document.ofSymbols? text = some (.object members) → ofSymbols? text = some issue →
      ∃ margins ms, text = (ValueText.ofMembers margins ms).text) ∧
    ∀ margins ms, ofSymbols? (ValueText.ofMembers margins ms).text = some issue → ∀ other : Margins,
      (∀ more, Relation.ReflTransGen IssueEdit ms more →
        ofSymbols? (ValueText.ofMembers other more).text = some issue) ∧
      (∀ before after m, ms = before ++ after → m.key ∈ fieldNames.map some →
        m.key ∈ ms.map (·.key) →
        ofSymbols? (ValueText.ofMembers other (before ++ m :: after)).text = none) ∧
      ∀ items, AreInFieldOrder ms items →
        ofSymbols? (ValueText.ofItems other items).text = some issue := by
  constructor
  · intro text members hobject hissue
    rw [ofSymbols?, hobject, Option.bind_some] at hissue
    -- An object without members is no issue.
    have hne : members ≠ [] := by
      rintro rfl
      cases hissue
    obtain ⟨margins, ms, hv, -⟩ := ValueText.exists_eq_ofMembers (v := ⟨text, _, hobject⟩) hne rfl
    exact ⟨margins, ms, congrArg ValueText.text hv⟩
  · intro margins ms hissue other
    rw [ofSymbols?_text] at hissue
    refine ⟨fun more hedits => ?_, fun before after m hms hname hkey => ?_, fun items hitems => ?_⟩
    · rw [ofSymbols?_text]
      exact ofDocument?_of_edits hedits hissue
    · obtain ⟨name, hname, hm⟩ := List.mem_map.1 hname
      have hkeys : some name ∈ (before.map (·.member) ++ after.map (·.member)).map (·.1) := by
        rw [hm, ← List.map_append, ← hms, List.map_map]
        exact hkey
      rw [ofSymbols?_text]
      show ofDocument? (.object ((before ++ m :: after).map (·.member))) = none
      rw [List.map_append, List.map_cons, MemberText.member, ← hm]
      exact ofDocument?_of_twice hname hkeys
    · rw [ofSymbols?_text]
      exact ofDocument?_of_array hitems hissue

/-! ### An issue in two writings -/

/-- A member in compact writing. -/
def compactMember (key : String) (v : Value) (h : v.HasIntegers) : MemberText where
  keyText := (quote key.toList).map some
  key := some key
  value := ⟨v.render.map some, v.document, ofSymbols?_render h⟩
  reads := ofSymbols?_render (v := .string key) trivial

def idMember : MemberText := compactMember "id" (.ofNat 90) (show 90 ≤ Text.maxWord by decide)
def numberMember : MemberText := compactMember "number" (.ofNat 7) (show 7 ≤ Text.maxWord by decide)
def titleMember : MemberText := compactMember "title" (.string "no wheel") trivial
def bodyMember : MemberText := compactMember "body" .null trivial

/-- One label, by the members of its object. -/
def labelsMember (ms : List MemberText) : MemberText :=
  { compactMember "labels" .null trivial with value := .ofItems .none [.ofMembers .none ms] }

def nameMember : MemberText := compactMember "name" (.string "wheels") trivial
def colorMember : MemberText := compactMember "color" .null trivial

/-- A member that is not known, with a number that is too large to be read anywhere else. -/
def scoreMember : MemberText :=
  { compactMember "score" .null trivial with
    value := ⟨"1e999".toList.map some, .numeral ⟨false, ['1'], none, some (false, ['9', '9', '9'])⟩,
      ofSymbols?_eq_some_iff.2 (by decide +kernel)⟩ }

def stateMember : MemberText := compactMember "state" (.string "") trivial

/-- The null body is left out and the score put in, the label has a color, and the labels come first. In
the array the state is filled in. -/
theorem ofSymbols?_edited_of_wheels :
    let ms := [idMember, numberMember, titleMember, bodyMember, labelsMember [nameMember]]
    let more := [labelsMember [colorMember, nameMember], idMember, scoreMember, numberMember, titleMember]
    let items := [idMember.value, numberMember.value, titleMember.value, bodyMember.value,
      stateMember.value, (labelsMember [nameMember]).value]
    let issue : Issue := ⟨90, 7, "no wheel", none, "", ["wheels"], none⟩
    ofSymbols? (ValueText.ofMembers .none ms).text = some issue ∧
      (ValueText.ofMembers .none more).text.map (·.getD ' ')
        = ("\x7b\"labels\":[\x7b\"color\":null,\"name\":\"wheels\"\x7d],\"id\":90,\"score\":1e999,"
            ++ "\"number\":7,\"title\":\"no wheel\"\x7d").toList ∧
      ofSymbols? (ValueText.ofMembers .none more).text = some issue ∧
      ofSymbols? (ValueText.ofMembers .none (bodyMember :: ms)).text = none ∧
      ofSymbols? (ValueText.ofItems .none items).text = some issue := by
  intro ms more items issue
  have hissue : ofSymbols? (ValueText.ofMembers .none ms).text = some issue := by
    rw [ofSymbols?_text]
    rfl
  have hperm : ([idMember, scoreMember, numberMember, titleMember]
      ++ [labelsMember [colorMember, nameMember]]).Perm more := List.perm_append_comm
  -- The body is left out, a color is put into the label, the score is put in, and the labels come
  -- first.
  have hedits : Relation.ReflTransGen IssueEdit ms more :=
    .head (.leaveOut [idMember, numberMember, titleMember] [labelsMember [nameMember]]
        ⟨"body", rfl, List.mem_cons_self⟩) <|
      .head (.label [idMember, numberMember, titleMember] [] (m := labelsMember []) rfl .none .none .none
        .none [] [] (.insert [] [nameMember] (m := colorMember) rfl (by decide))) <|
      .head (.members (.insert [idMember] [numberMember, titleMember, labelsMember [colorMember, nameMember]]
        (m := scoreMember) rfl (by decide))) <|
      .single (.members (.permute hperm))
  have hitems : AreInFieldOrder ms items := by
    have hstate : ∀ m ∈ ms, m.key ≠ some "state" := by decide
    have hrest : ∀ name ∈ fieldNames.drop items.length, ∀ m ∈ ms, m.key ≠ some name := by decide
    refine ⟨by decide, by decide, ?_, fun name hname m hm hkey => absurd hkey (hrest name hname m hm)⟩
    show ∀ pair ∈ [("id", idMember.value), ("number", numberMember.value),
      ("title", titleMember.value), ("body", bodyMember.value), ("state", stateMember.value),
      ("labels", (labelsMember [nameMember]).value)], StandsFor ms pair.1 pair.2
    simp only [List.forall_mem_cons, List.not_mem_nil, false_implies, implies_true, and_true]
    exact ⟨.inl ⟨idMember, by simp [ms], rfl, rfl⟩, .inl ⟨numberMember, by simp [ms], rfl, rfl⟩,
      .inl ⟨titleMember, by simp [ms], rfl, rfl⟩, .inl ⟨bodyMember, by simp [ms], rfl, rfl⟩,
      .inr ⟨hstate, .tail _ (.head _)⟩, .inl ⟨labelsMember [nameMember], by simp [ms], rfl, rfl⟩⟩
  obtain ⟨-, hsame⟩ := ofSymbols?_edited issue
  obtain ⟨hedited, htwice, harray⟩ := hsame .none ms hissue .none
  exact ⟨hissue, by decide +kernel, hedited more hedits,
    htwice [] ms bodyMember rfl (by decide) (by decide), harray items hitems⟩

end Issue

end Triage
