import Triage.Labelling
import Triage.Proofs.Template.Lines
import Triage.Proofs.Text.Lowercase
import Mathlib.Data.List.Infix

namespace Triage

/-!
# What a marker adds to a line

A line of the template is searched as a whole, its marker and its line break with it. No word that is
sought there can have a part of these two.

* `Field.line`, `Field.written` — the line of a field with a text on it, and the text on a line.
* `Field.IsApart` — a word that cannot have a part of marker or line break.
* `Field.occurs_line` — such a word is on a line exactly if it is in the text on the line.
* `addLabelsFromWritten` — labels from the texts on the lines.
* `markers_add_nothing` — the labels that a line calls for are those of the text on it.
-/

namespace Template

/-- The line of a field with a text on it. -/
def Field.line (field : Field) (text : String) : String := field.marker ++ text ++ "\n"

/-- The text on a line of a field, between the marker and the line break. -/
def Field.written (field : Field) (line : String) : String :=
  String.ofList (line.toList.drop field.marker.toList.length).dropLast

/-- The text that was put on a line is the one on it. -/
@[simp] theorem Field.written_line (field : Field) (text : String) :
    field.written (field.line text) = text := by
  have hline : (field.line text).toList = field.marker.toList ++ (text.toList ++ ['\n']) := by
    simp [Field.line]
  rw [written, hline, List.drop_left, List.dropLast_concat, String.ofList_toList]

/-- **A line that is found has a text on it**, between the marker and the line break. -/
theorem exists_line_of_find? {field : Field} {body found : String} (h : find? field body = some found) :
    ∃ text, found = field.line text ∧ '\n' ∉ text.toList := by
  obtain ⟨pre, post, hline⟩ := find?_eq_some_iff.1 h
  obtain ⟨mid, hfound, hmid⟩ := hline.shape
  refine ⟨String.ofList mid, ?_, by rwa [String.toList_ofList]⟩
  rw [← String.toList_inj, hfound]
  simp [Field.line]

/-! ### Words that keep to the text -/

/-- The word has no sigma, the lower case of which hangs on what stands around it. It has neither the colon
nor the line break between which the text stands, and the marker does not hold it. -/
structure Field.IsApart (field : Field) (word : List Char) : Prop where
  sigmaFree : Text.IsSigmaFree word
  colon : ':' ∉ word
  lineBreak : '\n' ∉ word
  marker : ¬ word <:+: Text.lower field.marker.toList

instance (field : Field) (word : List Char) : Decidable (field.IsApart word) :=
  decidable_of_iff (Text.IsSigmaFree word ∧ ':' ∉ word ∧ '\n' ∉ word ∧
      ¬ word <:+: Text.lower field.marker.toList)
    ⟨fun ⟨hsigma, hcolon, hbreak, hmarker⟩ => ⟨hsigma, hcolon, hbreak, hmarker⟩,
      fun h => ⟨h.sigmaFree, h.colon, h.lineBreak, h.marker⟩⟩

/-- A marker ends in its colon. -/
theorem Field.exists_front (field : Field) : ∃ front, field.marker.toList = front ++ [':'] := by
  cases field with
  | os => exact ⟨"* OS".toList, by decide⟩
  | bugFix => exact ⟨"* Bug fix".toList, by decide⟩
  | type => exact ⟨"* Type".toList, by decide⟩

variable {field : Field}

/-- **A word that is apart is on a line exactly if it is in the text on the line**, letter case aside. -/
theorem Field.infix_lower_line_iff {word : List Char} (h : field.IsApart word) (text : String) :
    word <:+: Text.lower (field.line text).toList ↔ word <:+: Text.lower text.toList := by
  obtain ⟨front, hfront⟩ := field.exists_front
  have hcolon : Text.lowerApart [':'] = [':'] := by decide +kernel
  have hbreak : Text.lowerApart ['\n'] = ['\n'] := by decide +kernel
  -- the marker holds the word neither before its colon nor after it, where it is empty
  have hmarker := h.marker
  rw [hfront, Text.infix_lower_iff h.sigmaFree, Text.lowerApart_append, hcolon,
    Text.infix_append_cons_iff h.colon, not_or] at hmarker
  obtain ⟨hbefore, hempty⟩ := hmarker
  -- On the line the text stands between a colon and a line break, and the word has neither.
  have hline : (field.line text).toList = front ++ ([':'] ++ (text.toList ++ ['\n'])) := by
    simp [Field.line, hfront]
  rw [hline, Text.infix_lower_iff h.sigmaFree, Text.infix_lower_iff h.sigmaFree,
    Text.lowerApart_append, Text.lowerApart_append, Text.lowerApart_append, hcolon, hbreak,
    List.singleton_append, Text.infix_append_cons_iff h.colon, Text.infix_append_cons_iff h.lineBreak]
  constructor
  · rintro (hfront | htext | hnil)
    · exact absurd hfront hbefore
    · exact htext
    · exact absurd hnil hempty
  · intro htext
    exact .inr (.inl htext)

/-- The search for a word that is apart has the same result on the line as in the text on it. -/
theorem Field.occurs_line {word : List Char} (h : field.IsApart word) (text : String) :
    Text.occurs word (Text.lower (field.line text).toList)
      = Text.occurs word (Text.lower text.toList) := by
  rw [Bool.eq_iff_iff, Text.occurs_iff, Text.occurs_iff]
  exact infix_lower_line_iff h text

/-! ### The words that are sought -/

/-- The keywords of the built-in table are apart from the line on the platform. -/
theorem isApart_keywords : ∀ entry ∈ KeywordTable.builtin.entries, ∀ keyword ∈ entry.keywords,
    Field.os.IsApart (Text.lower keyword.toList) := by decide +kernel

/-- The word for a bug fix is apart from its line. -/
theorem isApart_yes : Field.bugFix.IsApart "yes".toList := by decide +kernel

/-- The names of types are apart from their line. -/
theorem isApart_typeNames : ∀ name ∈ typeNames, Field.type.IsApart name.toList := by decide +kernel

variable (text : String)

/-- The line on the platform has the hits of the text on it. -/
theorem classify_line :
    KeywordTable.builtin.classify (Field.os.line text) = KeywordTable.builtin.classify text := by
  unfold KeywordTable.classify
  refine List.flatMap_congr fun entry hentry => ?_
  rw [KeywordEntry.hits, KeywordEntry.hits]
  congr 1
  refine List.filter_congr fun keyword hkeyword => ?_
  exact Field.occurs_line (isApart_keywords entry hentry keyword hkeyword) text

/-- The line on bug fixes calls for the label of the text on it. -/
theorem bugFixLabel_line : bugFixLabel (Field.bugFix.line text) = bugFixLabel text := by
  have hyes : tells (Field.bugFix.line text) "yes" = tells text "yes" := Field.occurs_line isApart_yes text
  rw [bugFixLabel, hyes, bugFixLabel]

/-- The line on the type calls for the labels of the text on it. -/
theorem typeLabels_line : typeLabels (Field.type.line text) = typeLabels text := by
  refine List.filter_congr fun name hname => ?_
  exact Field.occurs_line (isApart_typeNames name hname) text

end Template

open Template

/-! ### Labelling -/

variable {ε : Type}

/-- What is done with a line matters for the line that is found only. -/
theorem withField_congr {field : Field} {body : String} {wanted : Issue → Bool}
    {act act' : String → TriageStep ε (List LabelOutcome)}
    (h : ∀ line, find? field body = some line → act line = act' line) :
    withField field body wanted act = withField field body wanted act' := by
  unfold withField
  cases hfind : find? field body with
  | none => rfl
  | some line => simp only [h line hfind]

/-- Puts up the labels that the texts on the lines of the template call for. -/
def addLabelsFromWritten (table : KeywordTable) (body : String) : TriageStep ε Unit := do
  TriageStep.write .bodySearch
  withField .os body (fun _ => true) fun line => addLabelsFromText table (Field.os.written line)
  withField .bugFix body wantsKind fun line =>
    [bugFixLabel (Field.bugFix.written line)].mapM addLabel
  withField .type body (fun _ => true) fun line =>
    (typeLabels (Field.type.written line)).mapM addLabel

/-- With the built-in table, labelling from a body takes the steps by the texts on its lines. -/
theorem addLabelsFromBody_builtin (body : String) :
    (addLabelsFromBody .builtin body : TriageStep ε Unit) = addLabelsFromWritten .builtin body := by
  -- Each line that is found is its text between marker and line break.
  have hos : (withField .os body (fun _ => true) fun line => addLabelsFromText .builtin line :
      TriageStep ε Unit)
      = withField .os body (fun _ => true) fun line =>
        addLabelsFromText .builtin (Field.os.written line) := by
    apply withField_congr
    intro line hline
    obtain ⟨text, rfl, -⟩ := exists_line_of_find? hline
    rw [addLabelsFromText, addLabelsFromText, Field.written_line, classify_line]
  have hbugFix : (withField .bugFix body wantsKind fun line => [bugFixLabel line].mapM addLabel :
      TriageStep ε Unit)
      = withField .bugFix body wantsKind fun line =>
        [bugFixLabel (Field.bugFix.written line)].mapM addLabel := by
    apply withField_congr
    intro line hline
    obtain ⟨text, rfl, -⟩ := exists_line_of_find? hline
    rw [Field.written_line, bugFixLabel_line]
  have htype : (withField .type body (fun _ => true) fun line => (typeLabels line).mapM addLabel :
      TriageStep ε Unit)
      = withField .type body (fun _ => true) fun line =>
        (typeLabels (Field.type.written line)).mapM addLabel := by
    apply withField_congr
    intro line hline
    obtain ⟨text, rfl, -⟩ := exists_line_of_find? hline
    rw [Field.written_line, typeLabels_line]
  rw [addLabelsFromBody, addLabelsFromWritten, hos, hbugFix, htype]

/-- **Markers add nothing.** With the built-in table, a line calls for the same labels as the text on it
does by itself. A line that is found in a body has such a text between its marker and its only line break,
and labelling from the body goes by these texts alone: it takes the same steps as if markers and line breaks
were taken off first. -/
theorem markers_add_nothing (text : String) :
    KeywordTable.builtin.classify (Field.os.marker ++ text ++ "\n") = KeywordTable.builtin.classify text ∧
      bugFixLabel (Field.bugFix.marker ++ text ++ "\n") = bugFixLabel text ∧
      typeLabels (Field.type.marker ++ text ++ "\n") = typeLabels text ∧
      (∀ field body line, find? field body = some line →
        line = field.marker ++ field.written line ++ "\n" ∧ '\n' ∉ (field.written line).toList) ∧
      ∀ (ε : Type) (body : String),
        (addLabelsFromBody .builtin body : TriageStep ε Unit) = addLabelsFromWritten .builtin body := by
  refine ⟨classify_line text, bugFixLabel_line text, typeLabels_line text, ?_,
    fun ε body => addLabelsFromBody_builtin body⟩
  intro field body line hline
  obtain ⟨text, rfl, hbreak⟩ := exists_line_of_find? hline
  rw [Field.written_line]
  exact ⟨rfl, hbreak⟩

/-- A sigma stands right behind the marker, the letters of which make it a final one there. What is written
starts like the end of a keyword. -/
def closeBody : String := "* OS:Σ inux, RHEL\r\n"

/-- The text on the line is what counts, though its lower case is another one on the line. -/
theorem markers_add_nothing_of_closeBody :
    find? .os closeBody = some "* OS:Σ inux, RHEL\r\n" ∧
      "* OS:Σ inux, RHEL\r\n" = Field.os.marker ++ Field.os.written "* OS:Σ inux, RHEL\r\n" ++ "\n" ∧
      Field.os.written "* OS:Σ inux, RHEL\r\n" = "Σ inux, RHEL\r" ∧
      'ς' ∈ Text.lower closeBody.toList ∧ 'ς' ∉ Text.lower "Σ inux, RHEL\r".toList ∧
      KeywordTable.builtin.classify (Field.os.marker ++ "Σ inux, RHEL\r" ++ "\n")
        = [⟨"linux", "RHEL"⟩] := by
  have hline : find? .os closeBody = some "* OS:Σ inux, RHEL\r\n" := by decide +kernel
  obtain ⟨hclassify, -, -, hfound, -⟩ := markers_add_nothing "Σ inux, RHEL\r"
  refine ⟨hline, (hfound .os closeBody _ hline).1, by decide +kernel, by decide +kernel, by decide +kernel,
    ?_⟩
  rw [hclassify]
  decide +kernel

end Triage
