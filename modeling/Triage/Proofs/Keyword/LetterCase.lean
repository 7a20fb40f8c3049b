import Triage.Proofs.Keyword.Hits
import Triage.Proofs.MissingHeaders
import Triage.Template
import Mathlib.Data.List.Forall2

namespace Triage

/-!
# The case of ASCII letters

Texts that differ only in the case of ASCII letters have the same lower case, and so have names of scripts.

* `EqualUpToCase` — the same up to the case of ASCII letters.
* `KeywordEntry.AgreesUpToCase`, `hitCount_eq`, `agreesUpToCase_extend` — entries with such keywords have as
  many hits, and such names make such entries of such tables.
* `upToCase_unnoticed` — neither keywords nor labels of a line nor phrases notice the difference.
-/

/-- The texts are the same up to the case of ASCII letters. -/
def EqualUpToCase (text other : String) : Prop :=
  text.toList.map Char.toLower = other.toList.map Char.toLower

instance (text other : String) : Decidable (EqualUpToCase text other) :=
  inferInstanceAs (Decidable (_ = _))

namespace EqualUpToCase

variable {text other : String}

/-- A text is the same as itself. -/
theorem refl (text : String) : EqualUpToCase text text := rfl

/-- They have the same lower case. -/
theorem lower_eq (h : EqualUpToCase text other) : Text.lower text.toList = Text.lower other.toList := by
  rw [← Text.lower_map_toLower text.toList, h, Text.lower_map_toLower]

/-- Both are blank or neither is. -/
theorem isBlankText_eq (h : EqualUpToCase text other) :
    Text.isBlankText text.toList = Text.isBlankText other.toList := by
  rw [← Text.isBlankText_map_toLower text.toList, h, Text.isBlankText_map_toLower]

end EqualUpToCase

/-! ### Script names -/

/-- The entries have one label, and their keywords are the same up to case. -/
structure KeywordEntry.AgreesUpToCase (entry other : KeywordEntry) : Prop where
  label_eq : entry.label = other.label
  keywords : List.Forall₂ EqualUpToCase entry.keywords other.keywords

namespace KeywordEntry.AgreesUpToCase

/-- So is an entry. -/
theorem refl (entry : KeywordEntry) : entry.AgreesUpToCase entry :=
  ⟨rfl, List.forall₂_same.2 fun keyword _ => .refl keyword⟩

/-- A text mentions as many keywords of the one as of the other. -/
theorem hitCount_eq {entry other : KeywordEntry} (h : entry.AgreesUpToCase other) (text : String) :
    KeywordTable.hitCount text entry = KeywordTable.hitCount text other := by
  have hmentions : ∀ ⦃keyword keyword' : String⦄, EqualUpToCase keyword keyword' →
      (mentions (Text.lower text.toList) keyword = true ↔
        mentions (Text.lower text.toList) keyword' = true) := by
    intro keyword keyword' hsame
    rw [mentions, mentions, hsame.lower_eq]
  exact (List.rel_filter hmentions h.keywords).length_eq

end KeywordEntry.AgreesUpToCase

/-- Names that are the same up to case make entries that are. -/
theorem agreesUpToCase_extend (label : Label) {names names' : List String}
    (h : List.Forall₂ EqualUpToCase names names') (entries : List KeywordEntry) :
    List.Forall₂ KeywordEntry.AgreesUpToCase (KeywordEntry.extend label names entries)
      (KeywordEntry.extend label names' entries) := by
  have hrefl : ∀ entries, List.Forall₂ KeywordEntry.AgreesUpToCase entries entries :=
    fun entries => List.forall₂_same.2 fun entry _ => .refl entry
  induction entries with
  | nil => exact .cons ⟨rfl, h⟩ .nil
  | cons entry rest ih =>
    unfold KeywordEntry.extend
    by_cases hlabel : entry.label = label
    · -- This is the entry that gets the names, and what follows it is the same on both sides.
      rw [if_pos hlabel, if_pos hlabel]
      exact .cons ⟨rfl, List.rel_append (KeywordEntry.AgreesUpToCase.refl entry).keywords h⟩ (hrefl rest)
    · rw [if_neg hlabel, if_neg hlabel]
      exact .cons (.refl entry) ih

/-- Tables of such entries find the same labels, each as often and in the same order. -/
theorem KeywordTable.map_label_of_agreesUpToCase {entries others : List KeywordEntry}
    (h : List.Forall₂ KeywordEntry.AgreesUpToCase entries others) (text : String) :
    ((⟨entries⟩ : KeywordTable).classify text).map (·.label)
      = ((⟨others⟩ : KeywordTable).classify text).map (·.label) := by
  rw [map_label_classify, map_label_classify]
  induction h with
  | nil => rfl
  | cons hentry _ ih =>
    simp only at ih ⊢
    rw [List.flatMap_cons, List.flatMap_cons, ih, hentry.hitCount_eq, hentry.label_eq]

/-- **Script names that are the same up to case** make tables that find the same labels. -/
theorem KeywordTable.map_label_withScripts {names names' : List String}
    (h : List.Forall₂ EqualUpToCase names names') (table : KeywordTable) (text : String) :
    ((table.withScripts names).classify text).map (·.label)
      = ((table.withScripts names').classify text).map (·.label) := by
  -- The same names are left out as blank.
  have hblank : ∀ ⦃name name' : String⦄, EqualUpToCase name name' →
      ((!Text.isBlankText name.toList) = true ↔ (!Text.isBlankText name'.toList) = true) := by
    intro name name' hsame
    rw [hsame.isBlankText_eq]
  exact map_label_of_agreesUpToCase
    (agreesUpToCase_extend scriptsLabel (List.rel_filter hblank h) table.entries) text

/-! ### Texts -/

/-- **The case of ASCII letters goes unnoticed.** Of two texts that are the same up to it, every table has
the same hits, and as lines they stand for the same labels. Of two reports like this, either the same phrase
is detected in both or a phrase in neither. And with script names like this, every text calls for the same
labels, each as often and in the same order. -/
theorem upToCase_unnoticed (table : KeywordTable) {text text' title title' body body' : String}
    {names names' : List String} (htext : EqualUpToCase text text') (htitle : EqualUpToCase title title')
    (hbody : EqualUpToCase body body') (hnames : List.Forall₂ EqualUpToCase names names') :
    table.classify text = table.classify text' ∧
      Template.typeLabels text = Template.typeLabels text' ∧
      Template.bugFixLabel text = Template.bugFixLabel text' ∧
      ((∃ phrase ∈ MissingHeaders.textSignatures, MissingHeaders.detect? title body = some phrase ∧
          MissingHeaders.detect? title' body' = some phrase) ∨
        ∀ phrase ∈ MissingHeaders.textSignatures, MissingHeaders.detect? title body ≠ some phrase ∧
          MissingHeaders.detect? title' body' ≠ some phrase) ∧
      ∀ anyText, ((table.withScripts names).classify anyText).map (·.label)
        = ((table.withScripts names').classify anyText).map (·.label) := by
  have hlower := htext.lower_eq
  have htells : Template.tells text = Template.tells text' := by
    funext word
    rw [Template.tells, Template.tells, hlower]
  -- A phrase is sought in the texts in lower case, which are the same.
  have hdetect : ∀ phrase ∈ MissingHeaders.textSignatures,
      (MissingHeaders.detect? title body = some phrase ↔
        MissingHeaders.detect? title' body' = some phrase) := by
    intro phrase hphrase
    rw [MissingHeaders.detect?_eq_some_iff_of_text hphrase,
      MissingHeaders.detect?_eq_some_iff_of_text hphrase, htitle.lower_eq,
      hbody.lower_eq]
  refine ⟨?_, ?_, ?_, ?_, table.map_label_withScripts hnames⟩
  · rw [KeywordTable.classify, KeywordTable.classify, hlower]
  · rw [Template.typeLabels, Template.typeLabels, htells]
  · rw [Template.bugFixLabel, Template.bugFixLabel, htells]
  · -- Compiler output counts as no phrase, whether or not it is detected.
    by_cases h : ∃ phrase ∈ MissingHeaders.textSignatures, MissingHeaders.detect? title body = some phrase
    · obtain ⟨phrase, hphrase, hfound⟩ := h
      exact .inl ⟨phrase, hphrase, hfound, (hdetect phrase hphrase).1 hfound⟩
    · right
      intro phrase hphrase
      have hnone : MissingHeaders.detect? title body ≠ some phrase :=
        fun hfound => h ⟨phrase, hphrase, hfound⟩
      exact ⟨hnone, fun hfound => hnone ((hdetect phrase hphrase).2 hfound)⟩

/-- The names differ in case, and so do the letters around the sigma, which is at the end of a word in both
texts. -/
theorem upToCase_unnoticed_of_sigmas :
    let table : KeywordTable := ⟨[⟨"linux", ["rhel", "ΣaΣ"]⟩]⟩
    EqualUpToCase "Crash on RHEL: σAΣ" "cRASH on rhel: σaΣ" ∧
      List.Forall₂ EqualUpToCase ["Top.PY", " "] ["tOP.py", " "] ∧
      table.classify "Crash on RHEL: σAΣ" = table.classify "cRASH on rhel: σaΣ" ∧
      table.classify "Crash on RHEL: σAΣ" = [⟨"linux", "rhel"⟩, ⟨"linux", "ΣaΣ"⟩] ∧
      ((∃ phrase ∈ MissingHeaders.textSignatures,
          MissingHeaders.detect? "Missing Python.h" "" = some phrase ∧
          MissingHeaders.detect? "missing PYTHON.H" "" = some phrase) ∨
        ∀ phrase ∈ MissingHeaders.textSignatures, MissingHeaders.detect? "Missing Python.h" "" ≠ some phrase ∧
          MissingHeaders.detect? "missing PYTHON.H" "" ≠ some phrase) ∧
      ((table.withScripts ["Top.PY", " "]).classify "top.py on rhel").map (·.label)
        = ((table.withScripts ["tOP.py", " "]).classify "top.py on rhel").map (·.label) := by
  intro table
  have htext : EqualUpToCase "Crash on RHEL: σAΣ" "cRASH on rhel: σaΣ" := by decide +kernel
  have htitle : EqualUpToCase "Missing Python.h" "missing PYTHON.H" := by decide +kernel
  have hnames : List.Forall₂ EqualUpToCase ["Top.PY", " "] ["tOP.py", " "] := by decide +kernel
  obtain ⟨hhits, -, -, hphrase, hscripts⟩ := upToCase_unnoticed table htext htitle (.refl "") hnames
  exact ⟨htext, hnames, hhits, by decide +kernel, hphrase, hscripts "top.py on rhel"⟩

end Triage
