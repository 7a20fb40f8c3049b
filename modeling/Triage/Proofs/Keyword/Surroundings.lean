import Triage.Proofs.Keyword.Hits
import Triage.Proofs.Text.Lowercase
import Triage.Template

namespace Triage

/-!
# Keywords in their surroundings

What a text calls for, it still calls for with other texts around it. The lower case of its sigmas may
change by that, so that this is a matter of words without sigmas.

* `KeywordTable.IsSigmaFree` — no keyword of a table has a sigma; the built-in table is one.
* `mentions_surrounded`, `Template.tells_surrounded` — a word without sigmas is still found.
* `classify_surrounded` — so are the hits of a text and the labels of a line.
-/

/-- No keyword of the table, in lower case, has one of the two small sigmas. -/
def KeywordTable.IsSigmaFree (table : KeywordTable) : Prop :=
  ∀ entry ∈ table.entries, ∀ keyword ∈ entry.keywords, Text.IsSigmaFree (Text.lower keyword.toList)

instance (table : KeywordTable) : Decidable table.IsSigmaFree :=
  inferInstanceAs (Decidable (∀ entry ∈ table.entries, ∀ keyword ∈ entry.keywords, _))

/-- The built-in table is one of them. -/
theorem KeywordTable.isSigmaFree_builtin : KeywordTable.builtin.IsSigmaFree := by decide +kernel

section Surroundings

variable (before text after : String)

/-- A keyword that a text mentions is still mentioned with other texts around that one. -/
theorem mentions_surrounded {keyword : String} (h : Text.IsSigmaFree (Text.lower keyword.toList))
    (hmentions : mentions (Text.lower text.toList) keyword = true) :
    mentions (Text.lower (before ++ text ++ after).toList) keyword = true := by
  rw [mentions, Text.occurs_iff] at hmentions ⊢
  rw [String.toList_append, String.toList_append]
  exact Text.infix_lower_append h hmentions before.toList after.toList

/-- So is a word of a line. -/
theorem Template.tells_surrounded {word : String} (h : Text.IsSigmaFree word.toList)
    (htells : tells text word = true) : tells (before ++ text ++ after) word = true := by
  rw [tells, Text.occurs_iff] at htells ⊢
  rw [String.toList_append, String.toList_append]
  exact Text.infix_lower_append h htells before.toList after.toList

/-- **What a text calls for, it calls for in any surroundings.** Put texts before and after it. The hits of
a table without sigmas, and the built-in one is without, come among those of the whole text, in their order.
So do the labels that it names as a type line, and if it says yes then so does the whole text. -/
theorem classify_surrounded :
    KeywordTable.builtin.IsSigmaFree ∧
      (∀ table : KeywordTable, table.IsSigmaFree →
        (table.classify text).Sublist (table.classify (before ++ text ++ after))) ∧
      (Template.typeLabels text).Sublist (Template.typeLabels (before ++ text ++ after)) ∧
      (Template.bugFixLabel text = "bug" → Template.bugFixLabel (before ++ text ++ after) = "bug") := by
  refine ⟨KeywordTable.isSigmaFree_builtin, ?_, ?_, ?_⟩
  · intro table hfree
    apply KeywordTable.classify_sublist
    intro entry hentry keyword hkeyword
    exact mentions_surrounded before text after (hfree entry hentry keyword hkeyword)
  · have hfree : ∀ name ∈ Template.typeNames, Text.IsSigmaFree name.toList := by decide +kernel
    apply filter_sublist_filter
    intro name hname
    exact Template.tells_surrounded before text after (hfree name hname)
  · intro hbug
    have hyes : Template.tells text "yes" = true := by
      -- Without a yes the label would be the other one.
      by_contra hno
      rw [Template.bugFixLabel, if_neg hno] at hbug
      exact absurd hbug (by decide)
    have hfree : Text.IsSigmaFree "yes".toList := by decide +kernel
    rw [Template.bugFixLabel, if_pos (Template.tells_surrounded before text after hfree hyes)]

end Surroundings

/-- The last letter is a sigma at the end of its word, until another letter follows. -/
def sigmaReport : String := "Yes, STRAßE.PY on RHEL: ΛΟΓΟΣ"

/-- The sigma has another lower case in the whole text. What is found does not depend on that. -/
theorem classify_surrounded_of_sigmaReport :
    let table : KeywordTable := ⟨[⟨"linux", ["kali", "RHEL"]⟩, ⟨"scripts", ["Straße.py"]⟩]⟩
    let whole := "Kali: " ++ sigmaReport ++ "Α"
    table.IsSigmaFree ∧ 'ς' ∈ Text.lower sigmaReport.toList ∧ 'ς' ∉ Text.lower whole.toList ∧
      table.classify sigmaReport = [⟨"linux", "RHEL"⟩, ⟨"scripts", "Straße.py"⟩] ∧
      (table.classify sigmaReport).Sublist (table.classify whole) ∧
      Template.bugFixLabel sigmaReport = "bug" ∧ Template.bugFixLabel whole = "bug" := by
  intro table whole
  have hfree : table.IsSigmaFree := by decide +kernel
  have hbug : Template.bugFixLabel sigmaReport = "bug" := by decide +kernel
  obtain ⟨-, hhits, -, hkind⟩ := classify_surrounded "Kali: " sigmaReport "Α"
  exact ⟨hfree, by decide +kernel, by decide +kernel, by decide +kernel, hhits table hfree, hbug,
    hkind hbug⟩

-- A keyword that ends in a sigma is found in its own text alone.
example :
    let table : KeywordTable := ⟨[⟨"doc", ["ΛΟΓΟΣ"]⟩]⟩
    table.classify "ΛΟΓΟΣ" = [⟨"doc", "ΛΟΓΟΣ"⟩] ∧ table.classify "ΛΟΓΟΣΑ" = [] := by
  decide +kernel

end Triage
