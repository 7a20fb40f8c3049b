import Triage.Proofs.Keyword.Built
import Triage.Proofs.Text.Lowercase
import Mathlib.Data.List.TakeWhile

namespace Triage

/-!
# Tables that are extended

Script names go to the entry of `scripts` and nowhere else.

* `KeywordEntry.extend_extend`, `filter_extend`, `keywords_find?_extend` — an entry with more keywords, and
  the entries around it.
* `KeywordTable.withScripts_withScripts`, `foldl_withScripts` — names given in several turns are names given
  at once.
* `KeywordTable.HasNoBlank` — no keyword is blank; `HasNoBlank.classify_empty` — so that the empty text
  mentions none.
* `KeywordTable.classify_withScripts` — new hits come between those through `scripts` and those behind it.
* `KeywordTable.builtin_extended` — what the built-in table becomes.
-/

/-! ### Entries -/

namespace KeywordEntry

variable (label : Label) (names : List String) (entries : List KeywordEntry)

/-- Keywords appended in two turns are keywords appended at once. -/
theorem extend_extend (more : List String) :
    extend label more (extend label names entries) = extend label (names ++ more) entries := by
  induction entries with
  | nil => simp [extend]
  | cons entry rest ih =>
    by_cases h : entry.label = label
    · simp [extend, h]
    · simp [extend, h, ih]

/-- Without new keywords, entries of which one has the label stay as they are. -/
theorem extend_nil {label : Label} {entries : List KeywordEntry} (h : label ∈ entries.map (·.label)) :
    extend label [] entries = entries := by
  induction entries with
  | nil => simp at h
  | cons entry rest ih =>
    by_cases hlabel : entry.label = label
    · subst hlabel
      simp [extend]
    · have hrest : label ∈ rest.map (·.label) := by
        simpa [Ne.symm hlabel] using h
      simp [extend, hlabel, ih hrest]

/-- The other entries stay what and where they are. -/
theorem filter_extend :
    (extend label names entries).filter (·.label != label) = entries.filter (·.label != label) := by
  induction entries with
  | nil => simp [extend]
  | cons entry rest ih =>
    by_cases h : entry.label = label
    · simp [extend, h]
    · simp [extend, h, ih]

/-- The keywords of the label are the old ones, if any, and then the new ones. -/
theorem keywords_find?_extend :
    ((extend label names entries).find? (·.label == label)).map (·.keywords)
      = some (((entries.find? (·.label == label)).map (·.keywords)).getD [] ++ names) := by
  induction entries with
  | nil => simp [extend]
  | cons entry rest ih =>
    by_cases h : entry.label = label
    · simp [extend, h]
    · simp [extend, h, ih]

variable {label names entries}

/-- What holds of all keywords, old and new, still does. -/
theorem forall_keywords_extend {P : String → Prop}
    (hold : ∀ entry ∈ entries, ∀ keyword ∈ entry.keywords, P keyword) (hnew : ∀ name ∈ names, P name) :
    ∀ entry ∈ extend label names entries, ∀ keyword ∈ entry.keywords, P keyword := by
  induction entries with
  | nil => simpa [extend] using hnew
  | cons entry rest ih =>
    obtain ⟨hentry, hrest⟩ := List.forall_mem_cons.1 hold
    unfold extend
    by_cases h : entry.label = label
    · rw [if_pos h]
      exact List.forall_mem_cons.2 ⟨List.forall_mem_append.2 ⟨hentry, hnew⟩, hrest⟩
    · rw [if_neg h]
      exact List.forall_mem_cons.2 ⟨hentry, ih hrest⟩

/-- Entries in front of the first one with the label are passed over. -/
theorem extend_append_of_forall {before : List KeywordEntry} (h : ∀ entry ∈ before, entry.label ≠ label)
    (rest : List KeywordEntry) : extend label names (before ++ rest) = before ++ extend label names rest := by
  induction before with
  | nil => rfl
  | cons entry before ih =>
    obtain ⟨hentry, hbefore⟩ := List.forall_mem_cons.1 h
    rw [List.cons_append, extend, if_neg hentry, ih hbefore, List.cons_append]

end KeywordEntry

namespace KeywordTable

open KeywordEntry

/-- The names that become keywords: those that are not blank, in their order. -/
def usable (names : List String) : List String := names.filter fun name => !Text.isBlankText name.toList

/-- Whether a name is usable does not depend on the names around it. -/
theorem usable_append (names more : List String) : usable (names ++ more) = usable names ++ usable more :=
  List.filter_append names more

/-! ### Names in several turns -/

/-- **Names given in two turns are names given at once.** -/
theorem withScripts_withScripts (table : KeywordTable) (names more : List String) :
    (table.withScripts names).withScripts more = table.withScripts (names ++ more) := by
  show (⟨extend scriptsLabel (usable more) (extend scriptsLabel (usable names) table.entries)⟩ : KeywordTable)
    = ⟨extend scriptsLabel (usable (names ++ more)) table.entries⟩
  rw [extend_extend, usable_append]

/-- Without names, a table that has an entry for `scripts` stays as it is. -/
theorem withScripts_nil {table : KeywordTable} (h : scriptsLabel ∈ table.labels) :
    table.withScripts [] = table := by
  show (⟨extend scriptsLabel [] table.entries⟩ : KeywordTable) = table
  rw [extend_nil h]

/-- **Any number of turns is one turn** with all the names. -/
theorem foldl_withScripts {table : KeywordTable} (h : scriptsLabel ∈ table.labels)
    (turns : List (List String)) : turns.foldl withScripts table = table.withScripts turns.flatten := by
  induction turns generalizing table with
  | nil => exact (withScripts_nil h).symm
  | cons names rest ih =>
    -- There is an entry for `scripts` still, and the next turn goes to it.
    have hnext : scriptsLabel ∈ (table.withScripts names).labels := by
      rw [labels_withScripts names h]
      exact h
    rw [List.foldl_cons, ih hnext, withScripts_withScripts, List.flatten_cons]

/-! ### Blank keywords -/

/-- No keyword is blank. -/
def HasNoBlank (table : KeywordTable) : Prop :=
  ∀ entry ∈ table.entries, ∀ keyword ∈ entry.keywords, Text.isBlankText keyword.toList = false

instance (table : KeywordTable) : Decidable table.HasNoBlank :=
  inferInstanceAs (Decidable (∀ entry ∈ table.entries, ∀ keyword ∈ entry.keywords, _))

/-- The built-in table has none. -/
theorem hasNoBlank_builtin : builtin.HasNoBlank := by decide +kernel

/-- Names do not bring any. -/
theorem HasNoBlank.withScripts {table : KeywordTable} (h : table.HasNoBlank) (names : List String) :
    (table.withScripts names).HasNoBlank := by
  apply forall_keywords_extend h
  intro name hname
  simpa using (List.mem_filter.1 hname).2

/-- The empty text mentions only what is empty itself. -/
theorem HasNoBlank.classify_empty {table : KeywordTable} (h : table.HasNoBlank) : table.classify "" = [] := by
  refine List.flatMap_eq_nil_iff.2 fun entry hentry => ?_
  rw [hits, List.map_eq_nil_iff, List.filter_eq_nil_iff]
  intro keyword hkeyword hmentions
  have hempty : Text.lower keyword.toList = [] := by
    rw [mentions, Text.occurs_iff] at hmentions
    exact List.infix_nil.1 hmentions
  have hblank := h entry hentry keyword hkeyword
  rw [Text.lower_eq_nil_iff.1 hempty] at hblank
  cases hblank

/-! ### Hits -/

/-- The entries through the one of `scripts`. -/
def upToScripts (table : KeywordTable) : KeywordTable :=
  ⟨table.entries.takeWhile (·.label != scriptsLabel)
    ++ (table.entries.dropWhile (·.label != scriptsLabel)).take 1⟩

/-- The entries behind it. -/
def behindScripts (table : KeywordTable) : KeywordTable :=
  ⟨(table.entries.dropWhile (·.label != scriptsLabel)).drop 1⟩

/-- The hits of the entries through `scripts` come before those of the entries behind it. -/
theorem classify_split (table : KeywordTable) (text : String) :
    table.classify text = table.upToScripts.classify text ++ table.behindScripts.classify text := by
  have hentries : table.entries = table.upToScripts.entries ++ table.behindScripts.entries := by
    show table.entries = _ ++ List.take 1 _ ++ List.drop 1 _
    rw [List.append_assoc, List.take_append_drop, List.takeWhile_append_dropWhile]
  unfold classify
  rw [← List.flatMap_append, ← hentries]

/-- **New hits come behind those of the entries through `scripts`** and before those of the others. -/
theorem classify_withScripts (table : KeywordTable) (names : List String) (text : String) :
    (table.withScripts names).classify text
      = table.upToScripts.classify text
        ++ (⟨scriptsLabel, usable names⟩ : KeywordEntry).hits (Text.lower text.toList)
        ++ table.behindScripts.classify text := by
  set before := table.entries.takeWhile (·.label != scriptsLabel) with hbefore
  -- Names are appended to the first entry of `scripts`, and no entry in front of it is one.
  have hother : ∀ entry ∈ before, entry.label ≠ scriptsLabel := by
    intro entry hentry
    simpa using List.mem_takeWhile_imp hentry
  have hentries : (table.withScripts names).entries
      = before ++ extend scriptsLabel (usable names) (table.entries.dropWhile (·.label != scriptsLabel)) := by
    show extend scriptsLabel (usable names) table.entries = _
    rw [← extend_append_of_forall hother, hbefore, List.takeWhile_append_dropWhile]
  simp only [classify, upToScripts, behindScripts]
  rw [hentries, ← hbefore]
  cases hrest : table.entries.dropWhile (·.label != scriptsLabel) with
  | nil =>
    -- there is no entry for `scripts`, and the names get one of their own at the end
    simp [extend]
  | cons entry after =>
    obtain ⟨label, keywords⟩ := entry
    -- This entry stopped the search, so it is the one of `scripts`.
    obtain rfl : label = scriptsLabel := by
      have hstop := List.head?_dropWhile_not (·.label != scriptsLabel) table.entries
      rw [hrest] at hstop
      simpa using hstop
    simp [extend, hits]

/-! ### The built-in table -/

/-- **Extending the built-in table is local.** Give names in any number of turns. The labels and their order
stay, and so do all entries but that of `scripts`, whose keywords are the old ones and then, in order, the
names that are not blank. So no keyword is blank, and the empty text mentions none. A text has the hits that
it had, and between those through `scripts` and those from `bug` on it has the hits of the names. Names given
in two turns are names given at once, whatever the table. -/
theorem builtin_extended (turns : List (List String)) (text : String) :
    let table := turns.foldl withScripts builtin
    let names := turns.flatten.filter fun name => !Text.isBlankText name.toList
    table.labels = builtin.labels ∧ table.labels.Nodup ∧
      table.entries.filter (·.label != scriptsLabel) = builtin.entries.filter (·.label != scriptsLabel) ∧
      table.keywords? scriptsLabel = (builtin.keywords? scriptsLabel).map (· ++ names) ∧
      (∀ entry ∈ table.entries, ∀ keyword ∈ entry.keywords, Text.isBlankText keyword.toList = false) ∧
      table.classify "" = [] ∧
      builtin.upToScripts.labels.getLast? = some scriptsLabel ∧
      builtin.behindScripts.labels.head? = some "bug" ∧
      builtin.classify text = builtin.upToScripts.classify text ++ builtin.behindScripts.classify text ∧
      table.classify text = builtin.upToScripts.classify text
        ++ (⟨scriptsLabel, names⟩ : KeywordEntry).hits (Text.lower text.toList)
        ++ builtin.behindScripts.classify text ∧
      ∀ (start : KeywordTable) (names₁ names₂ : List String),
        (start.withScripts names₁).withScripts names₂ = start.withScripts (names₁ ++ names₂) := by
  intro table names
  have hscripts : scriptsLabel ∈ builtin.labels := by decide
  -- All turns are one turn, and what holds of one holds of them.
  have htable : table = builtin.withScripts turns.flatten := foldl_withScripts hscripts turns
  have hbuilt : table.IsBuilt := by
    rw [htable]
    exact .withScripts _ .builtin
  have hnoBlank : table.HasNoBlank := by
    rw [htable]
    exact hasNoBlank_builtin.withScripts _
  refine ⟨hbuilt.labels_eq, hbuilt.nodup_labels, ?_, ?_, hnoBlank, hnoBlank.classify_empty, by decide,
    by decide, builtin.classify_split text, ?_, withScripts_withScripts⟩
  · rw [htable]
    exact filter_extend scriptsLabel _ builtin.entries
  · rw [htable]
    exact keywords_find?_extend scriptsLabel _ builtin.entries
  · rw [htable]
    exact builtin.classify_withScripts turns.flatten text

/-- Names in three turns, one of them twice and two of them blank. -/
def scriptTurns : List (List String) := [["procinfo.py", " "], ["\u2003", "TOP.py"], ["procinfo.py"]]

/-- The names that are not blank come behind the built-in keywords, and their hits between the others. -/
theorem builtin_extended_of_scriptTurns :
    let table := scriptTurns.foldl withScripts builtin
    table.keywords? scriptsLabel = some ["example dir", "example script", "examples script", "scripts/",
        "procinfo.py", "TOP.py", "procinfo.py"] ∧
      table.classify "" = [] ∧
      (∀ entry ∈ table.entries, ∀ keyword ∈ entry.keywords, Text.isBlankText keyword.toList = false) ∧
      table.classify "scripts/ProcInfo.py on Linux: crash"
        = [⟨"linux", "linux"⟩, ⟨"scripts", "scripts/"⟩, ⟨"scripts", "procinfo.py"⟩,
          ⟨"scripts", "procinfo.py"⟩, ⟨"bug", "crash"⟩] := by
  intro table
  obtain ⟨-, -, -, hkeywords, hblank, hempty, -, -, -, hclassify, -⟩ :=
    builtin_extended scriptTurns "scripts/ProcInfo.py on Linux: crash"
  exact ⟨hkeywords.trans (by decide +kernel), hempty, hblank, hclassify.trans (by decide +kernel)⟩

end KeywordTable

end Triage
