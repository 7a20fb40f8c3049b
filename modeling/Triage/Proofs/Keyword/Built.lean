import Triage.Keyword
import Mathlib.Data.List.Basic

namespace Triage

/-!
# Tables that are built

* `KeywordTable.labels` — the labels of a table, in order.
* `KeywordTable.IsBuilt` — the built-in table, and every table got from one by adding script names.
* `KeywordTable.IsBuilt.labels_eq` — all of them have the labels of the built-in one.
-/

namespace KeywordTable

/-- The labels of a table, in order. -/
def labels (table : KeywordTable) : List Label := table.entries.map (·.label)

/-- The tables that there are: a run starts from the built-in one and can only add script names. -/
inductive IsBuilt : KeywordTable → Prop
  | builtin : IsBuilt .builtin
  | withScripts {table : KeywordTable} (names : List String) :
      IsBuilt table → IsBuilt (table.withScripts names)

/-- Keywords that are appended to an entry that is there change no label. -/
theorem map_label_extend (label : Label) (names : List String) (entries : List KeywordEntry)
    (h : label ∈ entries.map (·.label)) :
    (KeywordEntry.extend label names entries).map (·.label) = entries.map (·.label) := by
  induction entries with
  | nil => simp at h
  | cons entry rest ih =>
    unfold KeywordEntry.extend
    by_cases hlabel : entry.label = label
    · -- This is the entry that gets the names, and it keeps its label.
      simp [hlabel]
    · have hrest : label ∈ rest.map (·.label) := by
        simpa [Ne.symm hlabel] using h
      simp [hlabel, ih hrest]

/-- Script names change no label where `scripts` is one. -/
theorem labels_withScripts {table : KeywordTable} (names : List String)
    (h : scriptsLabel ∈ table.labels) : (table.withScripts names).labels = table.labels :=
  map_label_extend scriptsLabel _ table.entries h

/-- **Built tables have the built-in labels**, in the same order. -/
theorem IsBuilt.labels_eq {table : KeywordTable} (h : table.IsBuilt) :
    table.labels = KeywordTable.builtin.labels := by
  induction h with
  | builtin => rfl
  | withScripts names _ ih =>
    have hscripts : scriptsLabel ∈ KeywordTable.builtin.labels := by decide
    rw [labels_withScripts names (ih ▸ hscripts), ih]

/-- No two entries of a built table have the same label. -/
theorem IsBuilt.nodup_labels {table : KeywordTable} (h : table.IsBuilt) : table.labels.Nodup := by
  rw [h.labels_eq]
  decide

/-- A label that a text calls for is one of the table. -/
theorem label_mem_labels_of_mem_classify {table : KeywordTable} {text : String} {hit : KeywordHit}
    (h : hit ∈ table.classify text) : hit.label ∈ table.labels := by
  obtain ⟨entry, hentry, hhit⟩ := List.mem_flatMap.1 h
  obtain ⟨keyword, -, rfl⟩ := List.mem_map.1 hhit
  exact List.mem_map_of_mem hentry

end KeywordTable

end Triage
