import Triage.Keyword
import Mathlib.Data.List.Flatten

namespace Triage

/-!
# What a text mentions

* `filter_sublist_filter` — what passes a stricter test comes in the same order among what passes a
  milder one.
* `KeywordTable.classify_sublist` — a text that mentions more has more hits, the old ones in their order.
* `KeywordTable.hitCount`, `KeywordTable.map_label_classify` — each label of a table comes as often as its
  keywords are found.
-/

/-- What passes a stricter test comes among what passes a milder one. -/
theorem filter_sublist_filter {α : Type} {p q : α → Bool} {items : List α}
    (h : ∀ item ∈ items, p item = true → q item = true) :
    (items.filter p).Sublist (items.filter q) := by
  -- To pass the stricter test is to pass both.
  have htwice : items.filter p = (items.filter q).filter p := by
    rw [List.filter_filter]
    refine List.filter_congr fun item hitem => ?_
    cases hp : p item with
    | false => rfl
    | true => simp [h item hitem hp]
  rw [htwice]
  exact List.filter_sublist

namespace KeywordTable

variable (text : String)

/-- **More mentioned, more hits**: a text that mentions every keyword that another one does has the hits of
that one among its own, in the same order. -/
theorem classify_sublist {table : KeywordTable} {text other : String}
    (h : ∀ entry ∈ table.entries, ∀ keyword ∈ entry.keywords,
      mentions (Text.lower text.toList) keyword = true →
        mentions (Text.lower other.toList) keyword = true) :
    (table.classify text).Sublist (table.classify other) := by
  apply List.Sublist.flatMap_right
  intro entry hentry
  exact (filter_sublist_filter (h entry hentry)).map _

/-- How many keywords of an entry a text mentions. -/
def hitCount (text : String) (entry : KeywordEntry) : Nat :=
  (entry.keywords.filter (mentions (Text.lower text.toList))).length

/-- The hits put up the label of each entry as often as its keywords are found. -/
theorem map_label_classify (table : KeywordTable) :
    (table.classify text).map (·.label)
      = table.entries.flatMap fun entry => List.replicate (hitCount text entry) entry.label := by
  rw [classify, List.map_flatMap]
  congr 1
  funext entry
  rw [KeywordEntry.hits, List.map_map]
  exact List.map_const'

end KeywordTable

end Triage
