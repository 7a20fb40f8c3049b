import Triage.Text.Blank
import Mathlib.Data.List.DropRight

namespace Triage.Text

/-!
# What trimming leaves

* `IsTrimmed` — a text without white space at either end.
* `trim_eq_iff` — trimming a text leaves the trimmed text that has only white space around it there.
-/

/-- A text is blank exactly if its parts are. -/
theorem isBlankText_append (text more : List Char) :
    isBlankText (text ++ more) = (isBlankText text && isBlankText more) := List.all_append

/-- No white space stands at either end of the text. -/
structure IsTrimmed (text : List Char) : Prop where
  first : ∀ c ∈ text.head?, isBlank c = false
  last : ∀ c ∈ text.getLast?, isBlank c = false

-- A test of the ends: from the fields as they stand, an instance may try all characters there are.
instance (text : List Char) : Decidable (IsTrimmed text) :=
  decidable_of_iff (text.head?.all (!isBlank ·) = true ∧ text.getLast?.all (!isBlank ·) = true) <| by
    simp only [Option.all_eq_true, Bool.not_eq_true']
    exact ⟨fun ⟨hfirst, hlast⟩ => ⟨hfirst, hlast⟩, fun h => ⟨h.first, h.last⟩⟩

/-- A text without white space has none at its ends. -/
theorem isTrimmed_of_forall {text : List Char} (h : ∀ c ∈ text, isBlank c = false) : IsTrimmed text where
  first c hc := h c (List.mem_of_mem_head? hc)
  last c hc := h c (List.mem_of_mem_getLast? hc)

/-- The ends of a text that starts with one part and ends with another are those of the parts. -/
theorem IsTrimmed.around {front back : List Char} (hfront : IsTrimmed front) (hback : IsTrimmed back)
    (hfrontNe : front ≠ []) (hbackNe : back ≠ []) (middle : List Char) :
    IsTrimmed (front ++ middle ++ back) where
  first c hc := by
    rw [List.append_assoc, List.head?_append_of_ne_nil _ hfrontNe] at hc
    exact hfront.first c hc
  last c hc := by
    rw [List.getLast?_append_of_ne_nil _ hbackNe] at hc
    exact hback.last c hc

/-- The first character that is not dropped is the first one of another kind. -/
theorem eq_false_of_mem_head?_dropWhile {p : Char → Bool} {text : List Char} {c : Char}
    (h : c ∈ (text.dropWhile p).head?) : p c = false := by
  have hstop := List.head?_dropWhile_not p text
  rwa [Option.mem_def.1 h] at hstop

/-- All of the front is dropped and nothing behind it, if the rest starts with another kind of
character. -/
theorem dropWhile_append_of_head {p : Char → Bool} {front rest : List Char}
    (hfront : ∀ c ∈ front, p c = true) (hrest : ∀ c ∈ rest.head?, p c = false) :
    (front ++ rest).dropWhile p = rest := by
  rw [List.dropWhile_append_of_pos hfront]
  cases rest with
  | nil => rfl
  | cons c rest => exact List.dropWhile_cons_of_neg (by simpa using hrest c rfl)

section Trim

variable (text : List Char)

/-- Only white space is trimmed off. -/
theorem exists_around_trim : ∃ before after, isBlankText before = true ∧ isBlankText after = true ∧
    text = before ++ trim text ++ after := by
  refine ⟨text.takeWhile isBlank, (text.dropWhile isBlank).rtakeWhile isBlank, ?_, ?_, ?_⟩
  · exact List.all_takeWhile
  · exact List.all_eq_true.2 fun c hc => List.mem_rtakeWhile_imp hc
  · show text = text.takeWhile isBlank ++ (text.dropWhile isBlank).rdropWhile isBlank ++ _
    rw [List.append_assoc, List.rdropWhile_append_rtakeWhile, List.takeWhile_append_dropWhile]

/-- No white space is left at the ends. -/
theorem isTrimmed_trim : IsTrimmed (trim text) where
  first c hc := by
    -- what is left after both trimmings is a start of what is left after the first one
    obtain ⟨tail, htail⟩ : trim text <+: text.dropWhile isBlank := List.rdropWhile_prefix ..
    have hhead : c ∈ (text.dropWhile isBlank).head? := by
      rw [← htail, List.head?_append, Option.mem_def.1 hc]
      rfl
    exact eq_false_of_mem_head?_dropWhile hhead
  last c hc := by
    rw [trim, List.getLast?_reverse] at hc
    exact eq_false_of_mem_head?_dropWhile hc

end Trim

/-- **Trimming leaves the trimmed text that has only white space around it.** -/
theorem trim_eq_iff {text core : List Char} :
    trim text = core ↔ IsTrimmed core ∧ ∃ before after, isBlankText before = true ∧
      isBlankText after = true ∧ text = before ++ core ++ after := by
  constructor
  · rintro rfl
    exact ⟨isTrimmed_trim text, exists_around_trim text⟩
  · rintro ⟨hcore, before, after, hbefore, hafter, rfl⟩
    rw [isBlankText, List.all_eq_true] at hbefore hafter
    -- From the end, what is around the core goes and the core stays.
    have hlast : (after.reverse ++ core.reverse).dropWhile isBlank = core.reverse := by
      apply dropWhile_append_of_head
      · intro c hc
        exact hafter c (List.mem_reverse.1 hc)
      · rw [List.head?_reverse]
        exact hcore.last
    by_cases hne : core = []
    · -- there is white space only, and the first trimming takes all of it
      subst hne
      have hall : ∀ c ∈ before ++ after, isBlank c = true :=
        List.forall_mem_append.2 ⟨hbefore, hafter⟩
      rw [List.append_nil, trim, List.dropWhile_eq_nil_iff.2 hall]
      rfl
    · have hfirst : (before ++ (core ++ after)).dropWhile isBlank = core ++ after := by
        apply dropWhile_append_of_head hbefore
        rw [List.head?_append_of_ne_nil _ hne]
        exact hcore.first
      rw [List.append_assoc, trim, hfirst, List.reverse_append, hlast, List.reverse_reverse]

end Triage.Text
