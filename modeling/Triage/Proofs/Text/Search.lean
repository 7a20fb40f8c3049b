import Triage.Text.Search
import Mathlib.Data.List.TakeWhile

namespace Triage.Text

/-!
# Where searching ends

* `cutAt_eq_some_iff`, `cutAt_eq_none_iff` — a text is cut at its first mark, if there is one.
* `infix_append_cons_iff` — a needle without a mark does not reach across one.
* `FirstAt` — the first place at which a needle stands in a text.
* `exists_firstAt`, `FirstAt.unique` — there is one if the needle occurs at all, and only one.
-/

section Cut

variable {α : Type} [BEq α] [LawfulBEq α] {mark : α}

/-- A text is cut at its first mark into what is before it and after it. -/
theorem cutAt_append {before : List α} (h : mark ∉ before) (after : List α) :
    cutAt mark (before ++ mark :: after) = some (before, after) := by
  have hbefore : ∀ c ∈ before, (c != mark) = true := by
    intro c hc
    exact bne_iff_ne.2 fun heq => h (heq ▸ hc)
  rw [cutAt, List.dropWhile_append_of_pos hbefore, List.takeWhile_append_of_pos hbefore]
  simp

/-- A text without a mark is not cut. -/
theorem cutAt_eq_none_iff {text : List α} : cutAt mark text = none ↔ mark ∉ text := by
  constructor
  · intro h hmem
    -- A mark in the text has a first place, where it would be cut.
    obtain ⟨before, after, rfl, hbefore⟩ := List.eq_append_cons_of_mem hmem
    rw [cutAt_append hbefore] at h
    cases h
  · intro h
    have hall : ∀ c ∈ text, (c != mark) = true := by
      intro c hc
      exact bne_iff_ne.2 fun heq => h (heq ▸ hc)
    rw [cutAt, List.dropWhile_eq_nil_iff.2 hall]

/-- **A text is cut at its first mark.** -/
theorem cutAt_eq_some_iff {text before after : List α} :
    cutAt mark text = some (before, after) ↔ text = before ++ mark :: after ∧ mark ∉ before := by
  constructor
  · intro h
    have hmem : mark ∈ text := by
      by_contra habsent
      rw [cutAt_eq_none_iff.2 habsent] at h
      cases h
    obtain ⟨front, back, rfl, hfront⟩ := List.eq_append_cons_of_mem hmem
    rw [cutAt_append hfront] at h
    cases h
    exact ⟨rfl, hfront⟩
  · rintro ⟨rfl, hbefore⟩
    exact cutAt_append hbefore after

end Cut

/-! ### Needles without a mark -/

section Mark

variable {α : Type} {mark : α} {needle before after : List α}

/-- What starts with a mark has no start without the mark but the empty one. -/
theorem eq_nil_of_prefix_cons (h : mark ∉ needle) (hstart : needle <+: mark :: after) : needle = [] := by
  cases needle with
  | nil => rfl
  | cons c rest =>
    obtain ⟨rfl, -⟩ := List.cons_prefix_cons.1 hstart
    exact absurd List.mem_cons_self h

/-- **A needle without the mark does not reach across it**: it stands before the mark or after it. -/
theorem infix_append_cons_iff (h : mark ∉ needle) :
    needle <:+: before ++ mark :: after ↔ needle <:+: before ∨ needle <:+: after := by
  constructor
  · intro hinfix
    rcases List.infix_append_iff.1 hinfix with hbefore | hafter | ⟨front, back, rfl, hfront, hback⟩
    · exact .inl hbefore
    · rcases List.infix_cons_iff.1 hafter with hstart | hafter
      · rw [eq_nil_of_prefix_cons h hstart]
        exact .inl List.nil_infix
      · exact .inr hafter
    · -- whatever of it stood from the mark on would start with the mark
      have hnil := eq_nil_of_prefix_cons (fun hmem => h (List.mem_append_right _ hmem)) hback
      rw [hnil, List.append_nil]
      exact .inl hfront.isInfix
  · rintro (hbefore | hafter)
    · exact List.infix_append_iff.2 (.inl hbefore)
    · exact List.infix_append_iff.2 (.inr (.inl (List.infix_cons hafter)))

end Mark

/-! ### The first place of a needle -/

/-- The needle stands in the text between `pre` and `rest`, and nowhere further to the left. -/
structure FirstAt (needle text pre rest : List Char) : Prop where
  stands : text = pre ++ needle ++ rest
  first : ∀ pre' rest', text = pre' ++ needle ++ rest' → pre.length ≤ pre'.length

variable {needle text : List Char}

/-- A needle that occurs has a first place. -/
theorem exists_firstAt (h : needle <:+: text) : ∃ pre rest, FirstAt needle text pre rest := by
  obtain ⟨pre, rest, hstands⟩ := h
  -- by induction on how far to the right it stands: further to the left, or here
  induction hlength : pre.length using Nat.strongRecOn generalizing pre rest with
  | ind n ih =>
    by_cases hleft : ∃ pre' rest', text = pre' ++ needle ++ rest' ∧ pre'.length < n
    · obtain ⟨pre', rest', hstands', hlt⟩ := hleft
      exact ih pre'.length hlt pre' rest' hstands'.symm rfl
    · refine ⟨pre, rest, hstands.symm, fun pre' rest' hstands' => ?_⟩
      by_contra hlt
      exact hleft ⟨pre', rest', hstands', by omega⟩

/-- A needle has only one first place. -/
theorem FirstAt.unique {pre rest pre' rest' : List Char} (h : FirstAt needle text pre rest)
    (h' : FirstAt needle text pre' rest') : pre = pre' ∧ rest = rest' := by
  -- Each of the two is as far to the left as the other.
  have hlength : pre.length = pre'.length :=
    Nat.le_antisymm (h.first pre' rest' h'.stands) (h'.first pre rest h.stands)
  have hsame : pre ++ (needle ++ rest) = pre' ++ (needle ++ rest') := by
    rw [← List.append_assoc, ← List.append_assoc, ← h.stands, ← h'.stands]
  obtain ⟨hpre, hafter⟩ := List.append_inj hsame hlength
  exact ⟨hpre, List.append_cancel_left hafter⟩

/-- The first place stays the first one if the text goes on. -/
theorem FirstAt.append {pre rest : List Char} (h : FirstAt needle text pre rest) (more : List Char) :
    FirstAt needle (text ++ more) pre (rest ++ more) where
  stands := by rw [h.stands, List.append_assoc]
  first := by
    intro pre' rest' hstands
    by_contra hlt
    -- further to the left it would stand within the text itself, whose first place comes later
    have hend : (pre' ++ needle).length ≤ text.length := by
      rw [h.stands]
      simp only [List.length_append]
      omega
    have hstart : pre' ++ needle <+: text :=
      List.prefix_of_prefix_length_le ⟨rest', hstands.symm⟩ (List.prefix_append text more) hend
    obtain ⟨between, hbetween⟩ := hstart
    exact hlt (h.first pre' between hbetween.symm)

end Triage.Text
