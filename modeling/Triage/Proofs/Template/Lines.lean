import Triage.Proofs.Text.Search
import Triage.Template
import Triage.Text.Pattern
import Mathlib.Tactic.Common

namespace Triage.Template

open Text (FirstAt Pattern)

/-!
# Where a line of the template is found

* `Field.pattern` — the marker of a field, then as little as possible, then a line break.
* `findMarked?_of_firstAt` — what is found is settled by the first place of the marker.
* `find?_pattern` — the leftmost fit of the pattern is what is found.
* `IsFieldLine` — the line of a field in a body, and what is around it.
* `find?_leftmost` — the line is found just where the pattern fits first, if anywhere.
-/

/-! ### Through a line break -/

/-- A text comes to no line break exactly if it has none. -/
theorem throughBreak?_eq_none_iff {text : List Char} : throughBreak? text = none ↔ '\n' ∉ text := by
  rw [throughBreak?, Option.map_eq_none_iff, Text.cutAt_eq_none_iff]

/-- A text is taken through its first line break. -/
theorem throughBreak?_eq_some_iff {text line : List Char} :
    throughBreak? text = some line ↔
      ∃ mid post, text = mid ++ '\n' :: post ∧ '\n' ∉ mid ∧ line = mid ++ ['\n'] := by
  simp only [throughBreak?, Option.map_eq_some_iff, Prod.exists, Text.cutAt_eq_some_iff, and_assoc]
  exact exists₂_congr fun mid post => and_congr_right fun _ => and_congr_right fun _ => eq_comm

/-- Other characters in front stay in front. -/
theorem throughBreak?_append {front : List Char} (h : '\n' ∉ front) (text : List Char) :
    throughBreak? (front ++ text) = (throughBreak? text).map (front ++ ·) := by
  -- By whether the text has a line break; what stands in front has none.
  cases htext : throughBreak? text with
  | none =>
    have hbreak := throughBreak?_eq_none_iff.1 htext
    exact throughBreak?_eq_none_iff.2 (by simp [h, hbreak])
  | some line =>
    obtain ⟨mid, post, rfl, hmid, rfl⟩ := throughBreak?_eq_some_iff.1 htext
    exact throughBreak?_eq_some_iff.2
      ⟨front ++ mid, post, by simp, by simp [h, hmid], by simp⟩

/-! ### The first place of a marker -/

/-- No marker goes over a line break. -/
theorem Field.break_not_mem_marker (field : Field) : '\n' ∉ field.marker.toList := by
  cases field <;> decide

/-- No marker is empty. -/
theorem Field.marker_ne_nil (field : Field) : field.marker.toList ≠ [] := by
  cases field <;> decide

section Marker

variable {marker text : List Char}

/-- A marker is not found where it does not stand. -/
theorem findMarked?_of_absent (h : ¬ marker <:+: text) : findMarked? marker text = none := by
  induction text with
  | nil => rfl
  | cons c rest ih =>
    have hhere : ¬ marker.isPrefixOf (c :: rest) = true :=
      fun hprefix => h (List.isPrefixOf_iff_prefix.1 hprefix).isInfix
    rw [findMarked?, if_neg hhere]
    exact ih fun hrest => h (List.infix_cons hrest)

variable (hbreak : '\n' ∉ marker) (hne : marker ≠ [])
include hbreak hne

/-- **The first place of the marker settles what is found**: it goes on from there through the next line
break. -/
theorem findMarked?_of_firstAt {pre rest : List Char} (h : FirstAt marker text pre rest) :
    findMarked? marker text = (throughBreak? rest).map (marker ++ ·) := by
  induction pre generalizing text with
  | nil =>
    obtain ⟨c, tail, rfl⟩ := List.exists_cons_of_ne_nil hne
    have hhere : (c :: tail).isPrefixOf (c :: tail ++ rest) = true :=
      List.isPrefixOf_iff_prefix.2 (List.prefix_append _ _)
    rw [h.stands, List.nil_append, ← throughBreak?_append hbreak]
    exact if_pos hhere
  | cons c pre ih =>
    have htext : text = c :: (pre ++ marker ++ rest) := h.stands
    have hhere : ¬ marker.isPrefixOf text = true := by
      intro hprefix
      obtain ⟨rest', hrest'⟩ := List.isPrefixOf_iff_prefix.1 hprefix
      -- a marker right here would stand before the first place
      have hle := h.first [] rest' hrest'.symm
      simp at hle
    have hnext : FirstAt marker (pre ++ marker ++ rest) pre rest := by
      refine ⟨rfl, fun pre' rest' hstands => ?_⟩
      have hle := h.first (c :: pre') rest' (by rw [htext, hstands]; rfl)
      simpa using hle
    rw [htext] at hhere ⊢
    rw [findMarked?, if_neg hhere]
    exact ih hnext

end Marker

/-! ### The pattern of a field -/

/-- As few characters as possible, none of them a line break, then a line break. -/
def lineEnd : Pattern := .seq (.lazily (· != '\n')) (.literal ['\n'])

/-- What is sought for a field: its marker, then the end of its line. -/
def Field.pattern (field : Field) : Pattern := .seq (.literal field.marker.toList) lineEnd

/-- At a line break there is one end of a line, the break alone. -/
theorem fits_lineEnd_break (rest : List Char) :
    lineEnd.fits ('\n' :: rest) = [⟨['\n'], rest⟩] := by
  simp [lineEnd, Pattern.fits, Text.runs]

/-- Any other character is taken before the end of its line. -/
theorem fits_lineEnd_cons {c : Char} (h : c ≠ '\n') (rest : List Char) :
    lineEnd.fits (c :: rest) = (lineEnd.fits rest).map fun fit => { fit with taken := c :: fit.taken } := by
  simp [lineEnd, Pattern.fits, Text.runs, h, Ne.symm h, List.flatMap_map, List.map_flatMap,
    Function.comp_def]

/-- The end of a line is what comes through the first line break. -/
theorem atStart?_lineEnd (text : List Char) : lineEnd.atStart? text = throughBreak? text := by
  induction text with
  | nil => rfl
  | cons c rest ih =>
    by_cases h : c = '\n'
    · subst h
      rw [Pattern.atStart?, fits_lineEnd_break]
      rfl
    · have hfront : '\n' ∉ [c] := fun hmem => h (List.mem_singleton.1 hmem).symm
      have hafter := throughBreak?_append hfront rest
      rw [List.singleton_append, ← ih] at hafter
      rw [hafter, Pattern.atStart?, fits_lineEnd_cons h, List.head?_map, Option.map_map,
        Pattern.atStart?, Option.map_map]
      rfl

/-- Behind its marker, a field goes on through the next line break. -/
theorem atStart?_pattern_append (field : Field) (rest : List Char) :
    field.pattern.atStart? (field.marker.toList ++ rest)
      = (throughBreak? rest).map (field.marker.toList ++ ·) := by
  rw [← atStart?_lineEnd, Pattern.atStart?, Pattern.atStart?, Option.map_map]
  simp [Field.pattern, Pattern.fits, Function.comp_def]

/-- A field starts nowhere but at its marker. -/
theorem atStart?_pattern_of_not_prefix {field : Field} {text : List Char}
    (h : ¬ field.marker.toList <+: text) : field.pattern.atStart? text = none := by
  simp [Field.pattern, Pattern.atStart?, Pattern.fits, h]

/-- Without a line break there is nowhere a fit. -/
theorem find?_pattern_of_no_break (field : Field) {text : List Char} (h : '\n' ∉ text) :
    field.pattern.find? text = none := by
  -- Nothing starts here, with the marker or without: its line would have to end.
  have hstart : ∀ {tail : List Char}, '\n' ∉ tail → field.pattern.atStart? tail = none := by
    intro tail htail
    by_cases hprefix : field.marker.toList <+: tail
    · obtain ⟨rest, rfl⟩ := hprefix
      have hrest : '\n' ∉ rest := fun hmem => htail (List.mem_append_right _ hmem)
      rw [atStart?_pattern_append, throughBreak?_eq_none_iff.2 hrest, Option.map_none]
    · exact atStart?_pattern_of_not_prefix hprefix
  induction text with
  | nil => exact hstart h
  | cons c rest ih =>
    rw [Pattern.find?, hstart h, ih fun hmem => h (List.mem_cons_of_mem c hmem), Option.or_none]

/-- **The leftmost fit of the pattern is what is found.** -/
theorem find?_pattern (field : Field) (text : List Char) :
    field.pattern.find? text = findMarked? field.marker.toList text := by
  induction text with
  | nil => cases field <;> rfl
  | cons c rest ih =>
    rw [Pattern.find?]
    by_cases hprefix : field.marker.toList <+: c :: rest
    · have hhere := List.isPrefixOf_iff_prefix.2 hprefix
      obtain ⟨after, hafter⟩ := hprefix
      rw [findMarked?, if_pos hhere, ← hafter, atStart?_pattern_append,
        throughBreak?_append field.break_not_mem_marker]
      cases hline : throughBreak? after with
      | some line => rfl
      | none =>
        -- a marker further to the right has no line break behind it either
        have hbreak : '\n' ∉ c :: rest := by
          rw [← hafter]
          simp [field.break_not_mem_marker, throughBreak?_eq_none_iff.1 hline]
        exact find?_pattern_of_no_break field fun hmem => hbreak (List.mem_cons_of_mem c hmem)
    · have hhere : ¬ field.marker.toList.isPrefixOf (c :: rest) = true :=
        fun h => hprefix (List.isPrefixOf_iff_prefix.1 h)
      rw [findMarked?, if_neg hhere, atStart?_pattern_of_not_prefix hprefix, Option.none_or, ih]

/-! ### The line of a field -/

/-- The line of a field in a text: from the marker through the line break, with nothing but its own
characters between them, and no marker starts further to the left. -/
structure IsFieldLine (field : Field) (text pre line post : List Char) : Prop where
  split : text = pre ++ line ++ post
  shape : ∃ mid, line = field.marker.toList ++ mid ++ ['\n'] ∧ '\n' ∉ mid
  first : ∀ pre' rest, text = pre' ++ field.marker.toList ++ rest → pre.length ≤ pre'.length

/-- The line of a field is at the first place of its marker. -/
theorem isFieldLine_iff {field : Field} {text pre line post : List Char} :
    IsFieldLine field text pre line post ↔
      ∃ mid, FirstAt field.marker.toList text pre (mid ++ '\n' :: post) ∧ '\n' ∉ mid ∧
        line = field.marker.toList ++ mid ++ ['\n'] := by
  constructor
  · rintro ⟨hsplit, ⟨mid, rfl, hmid⟩, hfirst⟩
    exact ⟨mid, ⟨by rw [hsplit]; simp, hfirst⟩, hmid, rfl⟩
  · rintro ⟨mid, ⟨hstands, hfirst⟩, hmid, rfl⟩
    exact ⟨by rw [hstands]; simp, ⟨mid, rfl, hmid⟩, hfirst⟩

/-- What is found is the line of the field. -/
theorem findMarked?_eq_some_iff {field : Field} {text line : List Char} :
    findMarked? field.marker.toList text = some line ↔
      ∃ pre post, IsFieldLine field text pre line post := by
  have hfound {pre rest : List Char} (h : FirstAt field.marker.toList text pre rest) :=
    findMarked?_of_firstAt field.break_not_mem_marker field.marker_ne_nil h
  simp only [isFieldLine_iff]
  constructor
  · intro h
    -- What is found starts with the marker, which then has a first place.
    have hoccurs : field.marker.toList <:+: text := by
      by_contra habsent
      rw [findMarked?_of_absent habsent] at h
      cases h
    obtain ⟨pre, rest, hfirst⟩ := Text.exists_firstAt hoccurs
    rw [hfound hfirst, Option.map_eq_some_iff] at h
    obtain ⟨through, hthrough, rfl⟩ := h
    obtain ⟨mid, post, rfl, hmid, rfl⟩ := throughBreak?_eq_some_iff.1 hthrough
    exact ⟨pre, post, mid, hfirst, hmid, by simp⟩
  · rintro ⟨pre, post, mid, hfirst, hmid, rfl⟩
    rw [hfound hfirst, throughBreak?_eq_some_iff.2 ⟨mid, post, rfl, hmid, rfl⟩]
    simp

/-- Nothing is found exactly if the marker does not occur, or no line break follows its first place. -/
theorem findMarked?_eq_none_iff {field : Field} {text : List Char} :
    findMarked? field.marker.toList text = none ↔
      ¬ field.marker.toList <:+: text ∨
        ∃ pre rest, FirstAt field.marker.toList text pre rest ∧ '\n' ∉ rest := by
  have hfound {pre rest : List Char} (h : FirstAt field.marker.toList text pre rest) :=
    findMarked?_of_firstAt field.break_not_mem_marker field.marker_ne_nil h
  constructor
  · intro h
    by_cases hoccurs : field.marker.toList <:+: text
    · obtain ⟨pre, rest, hfirst⟩ := Text.exists_firstAt hoccurs
      rw [hfound hfirst, Option.map_eq_none_iff, throughBreak?_eq_none_iff] at h
      exact .inr ⟨pre, rest, hfirst, h⟩
    · exact .inl hoccurs
  · rintro (habsent | ⟨pre, rest, hfirst, hbreak⟩)
    · exact findMarked?_of_absent habsent
    · rw [hfound hfirst, throughBreak?_eq_none_iff.2 hbreak, Option.map_none]

namespace IsFieldLine

variable {field : Field} {text pre line post : List Char}

/-- A text has at most one line of a field. -/
theorem unique {pre' line' post' : List Char} (h : IsFieldLine field text pre line post)
    (h' : IsFieldLine field text pre' line' post') : pre = pre' ∧ line = line' ∧ post = post' := by
  -- The same search finds both lines, at the same first place.
  have hline : some line = some line' := by
    rw [← findMarked?_eq_some_iff.2 ⟨pre, post, h⟩, ← findMarked?_eq_some_iff.2 ⟨pre', post', h'⟩]
  obtain ⟨mid, hfirst, -, -⟩ := isFieldLine_iff.1 h
  obtain ⟨mid', hfirst', -, -⟩ := isFieldLine_iff.1 h'
  obtain rfl : pre = pre' := (hfirst.unique hfirst').1
  obtain rfl : line = line' := Option.some.inj hline
  exact ⟨rfl, rfl, List.append_cancel_left (h.split.symm.trans h'.split)⟩

/-- The line ends in its only line break. -/
theorem exists_front (h : IsFieldLine field text pre line post) :
    ∃ front, line = front ++ ['\n'] ∧ '\n' ∉ front := by
  obtain ⟨mid, hline, hmid⟩ := h.shape
  exact ⟨field.marker.toList ++ mid, hline, by simp [field.break_not_mem_marker, hmid]⟩

/-- The line stays what it is if the text goes on. -/
theorem append (h : IsFieldLine field text pre line post) (more : List Char) :
    IsFieldLine field (text ++ more) pre line (post ++ more) := by
  obtain ⟨mid, hfirst, hmid, hline⟩ := isFieldLine_iff.1 h
  have hlonger := hfirst.append more
  rw [List.append_assoc, List.cons_append] at hlonger
  exact isFieldLine_iff.2 ⟨mid, hlonger, hmid, hline⟩

end IsFieldLine

/-! ### Bodies -/

/-- The line that is found in a body, as characters. -/
theorem find?_eq_some_iff {field : Field} {body line : String} :
    find? field body = some line ↔ ∃ pre post, IsFieldLine field body.toList pre line.toList post := by
  rw [← findMarked?_eq_some_iff, find?, Option.map_eq_some_iff]
  constructor
  · rintro ⟨characters, hfound, rfl⟩
    rw [hfound, String.toList_ofList]
  · intro hfound
    exact ⟨line.toList, hfound, String.ofList_toList⟩

/-- **The first line of a field is found.** What is found is the leftmost fit of the field's pattern. A
line is found exactly if the body has it between some `pre` and `post`, from the marker through the next
line break, and the marker starts nowhere before the end of `pre`. Nothing is found exactly if the marker
does not occur or no line break follows its first occurrence. So there is at most one such line, it ends in
its only line break, and it is still found with any text behind the body. -/
theorem find?_leftmost (field : Field) (body : String) :
    find? field body = (field.pattern.find? body.toList).map String.ofList ∧
      (∀ line, find? field body = some line ↔
        ∃ pre post, IsFieldLine field body.toList pre line.toList post) ∧
      (find? field body = none ↔
        ¬ field.marker.toList <:+: body.toList ∨
          ∃ pre rest, FirstAt field.marker.toList body.toList pre rest ∧ '\n' ∉ rest) ∧
      (∀ pre line post pre' line' post', IsFieldLine field body.toList pre line post →
        IsFieldLine field body.toList pre' line' post' → pre = pre' ∧ line = line' ∧ post = post') ∧
      ∀ line, find? field body = some line →
        (∃ front, line = front ++ "\n" ∧ '\n' ∉ front.toList) ∧
          ∀ more, find? field (body ++ more) = some line := by
  refine ⟨?_, fun line => find?_eq_some_iff, ?_, fun pre line post pre' line' post' h h' => h.unique h',
    ?_⟩
  · rw [find?_pattern, find?]
  · rw [find?, Option.map_eq_none_iff, findMarked?_eq_none_iff]
  · intro line hline
    obtain ⟨pre, post, hfield⟩ := find?_eq_some_iff.1 hline
    constructor
    · obtain ⟨front, hfront, hbreak⟩ := hfield.exists_front
      refine ⟨String.ofList front, ?_, by rwa [String.toList_ofList]⟩
      rw [← String.toList_inj, hfront]
      simp
    · intro more
      apply find?_eq_some_iff.2
      rw [String.toList_append]
      exact ⟨pre, post ++ more.toList, hfield.append more.toList⟩

/-- A body whose second line has the marker twice, with a carriage return at its end, and whose last line
has it once more. -/
def crowdedBody : String := "OS:\n-* OS: a* OS: b\r\n* OS: c"

/-- The line goes from the first of the markers to the line break, the carriage return included, also where
the last line comes to its end. -/
theorem find?_leftmost_of_crowdedBody :
    find? .os crowdedBody = some "* OS: a* OS: b\r\n" ∧
      (∃ front, "* OS: a* OS: b\r\n" = front ++ "\n" ∧ '\n' ∉ front.toList) ∧
      find? .os (crowdedBody ++ "\n") = some "* OS: a* OS: b\r\n" ∧
      find? .type crowdedBody = none := by
  have hline : find? .os crowdedBody = some "* OS: a* OS: b\r\n" := by decide +kernel
  obtain ⟨-, -, -, -, hfound⟩ := find?_leftmost .os crowdedBody
  obtain ⟨hfront, hmore⟩ := hfound _ hline
  obtain ⟨-, -, hnone, -⟩ := find?_leftmost .type crowdedBody
  exact ⟨hline, hfront, hmore "\n", hnone.2 (.inl (by decide +kernel))⟩

end Triage.Template
