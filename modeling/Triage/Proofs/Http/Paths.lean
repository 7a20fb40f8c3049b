import Triage.Proofs.Http.Percent
import Triage.Proofs.Text.Utf8
import Mathlib.Algebra.GroupWithZero.Nat

namespace Triage.Http

/-!
# What becomes of a path

A path that is put together from segments is read again as part of an address.  Its segments come out
as they went in exactly if none of them holds anything that an address takes for something else.

* `Url.path` — the path that is asked for; `path_asked` — what an address leaves of its text.
* `StandsFor` — a path by the texts that its segments are read as.
* `IsPassedOn` — the segments that an address leaves alone.
* `decodedLength_resolve` — a path never gets longer, and only if all of its segments are left alone
  it does not get shorter.
* `standsFor_asked_iff` — the two together.
-/

/-- The path that is asked for, without the query. -/
def Url.path (url : Url) : List Char := url.target.toList.takeWhile (· != '?')

/-- The path is made of segments that are read as these texts. -/
def StandsFor (path : List Char) (segments : List (List Char)) : Prop :=
  ∃ written, path = pathText written ∧ (∀ segment ∈ written, '/' ∉ segment) ∧
    written.map percentDecode = segments.map Text.utf8

/-- The characters that an address drops or takes for something else than a part of a segment. -/
def addressMarks : List Char := ['\t', '\n', '\r', '\\', '?', '#']

/-- The segments that come out of an address as they went in: they stand for no other place, none of
their characters is dropped or ends a segment, and no byte is written in them. -/
structure IsPassedOn (segment : List Char) : Prop where
  noDots : segment ≠ ['.'] ∧ segment ≠ ['.', '.']
  noMarks : ∀ c ∈ segment, c ∉ addressMarks
  noEscape : ¬ HasEscape segment

instance (segment : List Char) : Decidable (IsPassedOn segment) :=
  -- Only the characters of the segment are looked at, not all that there are.
  have := List.decidableBAll (· ∉ addressMarks) segment
  decidable_of_iff ((segment ≠ ['.'] ∧ segment ≠ ['.', '.']) ∧
      (∀ c ∈ segment, c ∉ addressMarks) ∧ ¬ HasEscape segment)
    ⟨fun ⟨hdots, hmarks, hescape⟩ => ⟨hdots, hmarks, hescape⟩,
      fun ⟨hdots, hmarks, hescape⟩ => ⟨hdots, hmarks, hescape⟩⟩

/-! ### The text of the path -/

/-- An address keeps all characters but tabs and line breaks. -/
def isKept (c : Char) : Bool := !(c == '\t' || c == '\n' || c == '\r')

/-- What an address reads as its path. -/
def pathPart (text : List Char) : List Char :=
  ((text.filter isKept).takeWhile (· != '#')).takeWhile (· != '?')

/-- What is read as the path is part of the text, in order. -/
theorem pathPart_sublist (text : List Char) : (pathPart text).Sublist text :=
  ((List.takeWhile_sublist _).trans (List.takeWhile_sublist _)).trans List.filter_sublist

/-- Nothing is left out of a text without marks, and of no other text. -/
theorem pathPart_eq_self_iff {text : List Char} :
    pathPart text = text ↔ ∀ c ∈ text, isKept c = true ∧ c ≠ '#' ∧ c ≠ '?' := by
  constructor
  · intro h c hc
    have hquery : c ∈ ((text.filter isKept).takeWhile (· != '#')).takeWhile (· != '?') := by
      rw [← h] at hc
      exact hc
    have hfragment := (List.takeWhile_sublist _).subset hquery
    have hfilter := (List.takeWhile_sublist _).subset hfragment
    exact ⟨(List.mem_filter.1 hfilter).2, by simpa using List.mem_takeWhile_imp hfragment,
      by simpa using List.mem_takeWhile_imp hquery⟩
  · intro h
    have hfilter : text.filter isKept = text := List.filter_eq_self.2 fun c hc => (h c hc).1
    have hfragment : text.takeWhile (· != '#') = text :=
      List.takeWhile_eq_self_iff.2 fun c hc => by simpa using (h c hc).2.1
    have hquery : text.takeWhile (· != '?') = text :=
      List.takeWhile_eq_self_iff.2 fun c hc => by simpa using (h c hc).2.2
    rw [pathPart, hfilter, hfragment, hquery]

/-- Behind characters that are not blank nothing is dropped. -/
theorem bareEnd_append (text : List Char) {last : List Char} (hne : last ≠ [])
    (h : ∀ c ∈ last, 0x20 < c.toNat) :
    bareEnd (text ++ last) = (text ++ last).filter isKept := by
  have hkept : (text ++ last).reverse.dropWhile (·.toNat ≤ 0x20) = (text ++ last).reverse := by
    obtain ⟨c, rest, hc⟩ := List.exists_cons_of_ne_nil (List.reverse_ne_nil_iff.2 hne)
    have hmem : c ∈ last := List.mem_reverse.1 (hc ▸ List.mem_cons_self)
    rw [List.reverse_append, hc, List.cons_append, List.dropWhile_cons, if_neg]
    simpa using h c hmem
  rw [bareEnd, hkept, List.reverse_reverse]
  rfl

/-! ### Resolving -/

/-- The path behind one more segment. -/
def entered (path : List (List Char)) (segment : List Char) (isLast : Bool) : List (List Char) :=
  match dots? segment with
  | some n =>
    if isLast then [] :: (if n = 2 then parent path else path)
    else if n = 2 then parent path else path
  | none => percentEncode isReservedInPath segment :: path

/-- A path is resolved a segment at a time. -/
theorem resolve_cons (path : List (List Char)) (first : List Char) (rest : List (List Char)) :
    resolve path (first :: rest) = resolve (entered path first rest.isEmpty) rest := by
  cases hdots : dots? first <;> simp [resolve, entered, hdots]

/-- Dot segments leave what comes before them, or its start. -/
theorem parent_suffix (path : List (List Char)) : parent path <:+ path := by
  cases path with
  | nil => exact List.suffix_refl _
  | cons segment path =>
    rw [parent]
    split
    · exact List.suffix_refl _
    · exact List.suffix_cons _ _

/-- A dot segment leaves the end of the path, or all of it. -/
theorem above_suffix (path : List (List Char)) (n : Nat) :
    (if n = 2 then parent path else path) <:+ path := by
  split
  · exact parent_suffix path
  · exact List.suffix_refl _

/-- What holds of the segments that are put in holds of a resolved path. -/
theorem forall_mem_resolve {P : List Char → Prop} (hnil : P []) {path segments : List (List Char)}
    (hpath : ∀ segment ∈ path, P segment)
    (hsegments : ∀ segment ∈ segments, P (percentEncode isReservedInPath segment)) :
    ∀ segment ∈ resolve path segments, P segment := by
  induction segments generalizing path with
  | nil => exact hpath
  | cons first rest ih =>
    obtain ⟨hfirst, hrest⟩ := List.forall_mem_cons.1 hsegments
    rw [resolve_cons]
    refine ih ?_ hrest
    unfold entered
    split
    · rename_i n _
      -- What a dot segment leaves was there before.
      have habove : ∀ segment ∈ (if n = 2 then parent path else path), P segment :=
        fun segment hmem => hpath segment ((above_suffix path n).subset hmem)
      split
      · exact List.forall_mem_cons.2 ⟨hnil, habove⟩
      · exact habove
    · exact List.forall_mem_cons.2 ⟨hfirst, hpath⟩

/-- The path ends where the query starts. -/
theorem takeWhile_targetOf (text : List Char) :
    (targetOf text).takeWhile (· != '?')
      = pathOf ((text.takeWhile (· != '#')).takeWhile (· != '?')) := by
  -- A question mark is written by its byte, so there is none in the path itself.
  have hquestion : ∀ text, ∀ c ∈ pathOf text, (c != '?') = true := by
    intro text c hc
    obtain ⟨segment, hsegment, hc⟩ := List.mem_flatMap.1 hc
    have hnone : '?' ∉ segment := by
      refine forall_mem_resolve (P := ('?' ∉ ·)) List.not_mem_nil (by simp) ?_ segment
        (List.mem_reverse.1 hsegment)
      exact fun piece _ => not_mem_percentEncode (by decide) (.inl (by decide))
    rcases List.mem_cons.1 hc with rfl | hc
    · rfl
    · exact bne_iff_ne.2 fun heq => hnone (heq ▸ hc)
  rw [targetOf, List.takeWhile_append_of_pos (hquestion _)]
  cases (text.takeWhile (· != '#')).dropWhile (· != '?') with
  | nil => exact List.append_nil _
  | cons _ _ => exact List.append_nil _

/-- The path that is asked for is what the address reads as its path. -/
theorem path_asked (site : Site) (text : List Char) :
    (site.asked (targetOf text)).path
      = pathOf ((text.takeWhile (· != '#')).takeWhile (· != '?')) := by
  rw [Url.path, Site.asked, String.toList_ofList, takeWhile_targetOf]

/-- Without dot segments, the segments are appended as they are written. -/
theorem resolve_of_noDots {segments : List (List Char)}
    (h : ∀ segment ∈ segments, dots? segment = none) (path : List (List Char)) :
    resolve path segments = (segments.map (percentEncode isReservedInPath)).reverse ++ path := by
  induction segments generalizing path with
  | nil => rfl
  | cons first rest ih =>
    obtain ⟨hfirst, hrest⟩ := List.forall_mem_cons.1 h
    rw [resolve_cons, entered, hfirst, ih hrest, List.map_cons, List.reverse_cons, List.append_assoc]
    rfl

/-! ### Lengths -/

/-- The bytes that the segments of a path are read as, with one for the slash before each. -/
def decodedLength (path : List (List Char)) : Nat :=
  (path.map fun segment => 1 + (percentDecode segment).length).sum

/-- The bytes of the segments themselves, with one for the slash before each. -/
def rawLength (segments : List (List Char)) : Nat :=
  (segments.map fun segment => 1 + (Text.utf8 segment).length).sum

/-- A segment counts with its bytes and its slash. -/
theorem rawLength_cons (first : List Char) (rest : List (List Char)) :
    rawLength (first :: rest) = 1 + (Text.utf8 first).length + rawLength rest := by
  rw [rawLength, List.map_cons, List.sum_cons]
  rfl

/-- The order of the segments does not matter to their length. -/
theorem decodedLength_reverse (path : List (List Char)) :
    decodedLength path.reverse = decodedLength path := by
  rw [decodedLength, List.map_reverse, List.sum_reverse, decodedLength]

/-- Segments that are read as these texts are as long as they are. -/
theorem decodedLength_eq_rawLength {written segments : List (List Char)}
    (h : written.map percentDecode = segments.map Text.utf8) :
    decodedLength written = rawLength segments := by
  have hlengths := congrArg (fun texts => (texts.map fun bytes => 1 + bytes.length).sum) h
  simp only [List.map_map] at hlengths
  exact hlengths

/-- With segments left out, a path gets no longer. -/
theorem decodedLength_of_suffix {path path' : List (List Char)} (h : path' <:+ path) :
    decodedLength path' ≤ decodedLength path := by
  obtain ⟨first, rfl⟩ := h
  rw [decodedLength, decodedLength, List.map_append, List.sum_append]
  exact Nat.le_add_left _ _

/-- One more segment adds no more than its own bytes, and fewer if it is a dot segment or a byte is
written in it. -/
theorem decodedLength_entered (path : List (List Char)) (segment : List Char) (isLast : Bool) :
    decodedLength (entered path segment isLast)
        ≤ decodedLength path + (1 + (Text.utf8 segment).length) ∧
      (decodedLength path + (1 + (Text.utf8 segment).length)
          ≤ decodedLength (entered path segment isLast) →
        dots? segment = none ∧ ¬ HasEscape segment) := by
  cases hdots : dots? segment with
  | some n =>
    have habove := decodedLength_of_suffix (above_suffix path n)
    have hne : 1 ≤ (Text.utf8 segment).length := by
      cases segment with
      | nil => exact nomatch (show none = some n from hdots)
      | cons c rest =>
        have := one_le_length_utf8EncodeChar c
        rw [length_utf8_cons]
        omega
    -- A dot segment is gone; if it is the last one, an empty segment stands in its place.
    have hlength : decodedLength (entered path segment isLast) ≤ decodedLength path + 1 := by
      rw [entered, hdots]
      cases isLast with
      | true =>
        show 1 + 0 + decodedLength (if n = 2 then parent path else path) ≤ _
        omega
      | false =>
        show decodedLength (if n = 2 then parent path else path) ≤ _
        omega
    exact ⟨by omega, fun _ => by omega⟩
  | none =>
    have hlength : decodedLength (entered path segment isLast)
        = 1 + (percentDecode segment).length + decodedLength path := by
      rw [entered, hdots, decodedLength, List.map_cons, List.sum_cons, percentDecode_percentEncode]
      rfl
    have hdecode := length_percentDecode segment
    refine ⟨by omega, fun hle => ⟨rfl, fun hescape => ?_⟩⟩
    have := hdecode.2 hescape
    omega

/-- **A path never gets longer**, and only if all of its segments are left alone it does not get
shorter. -/
theorem decodedLength_resolve (path segments : List (List Char)) :
    decodedLength (resolve path segments) ≤ decodedLength path + rawLength segments ∧
      (decodedLength path + rawLength segments ≤ decodedLength (resolve path segments) →
        ∀ segment ∈ segments, dots? segment = none ∧ ¬ HasEscape segment) := by
  induction segments generalizing path with
  | nil => exact ⟨Nat.le_refl _, fun _ => by simp⟩
  | cons first rest ih =>
    have hentered := decodedLength_entered path first rest.isEmpty
    have hrest := ih (entered path first rest.isEmpty)
    rw [resolve_cons, rawLength_cons]
    refine ⟨by omega, fun hle => List.forall_mem_cons.2 ⟨hentered.2 (by omega), ?_⟩⟩
    exact hrest.2 (by omega)

/-- Taken apart and put together again, a text is as long as before, slashes of either kind. -/
theorem rawLength_splitBy (text : List Char) :
    rawLength (Text.splitBy isSlash text) = 1 + (Text.utf8 text).length := by
  induction text with
  | nil => rfl
  | cons c rest ih =>
    rw [Text.splitBy, length_utf8_cons]
    split
    · rename_i hslash
      -- The slash counts for the new piece.
      have hc : (String.utf8EncodeChar c).length = 1 := by
        simp only [isSlash, Bool.or_eq_true, beq_iff_eq] at hslash
        rcases hslash with rfl | rfl <;> decide
      have hnil : (Text.utf8 []).length = 0 := rfl
      rw [rawLength_cons, ih]
      omega
    · cases hsplit : Text.splitBy isSlash rest with
      | nil => exact absurd hsplit (Text.splitBy_ne_nil _ _)
      | cons first others =>
        rw [hsplit, rawLength_cons] at ih
        simp only [rawLength_cons, length_utf8_cons]
        omega

/-- The bytes of a path are those of its segments, with one for each slash. -/
theorem length_utf8_pathText (segments : List (List Char)) :
    (Text.utf8 (pathText segments)).length = rawLength segments := by
  induction segments with
  | nil => rfl
  | cons first rest ih =>
    have happend : Text.utf8 (pathText (first :: rest))
        = Text.utf8 ['/'] ++ (Text.utf8 first ++ Text.utf8 (pathText rest)) := by
      simp [Text.utf8, pathText]
    have hslash : (Text.utf8 ['/']).length = 1 := by decide
    rw [happend, List.length_append, List.length_append, hslash, ih, rawLength_cons, Nat.add_assoc]

/-- What is left of a text has no more bytes, and fewer unless it is all of it. -/
theorem length_utf8_of_sublist {part text : List Char} (h : part.Sublist text) :
    (Text.utf8 part).length ≤ (Text.utf8 text).length ∧
      ((Text.utf8 text).length ≤ (Text.utf8 part).length → part = text) := by
  induction h with
  | slnil => exact ⟨Nat.le_refl _, fun _ => rfl⟩
  | cons c _ ih =>
    have := one_le_length_utf8EncodeChar c
    rw [length_utf8_cons]
    exact ⟨by omega, fun _ => by omega⟩
  | cons_cons c _ ih =>
    rw [length_utf8_cons, length_utf8_cons]
    exact ⟨by omega, fun hle => congrArg (c :: ·) (ih.2 (by omega))⟩

/-! ### Segments that are passed on -/

/-- A path comes from one list of segments only. -/
theorem pathText_inj {segments segments' : List (List Char)}
    (h : ∀ segment ∈ segments, '/' ∉ segment) (h' : ∀ segment ∈ segments', '/' ∉ segment)
    (heq : pathText segments = pathText segments') : segments = segments' := by
  -- Segments without slashes are found by splitting at the slashes.
  have hsplit : ∀ {list : List (List Char)}, list ≠ [] → (∀ segment ∈ list, '/' ∉ segment) →
      Text.splitBy (· == '/') ((pathText list).drop 1) = list := fun hne hlist =>
    splitBy_pathText rfl hne fun segment hsegment c hc =>
      beq_eq_false_iff_ne.2 fun hc' => hlist segment hsegment (hc' ▸ hc)
  cases segments with
  | nil =>
    cases segments' with
    | nil => rfl
    | cons _ _ => cases heq
  | cons _ _ =>
    cases segments' with
    | nil => cases heq
    | cons _ _ =>
      rw [← hsplit (List.cons_ne_nil _ _) h, heq]
      exact hsplit (List.cons_ne_nil _ _) h'

/-- The pieces between marks hold none. -/
theorem isMark_of_mem_splitBy {isMark : Char → Bool} {text piece : List Char}
    (h : piece ∈ Text.splitBy isMark text) : ∀ c ∈ piece, isMark c = false := by
  induction text generalizing piece with
  | nil =>
    rw [List.mem_singleton.1 h]
    exact fun c hc => absurd hc List.not_mem_nil
  | cons c rest ih =>
    rw [Text.splitBy] at h
    split at h
    · rcases List.mem_cons.1 h with rfl | h
      · exact fun c hc => absurd hc List.not_mem_nil
      · exact ih h
    · rename_i hmark
      cases hsplit : Text.splitBy isMark rest with
      | nil => exact absurd hsplit (Text.splitBy_ne_nil _ _)
      | cons first others =>
        rw [hsplit] at h ih
        rcases List.mem_cons.1 h with rfl | h
        · exact List.forall_mem_cons.2 ⟨Bool.eq_false_iff.2 hmark, ih List.mem_cons_self⟩
        · exact ih (List.mem_cons_of_mem _ h)

/-- The pieces between slashes hold none, and none comes up when they are resolved. -/
theorem slash_not_mem_of_mem_resolve {text segment : List Char}
    (h : segment ∈ resolve [] (Text.splitBy isSlash text)) : '/' ∉ segment := by
  refine forall_mem_resolve (P := ('/' ∉ ·)) List.not_mem_nil (by simp) ?_ segment h
  intro piece hpiece
  refine slash_not_mem_percentEncode fun hmem => ?_
  exact absurd (isMark_of_mem_splitBy hpiece '/' hmem) (by decide)

/-- A segment that is passed on stands for no other place, in whatever writing. -/
theorem IsPassedOn.dots?_eq_none {segment : List Char} (h : IsPassedOn segment) :
    dots? segment = none := by
  -- A dot by its number is an escape.
  have hbyte : ∀ {e : Char} (rest : List Char), e = 'e' ∨ e = 'E' →
      StartsWithByte ('2' :: e :: rest) := by
    intro e rest he
    refine ⟨'2', e, rest, rfl, by decide, ?_⟩
    rcases he with rfl | rfl <;> decide
  unfold dots?
  split
  · exact absurd rfl h.noDots.1
  · exact absurd rfl h.noDots.2
  · rename_i e rest
    rw [if_neg]
    exact fun he => h.noEscape ⟨[], _, rfl, hbyte rest he⟩
  · rename_i e
    rw [if_neg]
    exact fun he => h.noEscape ⟨['.'], _, rfl, hbyte [] he⟩
  · rfl

variable {segments : List (List Char)}

/-- Nothing is left out of segments that are passed on. -/
theorem pathPart_of_passedOn (h : ∀ segment ∈ segments, IsPassedOn segment) :
    pathPart (pathText segments) = pathText segments := by
  refine pathPart_eq_self_iff.2 fun c hc => ?_
  obtain ⟨segment, hsegment, hc⟩ := List.mem_flatMap.1 hc
  rcases List.mem_cons.1 hc with rfl | hc
  · decide
  · have hmarks := (h segment hsegment).noMarks c hc
    simp only [addressMarks, List.mem_cons, List.not_mem_nil, not_or, or_false] at hmarks
    simp [isKept, hmarks]

section Asked

variable (hne : segments ≠ []) (hslash : ∀ segment ∈ segments, '/' ∉ segment)
include hne hslash

/-- Segments that are passed on are asked for as they are written. -/
theorem pathOf_of_passedOn (h : ∀ segment ∈ segments, IsPassedOn segment) :
    pathOf (pathText segments) = pathText (segments.map (percentEncode isReservedInPath)) := by
  have hpieces : Text.splitBy isSlash ((pathText segments).drop 1) = segments := by
    refine splitBy_pathText (by decide) hne fun segment hsegment c hc => ?_
    have hmarks := (h segment hsegment).noMarks c hc
    have hback : c ≠ '\\' := fun heq => hmarks (by rw [heq]; decide)
    have hfront : c ≠ '/' := fun heq => hslash segment hsegment (heq ▸ hc)
    simp [isSlash, hback, hfront]
  rw [pathOf, hpieces, resolve_of_noDots fun segment hsegment =>
    (h segment hsegment).dots?_eq_none, List.append_nil, List.reverse_reverse, pathText]

/-- There is neither a query nor a fragment behind segments that are passed on. -/
theorem targetOf_of_passedOn (h : ∀ segment ∈ segments, IsPassedOn segment) :
    targetOf ((pathText segments).filter isKept)
        = pathText (segments.map (percentEncode isReservedInPath)) ∧
      fragmentOf ((pathText segments).filter isKept) = [] := by
  have hmarks := pathPart_eq_self_iff.1 (pathPart_of_passedOn h)
  have hfilter : (pathText segments).filter isKept = pathText segments :=
    List.filter_eq_self.2 fun c hc => (hmarks c hc).1
  have hfragment : ∀ c ∈ pathText segments, (c != '#') = true := fun c hc =>
    bne_iff_ne.2 (hmarks c hc).2.1
  have hquery : ∀ c ∈ pathText segments, (c != '?') = true := fun c hc =>
    bne_iff_ne.2 (hmarks c hc).2.2
  rw [hfilter, targetOf, fragmentOf, List.takeWhile_eq_self_iff.2 hfragment,
    List.dropWhile_eq_nil_iff.2 hfragment, List.takeWhile_eq_self_iff.2 hquery,
    List.dropWhile_eq_nil_iff.2 hquery, pathOf_of_passedOn hne hslash h]
  exact ⟨List.append_nil _, rfl⟩

/-- If the segments come out as they went in, nothing is left out of their text, and none of them is
left out or read otherwise.  There are too few bytes else. -/
theorem pieces_eq_of_standsFor
    (h : StandsFor (pathOf (pathPart (pathText segments))) segments) :
    pathPart (pathText segments) = pathText segments ∧
      Text.splitBy isSlash ((pathText segments).drop 1) = segments ∧
      ∀ segment ∈ segments, dots? segment = none ∧ ¬ HasEscape segment := by
  obtain ⟨written, hpath, hwritten, hdecode⟩ := h
  obtain ⟨rest, hrest⟩ : ∃ rest, pathText segments = '/' :: rest := by
    obtain ⟨first, others, rfl⟩ := List.exists_cons_of_ne_nil hne
    exact ⟨first ++ pathText others, rfl⟩
  -- The first slash is kept in any case.
  have hpart : pathPart ('/' :: rest) = '/' :: pathPart rest := rfl
  rw [hrest, hpart] at hpath ⊢
  simp only [List.drop_succ_cons, List.drop_zero]
  have hresolved : (resolve [] (Text.splitBy isSlash (pathPart rest))).reverse = written :=
    pathText_inj (fun segment hsegment => slash_not_mem_of_mem_resolve (List.mem_reverse.1 hsegment))
      hwritten hpath
  have hlength : decodedLength (resolve [] (Text.splitBy isSlash (pathPart rest)))
      = 1 + (Text.utf8 rest).length := by
    have htext := length_utf8_pathText segments
    rw [hrest, length_utf8_cons] at htext
    rw [← decodedLength_reverse, hresolved, decodedLength_eq_rawLength hdecode, ← htext]
    rfl
  have hresolve := decodedLength_resolve [] (Text.splitBy isSlash (pathPart rest))
  have hempty : decodedLength [] = 0 := rfl
  have hsublist := length_utf8_of_sublist (pathPart_sublist rest)
  rw [hempty, Nat.zero_add, hlength, rawLength_splitBy] at hresolve
  -- Something left out would be missing in the length.
  have hwhole : pathPart rest = rest := hsublist.2 (by omega)
  rw [hwhole] at hresolve hresolved ⊢
  have hkept := hresolve.2 (Nat.le_refl _)
  -- The pieces have the bytes of the segments, so they are the segments.
  have hpieces : Text.splitBy isSlash rest = segments := by
    rw [resolve_of_noDots (fun piece hpiece => (hkept piece hpiece).1), List.append_nil,
      List.reverse_reverse] at hresolved
    refine (List.map_inj_right fun _ _ heq => Text.utf8_injective heq).1 (Eq.trans ?_ hdecode)
    rw [← hresolved, List.map_map]
    refine List.map_congr_left fun piece hpiece => ?_
    rw [Function.comp_apply, percentDecode_percentEncode,
      percentDecode_eq_utf8 (hkept piece hpiece).2]
  exact ⟨rfl, hpieces, hpieces ▸ hkept⟩

/-- **The segments come out as they went in exactly if all of them are passed on.** -/
theorem standsFor_asked_iff :
    StandsFor (pathOf (pathPart (pathText segments))) segments ↔
      ∀ segment ∈ segments, IsPassedOn segment := by
  constructor
  · intro h
    obtain ⟨hpart, hpieces, hkept⟩ := pieces_eq_of_standsFor hne hslash h
    intro segment hsegment
    obtain ⟨hdots, hescape⟩ := hkept segment hsegment
    refine ⟨⟨?_, ?_⟩, ?_, hescape⟩
    · rintro rfl
      cases hdots
    · rintro rfl
      cases hdots
    · intro c hc hmark
      have hin : c ∈ pathText segments :=
        List.mem_flatMap.2 ⟨segment, hsegment, List.mem_cons_of_mem _ hc⟩
      have hkept := pathPart_eq_self_iff.1 hpart c hin
      have hnoMark : isSlash c = false := isMark_of_mem_splitBy (hpieces ▸ hsegment) c hc
      -- A mark is dropped, or it starts the query or the fragment, or it separates pieces.
      simp only [addressMarks, List.mem_cons, List.not_mem_nil, or_false] at hmark
      rcases hmark with rfl | rfl | rfl | rfl | rfl | rfl
      · exact absurd hkept.1 (by decide)
      · exact absurd hkept.1 (by decide)
      · exact absurd hkept.1 (by decide)
      · exact absurd hnoMark (by decide)
      · exact hkept.2.2 rfl
      · exact hkept.2.1 rfl
  · intro h
    rw [pathPart_of_passedOn h]
    refine ⟨_, pathOf_of_passedOn hne hslash h, ?_, ?_⟩
    · intro segment hsegment
      obtain ⟨raw, hraw, rfl⟩ := List.mem_map.1 hsegment
      exact slash_not_mem_percentEncode (hslash raw hraw)
    · rw [List.map_map]
      refine List.map_congr_left fun segment hsegment => ?_
      rw [Function.comp_apply, percentDecode_percentEncode,
        percentDecode_eq_utf8 (h segment hsegment).noEscape]

end Asked

end Triage.Http
