import Triage.Proofs.Json.Scanning
import Mathlib.Data.List.Infix

namespace Triage.Json

/-!
# Texts and their marks

A mark, such as a comma or a brace, cuts a text in two. What stands before it and what stands behind it
are read each by itself.

* `Scanner.after?`, `Scanner.onTop` — a scanner after more symbols, and one on top of earlier tokens.
* `tokens?_append_mark` — two texts with a mark between them.
* `Scanner.Effect`, `Scanner.effect_of_step` — what one more symbol can do.
* `exists_pieces_of_tokens?` — a text that has a mark among its tokens is two texts with it between them.
* `IsBlank`, `tokens?_eq_nil_iff` — a text without tokens is white space.
-/

/-! ### Scanning on top of earlier tokens -/

namespace Scanner

/-- The scanner after more symbols. -/
def after? (scanner : Scanner) (text : List Symbol) : Option Scanner :=
  text.foldlM step scanner

@[simp] theorem after?_nil (scanner : Scanner) : scanner.after? [] = some scanner := rfl

/-- A symbol is taken, and the rest from there. -/
theorem after?_cons (scanner : Scanner) (symbol : Symbol) (text : List Symbol) :
    scanner.after? (symbol :: text) = (scanner.step symbol).bind (·.after? text) := rfl

/-- A text is taken after the one before it. -/
theorem after?_append (scanner : Scanner) (first second : List Symbol) :
    scanner.after? (first ++ second) = (scanner.after? first).bind (·.after? second) := by
  simp only [after?, List.foldlM_append, Option.bind_eq_bind]

/-- The scanner with earlier tokens below those that it has read. -/
def onTop (scanner : Scanner) (below : List Token) : Scanner :=
  ⟨scanner.mode, scanner.tokens ++ below⟩

/-- Earlier tokens do not matter for what comes. -/
theorem step_onTop (scanner : Scanner) (below : List Token) (symbol : Symbol) :
    (scanner.onTop below).step symbol = (scanner.step symbol).map (·.onTop below) := by
  have hbetween : ∀ tokens c,
      between? (tokens ++ below) c = (between? tokens c).map (·.onTop below) := by
    intro tokens c
    unfold between?
    split_ifs
    · rfl
    · rfl
    · rfl
    · rw [Option.map_map]
      rfl
  -- One case for each mode. Only between tokens, and at the end of a word, a token is added.
  obtain ⟨mode, tokens⟩ := scanner
  cases symbol with
  | none => cases mode <;> rfl
  | some c =>
    cases mode with
    | between => exact hbetween tokens c
    | word read =>
      simp only [step, onTop]
      split_ifs
      · rfl
      · cases wordToken? read.reverse with
        | none => rfl
        | some token => exact hbetween (token :: tokens) c
    | string read =>
      simp only [step, onTop, inString?]
      split_ifs <;> rfl
    | escape read =>
      simp only [step, onTop]
      split_ifs
      · rfl
      · rw [Option.map_map]
        rfl
    | unit read value left =>
      simp only [step, onTop, inUnit?, Option.map_map]
      congr 1
      funext digit
      simp only [Function.comp]
      split_ifs <;> rfl

/-- More symbols are taken on top of earlier tokens as without them. -/
theorem after?_onTop (scanner : Scanner) (below : List Token) (text : List Symbol) :
    (scanner.onTop below).after? text = (scanner.after? text).map (·.onTop below) := by
  induction text generalizing scanner with
  | nil => rfl
  | cons symbol text ih =>
    rw [after?_cons, after?_cons, step_onTop]
    cases scanner.step symbol with
    | none => rfl
    | some next => exact ih next

/-- What has been read on top of earlier tokens stands above them. -/
theorem HasRead.onTop {scanner : Scanner} {tokens : List Token} (h : scanner.HasRead tokens)
    (below : List Token) : (scanner.onTop below).HasRead (tokens ++ below) := by
  cases h with
  | between tokens => exact .between _
  | word tokens h => exact .word _ h

/-- What is read on top of earlier tokens is read without them. -/
theorem HasRead.of_onTop {scanner : Scanner} {below tokens : List Token}
    (h : (scanner.onTop below).HasRead tokens) :
    ∃ above, tokens = above ++ below ∧ scanner.HasRead above := by
  obtain ⟨mode, read⟩ := scanner
  cases mode with
  | between =>
    cases h
    exact ⟨read, rfl, .between _⟩
  | word letters =>
    cases h with
    | word _ h => exact ⟨_ :: read, rfl, .word _ h⟩
  | _ => nomatch h

/-- The text may end where the scanner has read these tokens. -/
theorem finish?_eq_some_iff {scanner : Scanner} {tokens : List Token} :
    scanner.finish? = some tokens ↔ scanner.HasRead tokens.reverse := by
  constructor
  · intro h
    obtain ⟨mode, read⟩ := scanner
    cases mode with
    | between =>
      obtain rfl := Option.some.inj h
      rw [List.reverse_reverse]
      exact .between read
    | word letters =>
      obtain ⟨token, htoken, h⟩ := Option.bind_eq_some_iff.1 h
      obtain rfl := Option.some.inj h
      rw [List.reverse_reverse]
      exact .word read htoken
    | _ => nomatch h
  · intro h
    rw [h.finish?, List.reverse_reverse]

end Scanner

/-- The tokens of a text are those that the scanner has read at its end. -/
theorem tokens?_eq_some_iff {text : List Symbol} {tokens : List Token} :
    tokens? text = some tokens ↔
      ∃ scanner, Scanner.start.after? text = some scanner ∧ scanner.HasRead tokens.reverse := by
  have htokens : tokens? text = (Scanner.start.after? text).bind Scanner.finish? := rfl
  rw [htokens, Option.bind_eq_some_iff]
  simp only [Scanner.finish?_eq_some_iff]

/-! ### Two texts with a mark between them -/

/-- **Two texts with a mark between them** have the tokens of both, with the mark between them. -/
theorem tokens?_append_mark {first second : List Symbol} {before after : List Token} {c : Char}
    {mark : Token} (hfirst : tokens? first = some before) (hmark : mark? c = some mark)
    (hsecond : tokens? second = some after) :
    tokens? (first ++ some c :: second) = some (before ++ mark :: after) := by
  obtain ⟨left, hleft, hbefore⟩ := tokens?_eq_some_iff.1 hfirst
  obtain ⟨right, hright, hafter⟩ := tokens?_eq_some_iff.1 hsecond
  -- The second text is read on top of the first one and the mark.
  have hstep : left.after? [some c] = some (Scanner.start.onTop (mark :: before.reverse)) :=
    hbefore.scan_mark hmark []
  refine tokens?_eq_some_iff.2 ⟨right.onTop (mark :: before.reverse), ?_, ?_⟩
  · rw [← List.singleton_append, Scanner.after?_append, hleft, Option.bind_some,
      Scanner.after?_append, hstep, Option.bind_some, Scanner.after?_onTop, hright, Option.map_some]
  · simpa using hafter.onTop (mark :: before.reverse)

/-! ### A text that has a mark among its tokens -/

/-- The token is a mark. -/
def Token.isMark : Token → Bool
  | .openBracket | .closeBracket | .openBrace | .closeBrace | .comma | .colon => true
  | .null | .bool _ | .numeral _ | .string _ => false

/-- The token of a mark is one. -/
theorem isMark_of_mark? {c : Char} {token : Token} (h : mark? c = some token) :
    token.isMark = true := by
  unfold mark? at h
  split at h
  all_goals first
    | contradiction
    | obtain rfl := Option.some.inj h
      rfl

/-- Each mark has one character. -/
theorem mark?_injective {c d : Char} {token : Token} (hc : mark? c = some token)
    (hd : mark? d = some token) : c = d := by
  -- The marks by pairs.
  unfold mark? at hc hd
  split at hc
  all_goals first
    | contradiction
    | obtain rfl := Option.some.inj hc
      split at hd <;> first | rfl | cases hd

/-- A word is no mark. -/
theorem isMark_of_wordToken? {letters : List Char} {token : Token}
    (h : wordToken? letters = some token) : token.isMark = false := by
  unfold wordToken? at h
  split_ifs at h
  · obtain rfl := Option.some.inj h
    rfl
  · obtain rfl := Option.some.inj h
    rfl
  · obtain rfl := Option.some.inj h
    rfl
  · obtain ⟨x, -, rfl⟩ := Option.map_eq_some_iff.1 h
    rfl

namespace Scanner

/-- What one more symbol can do: it is a mark behind what has been read, or white space between tokens;
or it completes a token that is no mark, or leads into one. -/
inductive Effect (scanner : Scanner) (symbol : Symbol) (next : Scanner) : Prop
  | mark {c : Char} {token : Token} {tokens : List Token} (hsymbol : symbol = some c)
      (hmark : mark? c = some token) (hread : scanner.HasRead tokens)
      (hnext : next = ⟨.between, token :: tokens⟩)
  | space {c : Char} (hsymbol : symbol = some c) (hspace : isSpace c = true)
      (hmode : scanner.mode = .between) (hnext : next = scanner)
  | token {token : Token} (hother : token.isMark = false) (htokens : next.tokens = token :: scanner.tokens)
  | inside (hmode : next.mode ≠ .between) (htokens : next.tokens = scanner.tokens)

/-- A character between two tokens is white space, opens a token or is a mark. -/
theorem between?_cases {tokens : List Token} {c : Char} {next : Scanner}
    (h : between? tokens c = some next) :
    (isSpace c = true ∧ next = ⟨.between, tokens⟩) ∨
      (next.mode ≠ .between ∧ next.tokens = tokens) ∨
      ∃ token, mark? c = some token ∧ next = ⟨.between, token :: tokens⟩ := by
  unfold between? at h
  split_ifs at h with hspace
  · exact .inl ⟨hspace, (Option.some.inj h).symm⟩
  · obtain rfl := Option.some.inj h
    exact .inr (.inl ⟨by simp, rfl⟩)
  · obtain rfl := Option.some.inj h
    exact .inr (.inl ⟨by simp, rfl⟩)
  · obtain ⟨token, hmark, rfl⟩ := Option.map_eq_some_iff.1 h
    exact .inr (.inr ⟨token, hmark, rfl⟩)

/-- **Each step has one of these effects.** -/
theorem effect_of_step {scanner next : Scanner} {symbol : Symbol} (h : scanner.step symbol = some next) :
    Effect scanner symbol next := by
  obtain ⟨mode, tokens⟩ := scanner
  cases symbol with
  | none =>
    cases mode with
    | string read =>
      obtain rfl := Option.some.inj h
      exact .inside (by simp) rfl
    | _ => cases h
  | some c =>
    cases mode with
    | between =>
      rcases between?_cases h with ⟨hspace, rfl⟩ | ⟨hmode, htokens⟩ | ⟨token, hmark, rfl⟩
      · exact .space rfl hspace rfl rfl
      · exact .inside hmode htokens
      · exact .mark rfl hmark (.between tokens) rfl
    | word letters =>
      simp only [step] at h
      split_ifs at h with hword
      · obtain rfl := Option.some.inj h
        exact .inside (by simp) rfl
      · -- the word ends in front of the character
        obtain ⟨token, htoken, h⟩ := Option.bind_eq_some_iff.1 h
        have hother := isMark_of_wordToken? htoken
        rcases between?_cases h with ⟨-, rfl⟩ | ⟨-, htokens⟩ | ⟨mark, hmark, rfl⟩
        · exact .token hother rfl
        · exact .token hother htokens
        · exact .mark rfl hmark (.word tokens htoken) rfl
    | string read =>
      simp only [step, inString?] at h
      split_ifs at h
      · obtain rfl := Option.some.inj h
        exact .token rfl rfl
      · obtain rfl := Option.some.inj h
        exact .inside (by simp) rfl
      · obtain rfl := Option.some.inj h
        exact .inside (by simp) rfl
    | escape read =>
      simp only [step] at h
      split_ifs at h
      · obtain rfl := Option.some.inj h
        exact .inside (by simp) rfl
      · obtain ⟨_, -, rfl⟩ := Option.map_eq_some_iff.1 h
        exact .inside (by simp) rfl
    | unit read value left =>
      obtain ⟨digit, -, rfl⟩ := Option.map_eq_some_iff.1 h
      split_ifs
      · exact .inside (by simp) rfl
      · exact .inside (by simp) rfl

/-- What has been read is at most one word more than what is complete. -/
theorem HasRead.eq_or_eq_cons {scanner : Scanner} {tokens : List Token} (h : scanner.HasRead tokens) :
    tokens = scanner.tokens ∨
      ∃ token, token.isMark = false ∧ tokens = token :: scanner.tokens := by
  cases h with
  | between tokens => exact .inl rfl
  | word tokens h => exact .inr ⟨_, isMark_of_wordToken? h, rfl⟩

/-- What is complete has been read. -/
theorem HasRead.suffix {scanner : Scanner} {tokens : List Token} (h : scanner.HasRead tokens) :
    scanner.tokens <:+ tokens := by
  rcases h.eq_or_eq_cons with rfl | ⟨token, -, rfl⟩
  · exact List.suffix_rfl
  · exact List.suffix_cons _ _

/-- Tokens that have been read stay where they are. -/
theorem suffix_of_after? {scanner last : Scanner} {text : List Symbol}
    (h : scanner.after? text = some last) : scanner.tokens <:+ last.tokens := by
  induction text generalizing scanner with
  | nil =>
    obtain rfl := Option.some.inj h
    exact List.suffix_rfl
  | cons symbol text ih =>
    rw [after?_cons] at h
    obtain ⟨next, hstep, hrest⟩ := Option.bind_eq_some_iff.1 h
    refine List.IsSuffix.trans ?_ (ih hrest)
    -- Whatever the symbol does, it takes no token away.
    cases effect_of_step hstep with
    | mark _ _ hread hnext =>
      rw [hnext]
      exact hread.suffix.trans (List.suffix_cons _ _)
    | space _ _ _ hnext => rw [hnext]
    | token _ htokens =>
      rw [htokens]
      exact List.suffix_cons _ _
    | inside _ htokens => rw [htokens]

/-- A mark that has not been read yet is read at some place. -/
theorem exists_mark_of_after? {scanner last : Scanner} {text : List Symbol} {above below : List Token}
    {mark : Token} (h : scanner.after? text = some last) (hread : last.HasRead (above ++ mark :: below))
    (hmark : mark.isMark = true) (hlength : scanner.tokens.length ≤ below.length) :
    ∃ first c second middle, text = first ++ some c :: second ∧ mark? c = some mark ∧
      scanner.after? first = some middle ∧ middle.HasRead below ∧
      (⟨.between, mark :: below⟩ : Scanner).after? second = some last := by
  -- The mark and what is below it are no part of what is complete so far.
  have hnot : ∀ {read : List Token}, read.length ≤ below.length → ¬ mark :: below <:+ read := by
    intro read hshort hsuffix
    have hle := hsuffix.length_le
    rw [List.length_cons] at hle
    omega
  have hword : ∀ {read : List Token} {token : Token}, read.length ≤ below.length →
      token.isMark = false → ¬ mark :: below <:+ token :: read := by
    intro read token hshort hother hsuffix
    rcases List.suffix_cons_iff.1 hsuffix with heq | hsuffix
    · rw [(List.cons.inj heq).1, hother] at hmark
      exact absurd hmark (by decide)
    · exact hnot hshort hsuffix
  -- By induction on the text: either the mark comes later, or this symbol is it.
  induction text generalizing scanner with
  | nil =>
    -- At the end, at most a word would still be added, and that is no mark.
    obtain rfl := Option.some.inj h
    have hsuffix : mark :: below <:+ above ++ mark :: below := List.suffix_append _ _
    rcases hread.eq_or_eq_cons with hsame | ⟨token, hother, hcons⟩
    · exact absurd (hsame ▸ hsuffix) (hnot hlength)
    · exact absurd (hcons ▸ hsuffix) (hword hlength hother)
  | cons symbol text ih =>
    rw [after?_cons] at h
    obtain ⟨next, hstep, hrest⟩ := Option.bind_eq_some_iff.1 h
    by_cases hlater : next.tokens.length ≤ below.length
    · obtain ⟨first, c, second, middle, rfl, hc, hfirst, hbelow, hsecond⟩ := ih hrest hlater
      refine ⟨symbol :: first, c, second, middle, rfl, hc, ?_, hbelow, hsecond⟩
      rw [after?_cons, hstep, Option.bind_some, hfirst]
    · -- It is this symbol: no other has the tokens grow so far at once.
      have hsuffix : mark :: below <:+ next.tokens := by
        refine List.suffix_of_suffix_length_le (List.suffix_append above _)
          ((suffix_of_after? hrest).trans hread.suffix) ?_
        rw [List.length_cons]
        omega
      cases effect_of_step hstep with
      | mark hsymbol hc hbefore hnext =>
        subst hsymbol
        subst hnext
        rcases List.suffix_cons_iff.1 hsuffix with heq | hsuffix
        · obtain ⟨rfl, rfl⟩ := List.cons.inj heq
          exact ⟨[], _, text, scanner, rfl, hc, rfl, hbefore, hrest⟩
        · rcases hbefore.eq_or_eq_cons with rfl | ⟨token, hother, rfl⟩
          · exact absurd hsuffix (hnot hlength)
          · exact absurd hsuffix (hword hlength hother)
      | space _ _ _ hnext => exact absurd (hnext ▸ hsuffix) (hnot hlength)
      | token hother htokens => exact absurd (htokens ▸ hsuffix) (hword hlength hother)
      | inside _ htokens => exact absurd (htokens ▸ hsuffix) (hnot hlength)

end Scanner

/-- **A text with a mark among its tokens is two texts with it between them**, which have the tokens before
the mark and those behind it. -/
theorem exists_pieces_of_tokens? {text : List Symbol} {before after : List Token} {c : Char}
    {mark : Token} (hmark : mark? c = some mark) (h : tokens? text = some (before ++ mark :: after)) :
    ∃ first second, text = first ++ some c :: second ∧ tokens? first = some before ∧
      tokens? second = some after := by
  obtain ⟨last, hlast, hread⟩ := tokens?_eq_some_iff.1 h
  have hread : last.HasRead (after.reverse ++ mark :: before.reverse) := by simpa using hread
  obtain ⟨first, d, second, middle, rfl, hd, hfirst, hbefore, hsecond⟩ :=
    Scanner.exists_mark_of_after? hlast hread (isMark_of_mark? hmark) (Nat.zero_le _)
  obtain rfl := mark?_injective hmark hd
  refine ⟨first, second, rfl, tokens?_eq_some_iff.2 ⟨middle, hfirst, hbefore⟩, ?_⟩
  -- The second text has been read on top of the mark and what is below it.
  have hstart : (⟨.between, mark :: before.reverse⟩ : Scanner)
      = Scanner.start.onTop (mark :: before.reverse) := rfl
  rw [hstart, Scanner.after?_onTop] at hsecond
  obtain ⟨right, hright, rfl⟩ := Option.map_eq_some_iff.1 hsecond
  obtain ⟨above, habove, hafter⟩ := hread.of_onTop
  obtain rfl := List.append_cancel_right habove
  exact tokens?_eq_some_iff.2 ⟨right, hright, hafter⟩

/-! ### White space -/

/-- The text is white space. -/
def IsBlank (text : List Symbol) : Prop := ∀ symbol ∈ text, ∃ c, symbol = some c ∧ isSpace c = true

/-- Only white space, and that only where nothing has been read, leaves the scanner at its start. -/
theorem Scanner.eq_start_of_step {scanner : Scanner} {symbol : Symbol}
    (h : scanner.step symbol = some .start) :
    scanner = .start ∧ ∃ c, symbol = some c ∧ isSpace c = true := by
  -- A token that is read, or begun, would be there.
  cases effect_of_step h with
  | mark _ _ _ hnext => cases hnext
  | space hsymbol hspace _ hnext => exact ⟨hnext.symm, _, hsymbol, hspace⟩
  | token _ htokens => cases htokens
  | inside hmode _ => exact absurd rfl hmode

/-- A scanner is at its start after a text exactly if it was before and the text is white space. -/
theorem Scanner.after?_eq_start_iff {scanner : Scanner} {text : List Symbol} :
    scanner.after? text = some .start ↔ scanner = .start ∧ IsBlank text := by
  induction text generalizing scanner with
  | nil => simp [IsBlank]
  | cons symbol text ih =>
    rw [after?_cons, Option.bind_eq_some_iff]
    constructor
    · rintro ⟨next, hnext, hrest⟩
      obtain ⟨rfl, hblank⟩ := ih.1 hrest
      obtain ⟨hstart, hspace⟩ := eq_start_of_step hnext
      exact ⟨hstart, List.forall_mem_cons.2 ⟨hspace, hblank⟩⟩
    · rintro ⟨rfl, hblank⟩
      obtain ⟨⟨c, rfl, hspace⟩, hrest⟩ := List.forall_mem_cons.1 hblank
      exact ⟨.start, if_pos hspace, ih.2 ⟨rfl, hrest⟩⟩

/-- **A text without tokens is white space.** -/
theorem tokens?_eq_nil_iff {text : List Symbol} : tokens? text = some [] ↔ IsBlank text := by
  rw [tokens?_eq_some_iff]
  constructor
  · rintro ⟨scanner, hscan, hread⟩
    -- With nothing read, the scanner is at its start.
    have hnothing : scanner.HasRead [] := hread
    cases hnothing
    exact (Scanner.after?_eq_start_iff.1 hscan).2
  · intro hblank
    exact ⟨.start, Scanner.after?_eq_start_iff.2 ⟨rfl, hblank⟩, .between []⟩

end Triage.Json
