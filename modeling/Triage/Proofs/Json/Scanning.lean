import Triage.Json.Printer
import Triage.Proofs.Json.Numeral
import Mathlib.Data.Bool.AllAny

namespace Triage.Json

/-!
# The tokens of a compact writing

Scanning undoes compact writing, character by character.  A literal or a number is complete only once
the next character is seen, so what is kept between two values is not one state of the scanner but
what it amounts to.

* `Value.tokens` — the tokens of a value; `Value.HasIntegers` — its numbers are integers of 64 bits.
* `Scanner.HasRead` — the scanner has read these tokens, maybe but for the end of the last one.
* `scan_quote` — a string literal spells its text, whatever is in it.
* `scan_render`, `tokens?_render` — the compact writing of a value, by recursion on it.
-/

/-! ### Values -/

namespace Value

mutual

/-- The tokens of a value. -/
def tokens : Value → List Token
  | .null => [.null]
  | .bool b => [.bool b]
  | .number x => [.numeral x.numeral]
  | .string s => [.string (some s)]
  | .array items => .openBracket :: itemTokens items ++ [.closeBracket]
  | .object members => .openBrace :: memberTokens members ++ [.closeBrace]

/-- The tokens of items, with a comma between two of them. -/
def itemTokens : List Value → List Token
  | [] => []
  | [v] => tokens v
  | v :: w :: rest => tokens v ++ .comma :: itemTokens (w :: rest)

/-- The tokens of members, with a comma between two of them. -/
def memberTokens : List (String × Value) → List Token
  | [] => []
  | [(key, v)] => .string (some key) :: .colon :: tokens v
  | (key, v) :: next :: rest =>
    .string (some key) :: .colon :: tokens v ++ .comma :: memberTokens (next :: rest)

end

mutual

/-- All numbers in the value are integers of 64 bits. -/
def HasIntegers : Value → Prop
  | .null | .bool _ | .string _ => True
  | .number x => x.IsInteger
  | .array items => ItemsHaveIntegers items
  | .object members => MembersHaveIntegers members

/-- All numbers in the items are integers of 64 bits. -/
def ItemsHaveIntegers : List Value → Prop
  | [] => True
  | v :: rest => v.HasIntegers ∧ ItemsHaveIntegers rest

/-- All numbers in the members are integers of 64 bits. -/
def MembersHaveIntegers : List (String × Value) → Prop
  | [] => True
  | (_, v) :: rest => v.HasIntegers ∧ MembersHaveIntegers rest

end

end Value

/-! ### Scanning a text -/

/-- The scanner after the characters of a text. -/
def scan (scanner : Scanner) (text : List Char) : Option Scanner :=
  (text.map some).foldlM Scanner.step scanner

/-- Nothing is scanned. -/
theorem scan_nil (scanner : Scanner) : scan scanner [] = some scanner := rfl

/-- A character is scanned, and the rest from there. -/
theorem scan_cons (scanner : Scanner) (c : Char) (text : List Char) :
    scan scanner (c :: text) = (scanner.step (some c)).bind (scan · text) := rfl

/-- A text is scanned after the one before it. -/
theorem scan_append (scanner : Scanner) (first second : List Char) :
    scan scanner (first ++ second) = (scan scanner first).bind (scan · second) := by
  simp only [scan, List.map_append, List.foldlM_append, Option.bind_eq_bind]

/-- The scanner has read these tokens: it is between two of them, or the last one ends here unless it
goes on. -/
inductive Scanner.HasRead : Scanner → List Token → Prop
  | between (tokens : List Token) : HasRead ⟨.between, tokens⟩ tokens
  | word {read : List Char} {token : Token} (tokens : List Token)
      (h : wordToken? read.reverse = some token) : HasRead ⟨.word read, tokens⟩ (token :: tokens)

/-- A character that no word goes on with counts as one between two tokens. -/
theorem Scanner.HasRead.step {scanner : Scanner} {tokens : List Token} (h : scanner.HasRead tokens)
    {c : Char} (hc : isWordChar c = false) :
    scanner.step (some c) = Scanner.between? tokens c := by
  cases h with
  | between tokens => rfl
  | word tokens h => simp [Scanner.step, hc, h]

/-- Where the scanner has read some tokens, the text may end with them. -/
theorem Scanner.HasRead.finish? {scanner : Scanner} {tokens : List Token}
    (h : scanner.HasRead tokens) : scanner.finish? = some tokens.reverse := by
  cases h with
  | between tokens => rfl
  | word tokens h => simp [Scanner.finish?, h]

/-- A mark is a token of its own. -/
theorem Scanner.HasRead.scan_mark {scanner : Scanner} {tokens : List Token}
    (h : scanner.HasRead tokens) {c : Char} {token : Token} (hmark : mark? c = some token)
    (text : List Char) : scan scanner (c :: text) = scan ⟨.between, token :: tokens⟩ text := by
  -- None of the marks is a character of another kind, by cases on them.
  have hc : isWordChar c = false ∧ isSpace c = false ∧ c ≠ '"' := by
    unfold mark? at hmark
    split at hmark
    all_goals first
      | decide
      | exact absurd hmark (by simp)
  rw [scan_cons, h.step hc.1, Scanner.between?, if_neg (by simp [hc.2.1]), if_neg hc.2.2,
    if_neg (by simp [hc.1]), hmark]
  rfl

/-! ### Words -/

/-- A character of a word is neither white space nor a quote. -/
theorem not_isSpace_of_isWordChar {c : Char} (h : isWordChar c = true) :
    isSpace c = false ∧ c ≠ '"' := by
  constructor
  · by_contra hspace
    simp only [isSpace, Bool.or_eq_true, beq_iff_eq, Bool.not_eq_false] at hspace
    rcases hspace with ((rfl | rfl) | rfl) | rfl <;> exact absurd h (by decide)
  · rintro rfl
    exact absurd h (by decide)

/-- The characters of a word are collected. -/
theorem scan_word (tokens : List Token) {text : List Char} (h : ∀ c ∈ text, isWordChar c = true)
    (read : List Char) :
    scan ⟨.word read, tokens⟩ text = some ⟨.word (text.reverse ++ read), tokens⟩ := by
  induction text generalizing read with
  | nil => rfl
  | cons c text ih =>
    have hc := h c List.mem_cons_self
    have hstep : Scanner.step ⟨.word read, tokens⟩ (some c) = some ⟨.word (c :: read), tokens⟩ :=
      if_pos hc
    rw [scan_cons, hstep, Option.bind_some, ih fun c hmem => h c (List.mem_cons_of_mem _ hmem),
      List.reverse_cons, List.append_assoc, List.singleton_append]

/-- **A word is read as its token.** -/
theorem hasRead_word (tokens : List Token) {text : List Char} {token : Token}
    (h : ∀ c ∈ text, isWordChar c = true) (htoken : wordToken? text = some token) :
    ∃ scanner, scan ⟨.between, tokens⟩ text = some scanner ∧ scanner.HasRead (token :: tokens) := by
  cases text with
  | nil => simp [wordToken?, Numeral.ofChars?, Numeral.whole?, digits?] at htoken
  | cons c text =>
    -- The first character opens the word, and the others are collected.
    have hc := h c List.mem_cons_self
    obtain ⟨hspace, hquote⟩ := not_isSpace_of_isWordChar hc
    refine ⟨⟨.word (text.reverse ++ [c]), tokens⟩, ?_, .word tokens (by simpa using htoken)⟩
    have hstep : Scanner.step ⟨.between, tokens⟩ (some c) = some ⟨.word [c], tokens⟩ := by
      show Scanner.between? tokens c = _
      rw [Scanner.between?, if_neg (by simp [hspace]), if_neg hquote, if_pos hc]
    rw [scan_cons, hstep, Option.bind_some]
    exact scan_word tokens (fun c hmem => h c (List.mem_cons_of_mem _ hmem)) [c]

/-! ### String literals -/

/-- A hexadecimal digit is read back as its number. -/
theorem hexDigit?_hexDigit {n : Nat} (h : n < 16) : hexDigit? (hexDigit n) = some n := by
  interval_cases n <;> decide

/-- A digit of a numbered escape, which more follow. -/
theorem step_unit (tokens : List Token) (read : List Piece) (value left : Nat) {c : Char}
    {digit : Nat} (h : hexDigit? c = some digit) :
    Scanner.step ⟨.unit read value (left + 2), tokens⟩ (some c)
      = some ⟨.unit read (value * 16 + digit) (left + 1), tokens⟩ := by
  simp [Scanner.step, Scanner.inUnit?, h]

/-- The last digit of a numbered escape. -/
theorem step_unit_last (tokens : List Token) (read : List Piece) (value : Nat) {c : Char}
    {digit : Nat} (h : hexDigit? c = some digit) :
    Scanner.step ⟨.unit read value 1, tokens⟩ (some c)
      = some ⟨.string (.ofUnit (value * 16 + digit) :: read), tokens⟩ := by
  simp [Scanner.step, Scanner.inUnit?, h]

/-- A control character is written by its number in four digits, of which the first two are zeros. -/
theorem scan_numbered (tokens : List Token) (read : List Piece) {n : Nat} (h : n < 0x20) :
    scan ⟨.string read, tokens⟩ ['\\', 'u', '0', '0', hexDigit (n / 16), hexDigit (n % 16)]
      = some ⟨.string (.char (Char.ofNat n) :: read), tokens⟩ := by
  have hzero : hexDigit? '0' = some 0 := by decide
  have hhigh := hexDigit?_hexDigit (n := n / 16) (by omega)
  have hlow := hexDigit?_hexDigit (n := n % 16) (by omega)
  -- The zeros in front do not count.
  have hvalue : ((0 * 16 + 0) * 16 + 0) * 16 + n / 16 = n / 16 := by omega
  have hpiece : Piece.ofUnit (n / 16 * 16 + n % 16) = .char (Char.ofNat n) := by
    rw [Nat.div_add_mod', Piece.ofUnit, if_neg (by omega)]
  have hopen : scan ⟨.string read, tokens⟩ ['\\', 'u'] = some ⟨.unit read 0 4, tokens⟩ := rfl
  show scan _ (['\\', 'u'] ++ ['0', '0', hexDigit (n / 16), hexDigit (n % 16)]) = _
  rw [scan_append, hopen, Option.bind_some, scan_cons, step_unit tokens read 0 2 hzero,
    Option.bind_some, scan_cons, step_unit tokens read _ 1 hzero, Option.bind_some, scan_cons,
    step_unit tokens read _ 0 hhigh, Option.bind_some, hvalue, scan_cons,
    step_unit_last tokens read _ hlow, hpiece]
  rfl

/-- A character is read back from its writing. -/
theorem scan_escape (tokens : List Token) (read : List Piece) (c : Char) :
    scan ⟨.string read, tokens⟩ (escape c) = some ⟨.string (.char c :: read), tokens⟩ := by
  unfold escape
  -- One case for each way to write a character, in the order in which they are tried.
  split_ifs with hquote hbackslash hb hf hn hr ht hcontrol
  · rw [hquote]
    rfl
  · rw [hbackslash]
    rfl
  · rw [hb]
    rfl
  · rw [hf]
    rfl
  · rw [hn]
    rfl
  · rw [hr]
    rfl
  · rw [ht]
    rfl
  · rw [scan_numbered tokens read hcontrol, Char.ofNat_toNat]
  · show (Scanner.inString? tokens read c).bind _ = _
    rw [Scanner.inString?, if_neg hquote, if_neg hbackslash, if_neg hcontrol]
    rfl

/-- Characters are read back from their writings, one after the other. -/
theorem scan_escapes (tokens : List Token) (text : List Char) (read : List Piece) :
    scan ⟨.string read, tokens⟩ (text.flatMap escape)
      = some ⟨.string ((text.map Piece.char).reverse ++ read), tokens⟩ := by
  induction text generalizing read with
  | nil => rfl
  | cons c text ih =>
    rw [List.flatMap_cons, scan_append, scan_escape, Option.bind_some, ih, List.map_cons,
      List.reverse_cons, List.append_assoc, List.singleton_append]

/-- Pieces that are characters make a text. -/
theorem stringText?_map_char (text : List Char) : stringText? (text.map Piece.char) = some text := by
  induction text with
  | nil => rfl
  | cons c text ih => rw [List.map_cons, stringText?, ih, Option.map_some]

/-- **A string literal spells its text**, whatever is in it. -/
theorem scan_quote (tokens : List Token) (text : String) :
    scan ⟨.between, tokens⟩ (quote text.toList)
      = some ⟨.between, .string (some text) :: tokens⟩ := by
  have hopen : Scanner.step ⟨.between, tokens⟩ (some '"') = some ⟨.string [], tokens⟩ := rfl
  rw [quote, scan_append, scan_cons, hopen, Option.bind_some, scan_escapes, Option.bind_some,
    List.append_nil]
  show some (Scanner.mk .between (.string ((stringText? _).map String.ofList) :: tokens)) = _
  rw [List.reverse_reverse, stringText?_map_char, Option.map_some, String.ofList_toList]

/-! ### Values -/

mutual

/-- **The compact writing of a value is read as its tokens.** -/
theorem scan_render (tokens : List Token) :
    (v : Value) → v.HasIntegers → ∃ scanner, scan ⟨.between, tokens⟩ v.render = some scanner ∧
      scanner.HasRead (v.tokens.reverse ++ tokens)
  | .null, _ => hasRead_word tokens (List.all_iff_forall_prop.1 (by decide)) (by decide)
  | .bool true, _ => hasRead_word tokens (List.all_iff_forall_prop.1 (by decide)) (by decide)
  | .bool false, _ => hasRead_word tokens (List.all_iff_forall_prop.1 (by decide)) (by decide)
  | .number x, h =>
    hasRead_word tokens (fun _ hmem => Number.isWordChar_of_mem_text h hmem) (Number.wordToken?_text h)
  | .string s, _ => ⟨_, scan_quote tokens s, .between _⟩
  | .array items, h => by
    -- What ends the last item is the bracket, so only there the scanner is between two tokens.
    obtain ⟨scanner, hscan, hread⟩ := scan_renderItems (.openBracket :: tokens) items h
    refine ⟨⟨.between, (Value.array items).tokens.reverse ++ tokens⟩, ?_, .between _⟩
    rw [Value.render, List.cons_append, (Scanner.HasRead.between tokens).scan_mark rfl, scan_append,
      hscan, Option.bind_some, hread.scan_mark rfl, scan_nil]
    simp [Value.tokens]
  | .object members, h => by
    obtain ⟨scanner, hscan, hread⟩ := scan_renderMembers (.openBrace :: tokens) members h
    refine ⟨⟨.between, (Value.object members).tokens.reverse ++ tokens⟩, ?_, .between _⟩
    rw [Value.render, List.cons_append, (Scanner.HasRead.between tokens).scan_mark rfl, scan_append,
      hscan, Option.bind_some, hread.scan_mark rfl, scan_nil]
    simp [Value.tokens]

/-- The compact writing of items is read as their tokens. -/
theorem scan_renderItems (tokens : List Token) :
    (items : List Value) → Value.ItemsHaveIntegers items → ∃ scanner,
      scan ⟨.between, tokens⟩ (Value.renderItems items) = some scanner ∧
        scanner.HasRead ((Value.itemTokens items).reverse ++ tokens)
  | [], _ => ⟨_, rfl, .between _⟩
  | [v], h => scan_render tokens v h.1
  | v :: w :: rest, h => by
    -- The comma ends the first item, whatever that is.
    obtain ⟨first, hfirst, hread⟩ := scan_render tokens v h.1
    obtain ⟨scanner, hscan, hrest⟩ :=
      scan_renderItems (.comma :: (v.tokens.reverse ++ tokens)) (w :: rest) h.2
    refine ⟨scanner, ?_, ?_⟩
    · rw [Value.renderItems, scan_append, hfirst, Option.bind_some, hread.scan_mark rfl, hscan]
    · simpa [Value.itemTokens] using hrest

/-- The compact writing of members is read as their tokens. -/
theorem scan_renderMembers (tokens : List Token) :
    (members : List (String × Value)) → Value.MembersHaveIntegers members → ∃ scanner,
      scan ⟨.between, tokens⟩ (Value.renderMembers members) = some scanner ∧
        scanner.HasRead ((Value.memberTokens members).reverse ++ tokens)
  | [], _ => ⟨_, rfl, .between _⟩
  | [(key, v)], h => by
    obtain ⟨scanner, hscan, hread⟩ :=
      scan_render (.colon :: .string (some key) :: tokens) v h.1
    refine ⟨scanner, ?_, ?_⟩
    · rw [Value.renderMembers, scan_append, scan_quote, Option.bind_some,
        (Scanner.HasRead.between _).scan_mark rfl, hscan]
    · simpa [Value.memberTokens] using hread
  | (key, v) :: next :: rest, h => by
    -- The key is complete with its quote, the value only with the comma.
    obtain ⟨first, hfirst, hread⟩ :=
      scan_render (.colon :: .string (some key) :: tokens) v h.1
    obtain ⟨scanner, hscan, hrest⟩ := scan_renderMembers
      (.comma :: (v.tokens.reverse ++ .colon :: .string (some key) :: tokens)) (next :: rest) h.2
    refine ⟨scanner, ?_, ?_⟩
    · rw [Value.renderMembers, scan_append, scan_append, scan_quote, Option.bind_some,
        (Scanner.HasRead.between _).scan_mark rfl, hfirst, Option.bind_some, hread.scan_mark rfl,
        hscan]
    · simpa [Value.memberTokens] using hrest

end

/-- **The tokens of the compact writing of a value are its tokens.** -/
theorem tokens?_render {v : Value} (h : v.HasIntegers) :
    tokens? (v.render.map some) = some v.tokens := by
  obtain ⟨scanner, hscan, hread⟩ := scan_render [] v h
  -- Scanned from the start, the value is all there is.
  have hfold : (v.render.map some).foldlM Scanner.step Scanner.start = some scanner := hscan
  rw [tokens?, hfold, Option.bind_eq_bind, Option.bind_some, hread.finish?, List.append_nil,
    List.reverse_reverse]

end Triage.Json
