import Triage.Json.Numeral

namespace Triage.Json

/-!
# Tokens

A text arrives as a list of optional characters: `none` is an ill-formed piece of the bytes it came
from. Such a piece may stand inside a string and nowhere else.

* `Token` — a bracket, a mark, a literal, a numeral or a string.
* `Piece`, `stringText?` — the pieces of a string literal, and the text they spell, if any.
* `Scanner.step` — one more character; `tokens?` — the tokens of a whole text.
-/

/-- One character, or an ill-formed piece of the bytes that a text came from. -/
abbrev Symbol := Option Char

/-- A lexical unit. A string that is spelled correctly but denotes no text is `string none`. -/
inductive Token
  | openBracket
  | closeBracket
  | openBrace
  | closeBrace
  | comma
  | colon
  | null
  | bool (value : Bool)
  | numeral (value : Numeral)
  | string (value : Option String)
  deriving DecidableEq, Repr

/-! ### String literals -/

/-- A part of a string literal: a character, the number of an escape that is half a character, or an
ill-formed piece. -/
inductive Piece
  | char (c : Char)
  | half (unit : Nat)
  | illFormed

/-- The character of two halves, the high one first. -/
def joinHalves? (high low : Nat) : Option Char :=
  if 0xD800 ≤ high ∧ high < 0xDC00 ∧ 0xDC00 ≤ low ∧ low < 0xE000 then
    some (Char.ofNat (0x10000 + (high - 0xD800) * 0x400 + (low - 0xDC00)))
  else none

/-- The text of a string literal. Halves have to come in pairs. -/
def stringText? : List Piece → Option (List Char)
  | [] => some []
  | .char c :: rest => (stringText? rest).map (c :: ·)
  | .half high :: .half low :: rest => do
    let c ← joinHalves? high low
    (stringText? rest).map (c :: ·)
  | _ => none

/-- What a numbered escape stands for. -/
def Piece.ofUnit (n : Nat) : Piece :=
  if 0xD800 ≤ n ∧ n < 0xE000 then .half n else .char (Char.ofNat n)

/-- What the character after a backslash stands for, if it is a short escape. -/
def shortEscape? : Char → Option Char
  | '"' => some '"'
  | '\\' => some '\\'
  | '/' => some '/'
  | 'b' => some '\u0008'
  | 'f' => some '\u000c'
  | 'n' => some '\n'
  | 'r' => some '\r'
  | 't' => some '\t'
  | _ => none

/-- The value of a hexadecimal digit. -/
def hexDigit? (c : Char) : Option Nat :=
  if c.isDigit then some (c.toNat - '0'.toNat)
  else if 'a' ≤ c ∧ c ≤ 'f' then some (c.toNat - 'a'.toNat + 10)
  else if 'A' ≤ c ∧ c ≤ 'F' then some (c.toNat - 'A'.toNat + 10)
  else none

/-! ### Scanning -/

/-- What is being read. Pieces and characters so far are in reverse. -/
inductive Mode
  | between
  | word (read : List Char)
  | string (read : List Piece)
  | escape (read : List Piece)
  | unit (read : List Piece) (value left : Nat)

/-- The tokens read so far, in reverse, and what is being read. -/
structure Scanner where
  mode : Mode
  tokens : List Token

/-- The token of a run of letters, digits, signs and points. -/
def wordToken? (cs : List Char) : Option Token :=
  if cs = ['n', 'u', 'l', 'l'] then some .null
  else if cs = ['t', 'r', 'u', 'e'] then some (.bool true)
  else if cs = ['f', 'a', 'l', 's', 'e'] then some (.bool false)
  else (Numeral.ofChars? cs).map .numeral

/-- A character that literals and numerals are made of. -/
def isWordChar (c : Char) : Bool := c.isAlphanum || c == '+' || c == '-' || c == '.'

/-- The token that is a character of its own. -/
def mark? : Char → Option Token
  | '[' => some .openBracket
  | ']' => some .closeBracket
  | '{' => some .openBrace
  | '}' => some .closeBrace
  | ',' => some .comma
  | ':' => some .colon
  | _ => none

/-- White space between tokens. -/
def isSpace (c : Char) : Bool := c == ' ' || c == '\t' || c == '\n' || c == '\r'

namespace Scanner

/-- Nothing has been read. -/
def start : Scanner := ⟨.between, []⟩

/-- A character between two tokens. -/
def between? (tokens : List Token) (c : Char) : Option Scanner :=
  if isSpace c then some ⟨.between, tokens⟩
  else if c = '"' then some ⟨.string [], tokens⟩
  else if isWordChar c then some ⟨.word [c], tokens⟩
  else (mark? c).map fun token => ⟨.between, token :: tokens⟩

/-- A character inside a string. -/
def inString? (tokens : List Token) (read : List Piece) (c : Char) : Option Scanner :=
  if c = '"' then
    some ⟨.between, .string ((stringText? read.reverse).map String.ofList) :: tokens⟩
  else if c = '\\' then some ⟨.escape read, tokens⟩
  else if c.toNat < 0x20 then none
  else some ⟨.string (.char c :: read), tokens⟩

/-- A character of a numbered escape, which has four hexadecimal digits. -/
def inUnit? (tokens : List Token) (read : List Piece) (value left : Nat) (c : Char) :
    Option Scanner :=
  (hexDigit? c).map fun digit =>
    let value := value * 16 + digit
    if left ≤ 1 then ⟨.string (.ofUnit value :: read), tokens⟩
    else ⟨.unit read value (left - 1), tokens⟩

/-- One more character, or an ill-formed piece. -/
def step (scanner : Scanner) (symbol : Symbol) : Option Scanner :=
  match scanner.mode, symbol with
  | .between, some c => between? scanner.tokens c
  | .word read, some c =>
    if isWordChar c then some ⟨.word (c :: read), scanner.tokens⟩
    else do between? ((← wordToken? read.reverse) :: scanner.tokens) c
  | .string read, some c => inString? scanner.tokens read c
  | .string read, none => some ⟨.string (.illFormed :: read), scanner.tokens⟩
  | .escape read, some c =>
    if c = 'u' then some ⟨.unit read 0 4, scanner.tokens⟩
    else (shortEscape? c).map fun c => ⟨.string (.char c :: read), scanner.tokens⟩
  | .unit read value left, some c => inUnit? scanner.tokens read value left c
  | _, none => none

/-- The tokens, if the text may end here. -/
def finish? (scanner : Scanner) : Option (List Token) :=
  match scanner.mode with
  | .between => some scanner.tokens.reverse
  | .word read => do some ((← wordToken? read.reverse) :: scanner.tokens).reverse
  | _ => none

end Scanner

/-- The tokens of a text. -/
def tokens? (symbols : List Symbol) : Option (List Token) := do
  (← symbols.foldlM Scanner.step Scanner.start).finish?

end Triage.Json
