import Triage.Json.Token

namespace Triage.Json

/-!
# Documents

* `Document` — a text that follows the grammar, before it is asked what its numerals, strings and
  members mean: strings may denote no text, numerals may be too large, keys may repeat.
* `Reader.step` — one more token, on a stack of open arrays and objects.
* `Document.ofSymbols?`, `Document.ofString?` — the document of a whole text.
-/

/-- A key, or a string that denotes no text in the place of one. -/
abbrev Key := Option String

/-- A text by its grammar alone. -/
inductive Document
  | null
  | bool (value : Bool)
  | numeral (value : Numeral)
  | string (value : Option String)
  | array (items : List Document)
  | object (members : List (Key × Document))

/-- An array or object that is still open, with what stands in it so far in reverse. -/
inductive Frame
  | array (items : List Document)
  | object (members : List (Key × Document)) (key : Key)

/-- What may come next. -/
inductive Reader
  /-- A value is due. -/
  | value (stack : List Frame)
  /-- An array has just been opened. -/
  | firstItem (stack : List Frame)
  /-- An object has just been opened. -/
  | firstKey (stack : List Frame)
  /-- A key is due. -/
  | key (members : List (Key × Document)) (stack : List Frame)
  /-- The colon after a key is due. -/
  | colon (members : List (Key × Document)) (key : Key) (stack : List Frame)
  /-- A value is complete. -/
  | complete (document : Document) (stack : List Frame)

namespace Reader

/-- The first token of a value. -/
def open? (stack : List Frame) : Token → Option Reader
  | .null => some (.complete .null stack)
  | .bool b => some (.complete (.bool b) stack)
  | .numeral x => some (.complete (.numeral x) stack)
  | .string s => some (.complete (.string s) stack)
  | .openBracket => some (.firstItem stack)
  | .openBrace => some (.firstKey stack)
  | _ => none

/-- One more token. -/
def step : Reader → Token → Option Reader
  | .value stack, token => open? stack token
  | .firstItem stack, .closeBracket => some (.complete (.array []) stack)
  | .firstItem stack, token => open? (.array [] :: stack) token
  | .firstKey stack, .closeBrace => some (.complete (.object []) stack)
  | .firstKey stack, .string name => some (.colon [] name stack)
  | .key members stack, .string name => some (.colon members name stack)
  | .colon members name stack, .colon => some (.value (.object members name :: stack))
  | .complete d (.array items :: stack), .comma => some (.value (.array (d :: items) :: stack))
  | .complete d (.array items :: stack), .closeBracket =>
    some (.complete (.array (d :: items).reverse) stack)
  | .complete d (.object members name :: stack), .comma =>
    some (.key ((name, d) :: members) stack)
  | .complete d (.object members name :: stack), .closeBrace =>
    some (.complete (.object ((name, d) :: members).reverse) stack)
  | _, _ => none

/-- The document, if it is complete. -/
def finish? : Reader → Option Document
  | .complete d [] => some d
  | _ => none

end Reader

namespace Document

/-- The document that the tokens make up. -/
def ofTokens? (tokens : List Token) : Option Document := do
  (← tokens.foldlM Reader.step (.value [])).finish?

/-- The document of a text that may have ill-formed pieces. -/
def ofSymbols? (symbols : List Symbol) : Option Document := do ofTokens? (← tokens? symbols)

/-- The document of a text. -/
def ofString? (text : String) : Option Document := ofSymbols? (text.toList.map some)

/-- The text that a string denotes. -/
def string? : Document → Option String
  | .string s => s
  | _ => none

/-- The natural number of 64 bits that a numeral denotes. -/
def natural? : Document → Option Nat
  | .numeral x => x.natural?
  | _ => none

end Document

end Triage.Json
