namespace Triage.Text

/-!
# Bytes of a text

A byte sequence is read as UTF-8 into a list of optional characters; `none` stands for one maximal
ill-formed piece, so that the strict and the lenient reading are two views of one result.

* `utf8` — the bytes of a text.
* `decodeUtf8` — well-formed characters and ill-formed pieces, in order.
* `strict?`, `lenient` — the text of such a list: if it is all well-formed, or with U+FFFD for each
  ill-formed piece.
-/

/-- The UTF-8 bytes of a text. -/
def utf8 (text : List Char) : List UInt8 := text.flatMap String.utf8EncodeChar

/-- How far a multi-byte character has been read. -/
inductive Utf8State
  /-- A character starts here. -/
  | start
  /-- `left` more bytes are due, the next one from `low` to `high`; `value` holds the bits so far. -/
  | within (value left low high : Nat)

/-- The first byte of a character. -/
def Utf8State.lead (b : Nat) : List (Option Char) × Utf8State :=
  if b < 0x80 then ([some (Char.ofNat b)], .start)
  else if b < 0xC2 then ([none], .start)
  else if b < 0xE0 then ([], .within (b - 0xC0) 1 0x80 0xBF)
  else if b < 0xF0 then
    ([], .within (b - 0xE0) 2 (if b = 0xE0 then 0xA0 else 0x80) (if b = 0xED then 0x9F else 0xBF))
  else if b < 0xF5 then
    ([], .within (b - 0xF0) 3 (if b = 0xF0 then 0x90 else 0x80) (if b = 0xF4 then 0x8F else 0xBF))
  else ([none], .start)

/-- One more byte. A byte that cannot continue a character ends an ill-formed piece and starts anew. -/
def Utf8State.step (state : Utf8State) (b : Nat) : List (Option Char) × Utf8State :=
  match state with
  | .start => lead b
  | .within value left low high =>
    if low ≤ b ∧ b ≤ high then
      let value := value * 64 + (b - 0x80)
      if left ≤ 1 then ([some (Char.ofNat value)], .start)
      else ([], .within value (left - 1) 0x80 0xBF)
    else (none :: (lead b).1, (lead b).2)

/-- Reads the bytes that come after the ones that led to `state`. -/
def decodeUtf8From (state : Utf8State) : List UInt8 → List (Option Char)
  | [] => match state with
    | .start => []
    | .within .. => [none]
  | b :: rest => (state.step b.toNat).1 ++ decodeUtf8From (state.step b.toNat).2 rest

/-- The characters of a byte sequence, with `none` for each maximal ill-formed piece. -/
def decodeUtf8 (bytes : List UInt8) : List (Option Char) := decodeUtf8From .start bytes

/-- The text, if no piece is ill-formed. -/
def strict? (symbols : List (Option Char)) : Option String :=
  (symbols.mapM id).map String.ofList

/-- The text with a replacement character for each ill-formed piece. -/
def lenient (symbols : List (Option Char)) : String :=
  String.ofList (symbols.map (·.getD '\uFFFD'))

end Triage.Text
