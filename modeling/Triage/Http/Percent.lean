namespace Triage.Http

/-!
# Characters by their bytes

* `percentEncode`, `percentDecode` — characters that may not stand in an address, in writing and back.
* `isReservedInPath`, `isReservedInQuery`, `isReservedInFragment` — such characters.
-/

/-- The hexadecimal digit of a number below sixteen. -/
def percentDigit (n : Nat) : Char := (Nat.digitChar n).toUpper

/-- A byte in writing. -/
def percentByte (b : UInt8) : List Char :=
  ['%', percentDigit (b.toNat / 16), percentDigit (b.toNat % 16)]

/-- Writes the characters that `isReserved` picks by their bytes. -/
def percentEncode (isReserved : Char → Bool) (text : List Char) : List Char :=
  text.flatMap fun c =>
    if isReserved c then (String.utf8EncodeChar c).flatMap percentByte else [c]

/-- The value of a hexadecimal digit. -/
def percentValue? (c : Char) : Option Nat :=
  if c.isDigit then some (c.toNat - '0'.toNat)
  else if 'a' ≤ c ∧ c ≤ 'f' then some (c.toNat - 'a'.toNat + 10)
  else if 'A' ≤ c ∧ c ≤ 'F' then some (c.toNat - 'A'.toNat + 10)
  else none

/-- The bytes of a text in which some bytes are written by number. -/
def percentDecode : List Char → List UInt8
  | '%' :: high :: low :: rest =>
    match percentValue? high, percentValue? low with
    | some h, some l => UInt8.ofNat (h * 16 + l) :: percentDecode rest
    | _, _ => String.utf8EncodeChar '%' ++ percentDecode (high :: low :: rest)
  | c :: rest => String.utf8EncodeChar c ++ percentDecode rest
  | [] => []

/-- Control characters, and all above ASCII, never stand in an address. -/
def isAlwaysReserved (c : Char) : Bool := c.toNat < 0x20 || 0x7F ≤ c.toNat

/-- The characters that do not stand in a path. -/
def isReservedInPath (c : Char) : Bool :=
  isAlwaysReserved c || [' ', '"', '#', '<', '>', '?', '\u0060', '{', '}'].contains c

/-- The characters that do not stand in a fragment. -/
def isReservedInFragment (c : Char) : Bool :=
  isAlwaysReserved c || [' ', '"', '<', '>', '\u0060'].contains c

/-- The characters that do not stand in a query. -/
def isReservedInQuery (c : Char) : Bool :=
  isAlwaysReserved c || [' ', '"', '#', '<', '>', '\''].contains c

end Triage.Http
