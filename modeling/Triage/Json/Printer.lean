import Triage.Json.Value

namespace Triage.Json

/-!
# Compact writing

* `quote` — a string literal: the short escapes, four hexadecimal digits for the other control
  characters, all else as it is.
* `Value.render` — a value without any white space, members in the order in which they are listed.
-/

/-- The digit of a number below sixteen. -/
def hexDigit (n : Nat) : Char := Nat.digitChar n

/-- How a character is written inside a string literal. -/
def escape (c : Char) : List Char :=
  if c = '"' then ['\\', '"']
  else if c = '\\' then ['\\', '\\']
  else if c = '\u0008' then ['\\', 'b']
  else if c = '\u000c' then ['\\', 'f']
  else if c = '\n' then ['\\', 'n']
  else if c = '\r' then ['\\', 'r']
  else if c = '\t' then ['\\', 't']
  else if c.toNat < 0x20 then
    ['\\', 'u', '0', '0', hexDigit (c.toNat / 16), hexDigit (c.toNat % 16)]
  else [c]

/-- A string literal. -/
def quote (text : List Char) : List Char := '"' :: text.flatMap escape ++ ['"']

namespace Value

mutual

/-- The compact writing of a value. -/
def render : Value → List Char
  | .null => ['n', 'u', 'l', 'l']
  | .bool true => ['t', 'r', 'u', 'e']
  | .bool false => ['f', 'a', 'l', 's', 'e']
  | .number x => x.text
  | .string s => quote s.toList
  | .array items => '[' :: renderItems items ++ [']']
  | .object members => '{' :: renderMembers members ++ ['}']

/-- Items with a comma between two of them. -/
def renderItems : List Value → List Char
  | [] => []
  | [v] => render v
  | v :: w :: rest => render v ++ ',' :: renderItems (w :: rest)

/-- Members with a comma between two of them. -/
def renderMembers : List (String × Value) → List Char
  | [] => []
  | [(key, v)] => quote key.toList ++ ':' :: render v
  | (key, v) :: next :: rest =>
    quote key.toList ++ ':' :: render v ++ ',' :: renderMembers (next :: rest)

end

/-- The compact text of a value. -/
def text (value : Value) : String := String.ofList value.render

end Value

end Triage.Json
