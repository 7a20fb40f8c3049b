import Triage.Text.Search
import Triage.Text.Utf8

namespace Triage.Http

/-!
# Headers

* `Header` — a name and the bytes of a value; the case of the name does not matter.
* `valuesOf` — the values under a name.
* `headerText?` — a value as text.
* `Header.lines`, `Header.ofLine?` — headers as they are sent, and back.
-/

/-- A name, and the bytes of a value. -/
abbrev Header := String × List UInt8

/-- The values under a name, which is in lower case, in their order. -/
def valuesOf (name : String) (headers : List Header) : List (List UInt8) :=
  (headers.filter fun header => header.1.map Char.toLower == name).map (·.2)

/-- The text of a value, if it is printable ASCII and tabs. -/
def headerText? (bytes : List UInt8) : Option (List Char) :=
  if bytes.all fun b => b == 9 || (0x20 ≤ b && b < 0x7F) then
    some (bytes.map fun b => Char.ofNat b.toNat)
  else none

/-- The character may stand in a value: no control character but the tab. -/
def isHeaderChar (c : Char) : Bool := c == '\t' || (0x20 ≤ c.toNat && c.toNat != 0x7F)

/-- The character may stand in a name: letters, digits and some marks. -/
def isNameChar (c : Char) : Bool :=
  c.isAlphanum || "!#$%&'*+-.^_\u0060|~".toList.contains c

/-! ### Lines -/

/-- The lines without the carriage returns at their ends. Nothing is taken from the last one, as no
line feed follows it. -/
def withoutReturns : List (List UInt8) → List (List UInt8)
  | [] => []
  | [last] => [last]
  | line :: rest =>
    (if line.getLast? = some '\r'.toUInt8 then line.dropLast else line) :: withoutReturns rest

/-- The lines of a header as it is sent: one, unless there are line feeds in it. -/
def Header.lines (header : Header) : List (List UInt8) :=
  withoutReturns <|
    Text.splitBy (· == '\n'.toUInt8) (Text.utf8 (header.1.toList ++ [':', ' ']) ++ header.2)

/-- A value without the spaces and tabs around it. -/
def trimValue (value : List UInt8) : List UInt8 :=
  let isPad (b : UInt8) : Bool := b == ' '.toUInt8 || b == '\t'.toUInt8
  ((value.dropWhile isPad).reverse.dropWhile isPad).reverse

/-- The header in a line, which is well-formed. -/
def Header.ofLine? (line : List UInt8) : Option Header := do
  let (name, value) ← Text.cutAt ':'.toUInt8 line
  let name := name.map fun b => Char.ofNat b.toNat
  if !name.isEmpty && name.all isNameChar && value.all fun b => isHeaderChar (Char.ofNat b.toNat) then
    some (String.ofList name, trimValue value)
  else none

end Triage.Http
