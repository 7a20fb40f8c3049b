import Triage.Http.Host.Name
import Triage.Http.Host.Number
import Triage.Text.Utf8

namespace Triage.Http

/-!
# Hosts

* `Host` — a server by its number or by its name.
* `Host.parse?` — reads a host; `Host.text` — writes it.
-/

/-- A server: by its number of 32 bits, by the eight pieces of its number of 128 bits, or by its name in
ASCII. -/
inductive Host
  | short (number : Nat)
  | long (pieces : List Nat)
  | named (name : List Char)
  deriving DecidableEq, Repr

namespace Host

/-- Reads a host outside brackets. Its characters may be written by their bytes. -/
def ofName? (text : List Char) : Option Host := do
  let decoded ← Text.strict? (Text.decodeUtf8 (percentDecode text))
  let name ← hostName? decoded.toList
  if name.isEmpty then none
  else if endsInNumber name then (shortNumber? name).map .short
  else some (.named name)

/-- Reads a host. -/
def parse? : List Char → Option Host
  | '[' :: inner =>
    if inner.getLast? = some ']' then (longNumber? inner.dropLast).map .long else none
  | text => ofName? text

/-- A host in writing. -/
def text : Host → List Char
  | .short number => shortText number
  | .long pieces => '[' :: longText pieces ++ [']']
  | .named name => name

end Host

end Triage.Http
