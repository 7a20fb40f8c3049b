import Triage.Json.Document

namespace Triage.Json

/-!
# Values

* `Value` — what a document means. The members of an object are in the order of their keys, each key
  once.
* `Value.insert` — sets a member, in its place.
* `Document.value?` — the meaning of a document: of a repeated key the last member counts; there is
  none if a string denotes no text, a numeral is too large, or arrays and objects nest too deep.
* `Value.get?`, `Value.string?`, `Value.natural?` — what a value holds.
-/

/-- What a document means. -/
inductive Value
  | null
  | bool (value : Bool)
  | number (value : Number)
  | string (value : String)
  | array (items : List Value)
  | object (members : List (String × Value))

namespace Value

/-- Sets the member of a key in a list that is ordered by key. -/
def insert (key : String) (value : Value) : List (String × Value) → List (String × Value)
  | [] => [(key, value)]
  | (k, v) :: rest =>
    if key = k then (key, value) :: rest
    else if key < k then (key, value) :: (k, v) :: rest
    else (k, v) :: insert key value rest

/-- The member of a key; only objects have members. -/
def get? (key : String) : Value → Option Value
  | .object members => members.lookup key
  | _ => none

/-- The text of a string. -/
def string? : Value → Option String
  | .string s => some s
  | _ => none

/-- A natural number of 64 bits that is written without point and exponent. -/
def natural? : Value → Option Nat
  | .number (.natural n) => some n
  | _ => none

/-- The value of a natural number. -/
def ofNat (n : Nat) : Value := .number (.natural n)

/-- The value is null. -/
def isNull : Value → Bool
  | .null => true
  | _ => false

end Value

namespace Document

mutual

/-- What a document means, if arrays and objects nest at most `room` deep. -/
def value? (room : Nat) : Document → Option Value
  | .null => some .null
  | .bool b => some (.bool b)
  | .numeral x => x.number?.map .number
  | .string s => s.map .string
  | .array items => if room = 0 then none else (items? (room - 1) items).map .array
  | .object members => if room = 0 then none else (members? (room - 1) [] members).map .object

/-- What the items of an array mean. -/
def items? (room : Nat) : List Document → Option (List Value)
  | [] => some []
  | d :: rest => do
    let v ← value? room d
    let vs ← items? room rest
    some (v :: vs)

/-- What the members of an object mean, after the members `sofar`. -/
def members? (room : Nat) (sofar : List (String × Value)) :
    List (Key × Document) → Option (List (String × Value))
  | [] => some sofar
  | (key, d) :: rest => do
    let k ← key
    let v ← value? room d
    members? room (Value.insert k v sofar) rest

end

end Document

/-- How deep arrays and objects may nest. -/
def maxDepth : Nat := 127

/-- What a text means. -/
def Value.ofString? (text : String) : Option Value := do
  (← Document.ofString? text).value? maxDepth

end Triage.Json
