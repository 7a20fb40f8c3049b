import Triage.Http.Chunked
import Triage.Http.Message
import Triage.Text.Blank
import Triage.Text.Decimal

namespace Triage.Http

/-!
# Arrival

What is left of an answer once it has come over a connection. Next to the headers given, it states
the length of its body.

* `isChunked`, `agreesOnLength` — what headers say of the body.
* `arrivedHeaders?`, `arrivedBody?` — the headers and the body that a receiver takes from the answer.
* `Delivery.arrived` — the answer as received; one that cannot be understood breaks off.
-/

/-- The receiver takes the answer for the one to its request: three digits, and no mere information
but the change to another protocol. -/
def isFinal (status : Nat) : Bool := status == 101 || (200 ≤ status && status < 1000)

/-- The receiver expects no body. -/
def isBodiless (status : Nat) : Bool := status == 101 || status == 204 || status == 304

/-- The last coding that is stated, in the last such header, is the one in chunks. -/
def isChunked (headers : List Header) : Bool :=
  match ((valuesOf "transfer-encoding" headers).getLast?).bind headerText? with
  | none => false
  | some text =>
    match (Text.splitBy (· == ',') text).getLast? with
    | none => false
    | some coding => String.ofList ((Text.trim coding).map Char.toLower) == "chunked"

/-- A length in decimal digits. -/
def length? (text : List Char) : Option Nat :=
  if text.head? = some '+' then none else (Text.readWord text).toOption

/-- A header that states this length, maybe more than once. -/
def statesLength (length : Nat) (value : List UInt8) : Bool :=
  match headerText? value with
  | none => false
  | some text => (Text.splitBy (· == ',') text).all fun part => length? (Text.trim part) == some length

/-- Every length that is stated is this one. -/
def agreesOnLength (length : Nat) (headers : List Header) : Bool :=
  (valuesOf "content-length" headers).all (statesLength length)

/-- The body that the receiver takes from an answer. Chunks that break off leave nothing; a coding of
another kind leaves the body alone. There is no answer where lengths disagree. -/
def arrivedBody? (status : Nat) (headers : List Header) (body : List UInt8) : Option (List UInt8) :=
  if isBodiless status then some []
  else if !(valuesOf "transfer-encoding" headers).isEmpty then
    some (if isChunked headers then (dechunk? body).getD [] else body)
  else if agreesOnLength body.length headers then some body
  else none

/-- How many headers a receiver takes, the length of the body among them. -/
def maxHeaders : Nat := 100

/-- The headers as received, if all are well-formed and there are not too many. -/
def arrivedHeaders? (headers : List Header) : Option (List Header) :=
  ((headers.flatMap (·.lines)).mapM Header.ofLine?).filter (·.length < maxHeaders)

/-- The answer as received, if it can be understood. Its head is taken to fit into the memory that the
receiver has for it. -/
def arrivedAnswer? (status : Nat) (headers : List Header) (body : List UInt8) : Option Delivery := do
  let headers ← arrivedHeaders? headers
  let body ← arrivedBody? status headers body
  if isFinal status then some (.answered status headers body) else none

/-- What comes of a request whose answer comes over a connection. -/
def Delivery.arrived : Delivery → Delivery
  | .answered status headers body => (arrivedAnswer? status headers body).getD .dropped
  | other => other

end Triage.Http
