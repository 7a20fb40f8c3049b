import Triage.Dialogue
import Triage.Http.Header
import Triage.Http.Url
import Triage.Note

namespace Triage.Http

/-!
# Requests and answers

* `Request` — what is sent; `Delivery` — what comes of it.
* `Sending` — a request, how long to wait before it is sent, and how long for an answer.
* `Conversation` — a program that sends requests.
-/

/-- A request. Header names are in lower case. -/
structure Request where
  method : String
  url : Url
  headers : List (String × String)
  body : String
  deriving DecidableEq, Repr

/-- What comes of a request: an answer, or one of three ways to have none. An answer that sends the
client elsewhere is none of these: the sender follows it, and what comes of the request is the answer
found there. -/
inductive Delivery
  | answered (status : Nat) (headers : List Header) (body : List UInt8)
  | refused
  | timedOut
  | dropped
  deriving DecidableEq, Repr

/-- A request, the time to wait before it is sent, and the time to wait for an answer, in
milliseconds. -/
structure Sending where
  delay : Nat
  timeout : Nat
  request : Request
  deriving DecidableEq, Repr

/-- A program that sends requests. -/
abbrev Conversation := Triage.Dialogue Note Sending fun _ => Delivery

/-- The request was carried out. -/
def isSuccess (status : Nat) : Bool := 200 ≤ status && status < 300

end Triage.Http
