import Triage.GitHub.Retry
import Triage.Text.Excerpt
import Triage.Text.Utf8
import Triage.Tracker

namespace Triage.GitHub

/-!
# Calls of the web interface

* `CallError` — why a call failed.
* `settle` — what a final answer amounts to.
* `attempts`, `exchange` — sends a request until what comes of it is final.
-/

/-- The name of an operation in notes and errors. -/
abbrev Operation := String

/-- Why a call failed. -/
inductive CallError
  | status (operation : Operation) (status : Nat) (body : String)
  | undecodable (operation : Operation)
  | transport (operation : Operation)
  | notClosed (number : Nat) (state : String)
  deriving DecidableEq, Repr

/-- How much of an answer an error shows, in characters. -/
def shownLength : Nat := 800

/-- The wording of each cause. -/
def CallError.message : CallError → String
  | .status operation code body =>
    "github api " ++ operation ++ " failed with status " ++ toString code ++ ": "
      ++ Text.excerpt shownLength body
  | .undecodable operation => "failed to decode github " ++ operation
  | .transport operation => "github api " ++ operation ++ " request failed"
  | .notClosed number state =>
    "github api close issue returned state '" ++ state ++ "' for #" ++ toString number

/-- The body of an answer that reports success, else why the call failed. -/
def settle (operation : Operation) : Http.Delivery → Except CallError (List UInt8)
  | .answered status _ body =>
    if Http.isSuccess status then .ok body
    else .error (.status operation status (Text.lenient (Text.decodeUtf8 body)))
  | _ => .error (.transport operation)

/-- A delivery that may be followed by a better one: a passing status, no connection, or no answer in
time. A connection that breaks off is final. -/
def isTransient : Http.Delivery → Bool
  | .answered status _ _ => isPassing status
  | .refused | .timedOut => true
  | .dropped => false

/-- The wait that a delivery asks for. -/
def wish? : Http.Delivery → Option Nat
  | .answered _ headers _ => retryAfter? headers
  | _ => none

/-- What is written down before a delivery is followed by another attempt. -/
def retryNote (operation : Operation) (attempt delay : Nat) : Http.Delivery → Note
  | .answered status _ _ => .statusRetried operation status attempt delay
  | _ => .transportRetried operation attempt

/-- The request of an attempt, which tells how many came before it. -/
def numbered (request : Http.Request) (earlier : Nat) : Http.Request :=
  { request with headers := ("x-issuebot-retry-attempt", toString earlier) :: request.headers }

/-- How a request is sent: at most so often, and so long is waited for each answer. -/
structure Manner where
  policy : RetryPolicy
  timeout : Nat

/-- The sending of an attempt that `earlier` ones came before. -/
def Manner.sending (manner : Manner) (request : Http.Request) (earlier wait : Nat) : Http.Sending :=
  ⟨wait, manner.timeout, numbered request earlier⟩

/-- Sends the request after a wait, and again while what comes of it is transient and attempts are
spare. `earlier` attempts came before this one. -/
def attempts (manner : Manner) (operation : Operation) (request : Http.Request) :
    (spare earlier wait : Nat) → Http.Conversation (Except CallError (List UInt8))
  | 0, earlier, wait =>
    .ask (manner.sending request earlier wait) fun delivery => .done (settle operation delivery)
  | spare + 1, earlier, wait =>
    .ask (manner.sending request earlier wait) fun delivery =>
      if isTransient delivery then
        let delay := manner.policy.delay (earlier + 1) (wish? delivery)
        .note (retryNote operation (earlier + 1) delay delivery)
          (attempts manner operation request spare (earlier + 1) delay)
      else .done (settle operation delivery)

/-- Sends the request as often as the policy allows. -/
def exchange (manner : Manner) (operation : Operation) (request : Http.Request) :
    Http.Conversation (Except CallError (List UInt8)) :=
  attempts manner operation request (manner.policy.attempts - 1) 0 0

end Triage.GitHub
