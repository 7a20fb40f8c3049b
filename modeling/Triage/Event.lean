import Triage.Json.Value

namespace Triage

/-!
# Events

* `EventKind` — what the event calls for; only newly opened issues and pull requests are handled.
* `Payload` — the document that describes an event.
* `Payload.number?` — the number of the issue or pull request that it is about.
-/

/-- What an event calls for. -/
inductive EventKind
  | newIssue
  | newPullRequest
  | unhandled (action : Option String)
  deriving DecidableEq, Repr

namespace EventKind

/-- Something was opened: an issue if the event carries one, else a pull request if it carries one. -/
def ofParts (action : Option String) (hasIssue hasPullRequest : Bool) : EventKind :=
  if action = some "opened" ∧ hasIssue then .newIssue
  else if action = some "opened" ∧ hasPullRequest then .newPullRequest
  else .unhandled action

/-- The name in reports. -/
def name : EventKind → String
  | .newIssue => "new_issue"
  | .newPullRequest => "new_pull_request"
  | .unhandled _ => "unhandled"

/-- The event calls for triage. -/
def isHandled : EventKind → Bool
  | .unhandled _ => false
  | _ => true

end EventKind

/-- The document that describes an event. -/
structure Payload where
  raw : Json.Value

namespace Payload

/-- What was done, if that is stated by a string. -/
def action? (payload : Payload) : Option String := (payload.raw.get? "action").bind (·.string?)

/-- What the event calls for. A member counts as carried whatever its value is, null included. -/
def kind (payload : Payload) : EventKind :=
  .ofParts payload.action? (payload.raw.get? "issue").isSome
    (payload.raw.get? "pull_request").isSome

/-- The number inside a member. -/
def numberIn? (payload : Payload) (member : String) : Option Nat := do
  (← (← payload.raw.get? member).get? "number").natural?

/-- The number of the issue, failing that the number of the pull request. -/
def number? (payload : Payload) : Option Nat :=
  (payload.numberIn? "issue").or (payload.numberIn? "pull_request")

end Payload

end Triage
