import Triage.Event
import Triage.Label

namespace Triage

/-!
# Reports

* `Disposition` — what was done with the issue after it was labelled.
* `Report` — the summary of a completed run.
-/

/-- What was done with the issue after it was labelled. -/
inductive Disposition
  | noAction
  | closedMissingHeaders
  deriving DecidableEq, Repr

/-- The name in reports. -/
def Disposition.name : Disposition → String
  | .noAction => "NoAction"
  | .closedMissingHeaders => "ClosedMissingHeaders"

/-- The summary of a completed run. -/
structure Report where
  event : EventKind
  number : Nat
  isPullRequest : Bool
  addedLabels : List Label
  disposition : Disposition
  deriving DecidableEq, Repr

end Triage
