import Triage.Tracker

namespace Triage

/-!
# A tracker in memory

* `MemoryTracker` — one issue, with calls that are set to fail and label answers that are set.
* `MemoryTracker.answer` — the answer to each call, and the tracker after it.
-/

/-- A kind of call that can be set to fail. -/
inductive Fault
  | fetch
  | label (label : Label)
  | comment
  | close
  deriving DecidableEq, Repr

/-- The wording of a fault. -/
def Fault.name : Fault → String
  | .fetch => "fetch"
  | .label l => "label:" ++ l
  | .comment => "comment"
  | .close => "close"

/-- The fault that makes a call fail. -/
def TrackerCall.fault : TrackerCall → Fault
  | .fetch _ => .fetch
  | .addLabel _ label => .label label
  | .comment .. => .comment
  | .close _ => .close

/-- Why a call to a tracker in memory failed. -/
inductive MemoryError
  | refused (fault : Fault)
  | noIssue (number : Nat)
  deriving DecidableEq, Repr

/-- The wording of each cause. -/
def MemoryError.message : MemoryError → String
  | .refused f => "tracker failed on " ++ f.name
  | .noIssue number => "no issue " ++ toString number

/-- One issue, the calls that fail, and the labels that the issue is set to have once a label is
added. -/
structure MemoryTracker where
  issue : Issue
  faults : List Fault
  replies : List (Label × List Label)

namespace MemoryTracker

/-- The labels of the issue once a label is added. -/
def labelsAfter (tracker : MemoryTracker) (label : Label) : List Label :=
  match tracker.replies.lookup label with
  | some labels => labels
  | none =>
    if tracker.issue.hasLabel label then tracker.issue.labels else tracker.issue.labels ++ [label]

/-- The tracker with other labels on its issue. -/
def withLabels (tracker : MemoryTracker) (labels : List Label) : MemoryTracker :=
  { tracker with issue := { tracker.issue with labels := labels } }

/-- The answer to a call that is not set to fail. -/
def comply : (call : TrackerCall) → MemoryTracker → TrackerReply MemoryError call × MemoryTracker
  | .fetch number, tracker =>
    (if number = tracker.issue.number then .ok tracker.issue else .error (.noIssue number), tracker)
  | .addLabel _ label, tracker =>
    (.ok (tracker.labelsAfter label), tracker.withLabels (tracker.labelsAfter label))
  | .comment .., tracker => (.ok (), tracker)
  | .close _, tracker =>
    (.ok (), { tracker with issue := { tracker.issue with state := "closed" } })

/-- The answer to a call. A call that fails changes nothing. -/
def answer : Answerer TrackerCall (TrackerReply MemoryError) MemoryTracker := fun call tracker =>
  if call.fault ∈ tracker.faults then (.error (.refused call.fault), tracker) else comply call tracker

end MemoryTracker

end Triage
