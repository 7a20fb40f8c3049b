import Triage.Answering
import Triage.Labelling
import Triage.Tracker.Memory

namespace Triage

/-!
# Sessions

Triage steps taken one by one, on an issue and a tracker in memory.

* `SessionStep`, `SessionAnswer` — a step and what it answers.
* `Session.step` — takes a step. A step that fails does not end the session.
-/

/-- A step of a session. -/
inductive SessionStep
  | addLabel (label : Label)
  | text (text : String)
  | body (body : String)
  | newIssue
  | newPullRequest
  | hasLabel (label : Label)
  | setText (title : Option String) (body : Option (Option String))
  | remoteLabels (labels : List Label)
  | fetch (number : Nat)

/-- What a step answers. -/
inductive SessionAnswer
  | outcome (outcome : LabelOutcome)
  | outcomes (outcomes : List LabelOutcome)
  | disposition (disposition : Disposition)
  | flag (value : Bool)
  | nothing

/-- The issue as it is known, and the tracker. -/
structure Session where
  issue : Issue
  tracker : MemoryTracker

/-- What came of a step: its answer or failure, the session after it, and what was said. -/
abbrev SessionResult :=
  Outcome Note TrackerCall (TrackerReply MemoryError) Session (Except MemoryError SessionAnswer)

namespace SessionStep

/-- The step as triage of the known issue. Labels are set at the tracker by `Session.step` itself. -/
def act (table : KeywordTable) : SessionStep → TriageStep MemoryError SessionAnswer
  | .addLabel label => return .outcome (← Triage.addLabel label)
  | .text t => return .outcomes (← addLabelsFromText table t)
  | .body b => do
    addLabelsFromBody table b
    return .nothing
  | .newIssue => return .disposition (← answerNewIssue)
  | .newPullRequest => return .disposition (← answerNewPullRequest)
  | .hasLabel label => return .flag ((← TriageStep.known).hasLabel label)
  | .setText newTitle newBody => do
    let issue ← TriageStep.known
    TriageStep.learn
      { issue with title := newTitle.getD issue.title, body := newBody.getD issue.body }
    return .nothing
  | .remoteLabels _ => return .nothing
  | .fetch number => do
    TriageStep.learn (← TriageStep.call (.fetch number))
    return .nothing

end SessionStep

namespace Session

/-- The tracker as a step finds it. -/
def trackerFor (session : Session) : SessionStep → MemoryTracker
  | .remoteLabels labels => session.tracker.withLabels labels
  | _ => session.tracker

/-- Takes a step. -/
def step (table : KeywordTable) (session : Session) (step : SessionStep) : SessionResult :=
  let outcome :=
    ((step.act table).run session.issue).run MemoryTracker.answer (session.trackerFor step)
  { value := outcome.value.1
    state := ⟨outcome.value.2, outcome.state⟩
    said := outcome.said }

end Session

end Triage
