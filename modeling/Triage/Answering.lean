import Triage.MissingHeaders
import Triage.Tracker

namespace Triage

/-!
# Answering

* `answerNewIssue` — a report of missing headers is answered and closed.
* `answerNewPullRequest` — a pull request is left as it is.
-/

variable {ε : Type}

/-- Answers and closes an issue that reports missing headers. -/
def answerNewIssue : TriageStep ε Disposition := do
  let issue ← TriageStep.known
  TriageStep.write .headersSearch
  match MissingHeaders.detect? issue.title issue.bodyText with
  | none => return .noAction
  | some signature =>
    TriageStep.write (.headersMissing signature)
    TriageStep.call (.comment issue.number MissingHeaders.reply)
    TriageStep.call (.close issue.number)
    return .closedMissingHeaders

/-- Leaves a pull request as it is. -/
def answerNewPullRequest : TriageStep ε Disposition := do
  let issue ← TriageStep.known
  TriageStep.write (.pullRequestLeft issue.number)
  return .noAction

end Triage
