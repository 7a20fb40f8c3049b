import Triage.Answering
import Triage.Event.File
import Triage.Labelling

namespace Triage

/-!
# Runs

* `RunError` — a run fails by its event or by a call to the tracker.
* `triage` — what is done with an issue, by the kind of event.
* `runPayload` — the run for an event that is known; `runEvent` — the run for one that is loaded first.
-/

variable {ε : Type}

/-- Why a run failed. -/
inductive RunError (ε : Type)
  | event (cause : EventError)
  | tracker (cause : ε)

/-- What is done with the issue, by the kind of event. -/
def triage (table : KeywordTable) : EventKind → TriageStep ε Disposition
  | .newIssue => do
    let issue ← TriageStep.known
    TriageStep.write (.issueOpened issue.number)
    labelOpened table
    answerNewIssue
  | .newPullRequest => do
    let issue ← TriageStep.known
    TriageStep.write (.pullRequestOpened issue.number)
    labelOpened table
    answerNewPullRequest
  | .unhandled action => do
    TriageStep.write (.eventUnhandled action)
    return .noAction

/-- The report on an issue that was `first` before triage and is `last` after it. Labels count as
added if they were not assigned before. -/
def Report.of (event : EventKind) (first last : Issue) (disposition : Disposition) : Report where
  event := event
  number := last.number
  isPullRequest := last.isPullRequest
  addedLabels := last.labels.filter (!first.labels.contains ·)
  disposition := disposition

/-- Triage of a fetched issue, with its report. -/
def runIssue (table : KeywordTable) (event : EventKind) (issue : Issue) :
    TrackerDialogue ε (Except (RunError ε) Report) :=
  .note (.runStarted issue.kindName issue.number issue.title) do
    match ← (triage table event).run issue with
    | (.error cause, _) => return .error (.tracker cause)
    | (.ok disposition, last) => return .ok (.of event issue last disposition)

/-- The run for an event that is known: its issue is fetched, then triaged. -/
def runPayload (table : KeywordTable) (payload : Payload) :
    TrackerDialogue ε (Except (RunError ε) Report) :=
  match payload.number with
  | .error cause => .done (.error (.event cause))
  | .ok number => .ask (.fetch number) fun
    | .error cause => .done (.error (.tracker cause))
    | .ok issue => runIssue table payload.kind issue

/-- The run for an event that is loaded first, from the file that the loader's path leads to. -/
def runEvent (table : KeywordTable) (loader : EventLoader) (file : FileState) :
    TrackerDialogue ε (Except (RunError ε) Report) := do
  match ← loader.load file with
  | (.error cause, _) => return .error (.event cause)
  | (.ok payload, _) => runPayload table payload

end Triage
