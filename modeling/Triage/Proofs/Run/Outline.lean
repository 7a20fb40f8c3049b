import Triage.Run
import Triage.Proofs.Labelling.Candidates

namespace Triage

/-!
# The outline of a run

Notes aside, a run is: fetch the issue, offer its candidates, and answer and close it if it reports
missing headers.

* `EventLoader.subject` — the event and the number that it is about, before anything is asked.
* `eventCandidates`, `isAnswered` — what the kind of event makes of an issue.
* `closingCalls`, `conclude` — the calls after labelling.
* `mute_triage`, `mute_runEvent` — triage and run are their outlines.
-/

variable {ε : Type}

/-! ### What the event says -/

/-- The event of a loader, from its file unless it is known. -/
def EventLoader.event (loader : EventLoader) (file : FileState) : Except EventError Payload :=
  match loader.kept with
  | some payload => .ok payload
  | none => Payload.read loader.path file

/-- The event of a loader and the number that it is about. -/
def EventLoader.subject (loader : EventLoader) (file : FileState) :
    Except EventError (Payload × Nat) := do
  let payload ← loader.event file
  let number ← payload.number
  return (payload, number)

/-- The candidates that an issue has on an event. -/
def eventCandidates (table : KeywordTable) (kind : EventKind) (issue : Issue) : List Candidate :=
  if kind.isHandled then candidates table issue.title issue.bodyText else []

/-- The issue is answered and closed on such an event. -/
def isAnswered (kind : EventKind) (issue : Issue) : Bool :=
  kind == .newIssue && (MissingHeaders.detect? issue.title issue.bodyText).isSome

/-- The calls that answer an issue and close it. -/
def closingCalls (number : Nat) : List TrackerCall :=
  [.comment number MissingHeaders.reply, .close number]

/-! ### Triage -/

/-- What is done with an issue after it was labelled. -/
def conclude (kind : EventKind) : TriageStep ε Disposition where
  run issue :=
    if isAnswered kind issue then
      .ask (.comment issue.number MissingHeaders.reply) fun
        | .error cause => .done (.error cause, issue)
        | .ok _ => .ask (.close issue.number) fun
          | .error cause => .done (.error cause, issue)
          | .ok _ => .done (.ok .closedMissingHeaders, issue)
    else .done (.ok .noAction, issue)

/-- The conclusion of triage, call by call. -/
theorem run_conclude (kind : EventKind) (issue : Issue) :
    (conclude kind : TriageStep ε Disposition).run issue =
      if isAnswered kind issue then
        .ask (.comment issue.number MissingHeaders.reply) fun
          | .error cause => .done (.error cause, issue)
          | .ok _ => .ask (.close issue.number) fun
            | .error cause => .done (.error cause, issue)
            | .ok _ => .done (.ok .closedMissingHeaders, issue)
      else .done (.ok .noAction, issue) := rfl

/-- Notes aside, answering an issue that was opened is the conclusion for it. -/
theorem mute_answerNewIssue : (answerNewIssue : TriageStep ε Disposition).mute = conclude .newIssue := by
  ext issue
  unfold answerNewIssue
  simp only [TriageStep.mute_bind, TriageStep.mute_known, TriageStep.mute_write, pure_bind,
    TriageStep.run_bind, TriageStep.run_known, Dialogue.done_bind, TriageStep.onward_ok]
  cases h : MissingHeaders.detect? issue.title issue.bodyText with
  | none => simp [conclude, isAnswered, h]
  | some signature =>
    simp only [conclude, isAnswered, h, beq_self_eq_true, Option.isSome_some, Bool.and_self, if_true,
      TriageStep.mute_bind, TriageStep.mute_write, pure_bind, TriageStep.mute_pure]
    -- each call is one question, and both sides go on with its reply
    show Dialogue.ask _ _ = Dialogue.ask _ _
    congr 1
    funext posted
    cases posted with
    | error cause => rfl
    | ok _ =>
      show Dialogue.ask _ _ = Dialogue.ask _ _
      congr 1
      funext closed
      cases closed <;> rfl

/-- Notes aside, answering a pull request that was opened is the conclusion for it. -/
theorem mute_answerNewPullRequest :
    (answerNewPullRequest : TriageStep ε Disposition).mute = conclude .newPullRequest := rfl

/-- **Triage in outline**: its candidates are offered, then it is concluded. -/
theorem mute_triage (table : KeywordTable) (kind : EventKind) (issue : Issue) :
    ((triage table kind : TriageStep ε Disposition).run issue).mute
      = offer (eventCandidates table kind issue) issue
        >>= TriageStep.onward fun _ => conclude kind := by
  cases kind with
  | newIssue =>
    -- It is labelled and then answered, and the notes in between go.
    have h : (triage table .newIssue : TriageStep ε Disposition).mute
        = (labelOpened table).mute >>= fun _ => conclude .newIssue := by
      rw [← mute_answerNewIssue]
      simp only [triage, TriageStep.mute_bind, TriageStep.mute_known, TriageStep.mute_write,
        pure_bind]
      rfl
    rw [← TriageStep.run_mute, h, TriageStep.run_bind, TriageStep.run_mute, mute_labelOpened]
    rfl
  | newPullRequest =>
    -- The same, only that nothing is answered.
    have h : (triage table .newPullRequest : TriageStep ε Disposition).mute
        = (labelOpened table).mute >>= fun _ => conclude .newPullRequest := by
      rw [← mute_answerNewPullRequest]
      simp only [triage, TriageStep.mute_bind, TriageStep.mute_known, TriageStep.mute_write,
        pure_bind]
      rfl
    rw [← TriageStep.run_mute, h, TriageStep.run_bind, TriageStep.run_mute, mute_labelOpened]
    rfl
  | unhandled action => rfl

/-! ### The run -/

/-- The result of a run by that of its triage. -/
def resultOf (event : EventKind) (first : Issue) :
    Except ε Disposition × Issue → Except (RunError ε) Report
  | (.error cause, _) => .error (.tracker cause)
  | (.ok disposition, last) => .ok (.of event first last disposition)

/-- What is done with a fetched issue, in outline. -/
def handleFetched (table : KeywordTable) (kind : EventKind) (issue : Issue) :
    TrackerDialogue ε (Except (RunError ε) Report) := do
  let labelled ← offer (eventCandidates table kind issue) issue
  let concluded ← TriageStep.onward (fun _ => conclude kind) labelled
  return resultOf kind issue concluded

/-- The outline of a run. -/
def outline (table : KeywordTable) :
    Except EventError (Payload × Nat) → TrackerDialogue ε (Except (RunError ε) Report)
  | .error cause => .done (.error (.event cause))
  | .ok (payload, number) => .ask (.fetch number) fun
    | .error cause => .done (.error (.tracker cause))
    | .ok issue => handleFetched table payload.kind issue

section HandleFetched

variable {σ : Type} (answerer : Answerer TrackerCall (TrackerReply ε) σ) (table : KeywordTable)
  (kind : EventKind) (issue : Issue) (state : σ)

/-- Where a call for a label fails, nothing else is done. -/
theorem run_handleFetched_of_error {cause : ε} {last : Issue}
    {offered : Outcome Note TrackerCall (TrackerReply ε) σ (Except ε Unit × Issue)}
    (hoffered : (offer (eventCandidates table kind issue) issue).run answerer state = offered)
    (h : offered.value = (.error cause, last)) :
    ((handleFetched table kind issue).run answerer state).value = .error (.tracker cause) ∧
      ((handleFetched table kind issue).run answerer state).state = offered.state ∧
      ((handleFetched table kind issue).run answerer state).exchanges = offered.exchanges := by
  unfold handleFetched
  rw [Dialogue.value_run_bind, Dialogue.state_run_bind, Dialogue.exchanges_run_bind, hoffered, h]
  exact ⟨rfl, rfl, List.append_nil _⟩

/-- Where all labels were added, the issue is concluded as it is known then. -/
theorem run_handleFetched_of_ok {last : Issue}
    {offered : Outcome Note TrackerCall (TrackerReply ε) σ (Except ε Unit × Issue)}
    {concluded : Outcome Note TrackerCall (TrackerReply ε) σ (Except ε Disposition × Issue)}
    (hoffered : (offer (eventCandidates table kind issue) issue).run answerer state = offered)
    (h : offered.value = (.ok (), last))
    (hconcluded : ((conclude kind).run last).run answerer offered.state = concluded) :
    ((handleFetched table kind issue).run answerer state).value
        = resultOf kind issue concluded.value ∧
      ((handleFetched table kind issue).run answerer state).state = concluded.state ∧
      ((handleFetched table kind issue).run answerer state).exchanges
        = offered.exchanges ++ concluded.exchanges := by
  unfold handleFetched
  rw [Dialogue.value_run_bind, Dialogue.state_run_bind, Dialogue.exchanges_run_bind, hoffered, h,
    TriageStep.onward_ok, Dialogue.value_run_bind, Dialogue.state_run_bind,
    Dialogue.exchanges_run_bind, hconcluded]
  exact ⟨rfl, rfl, by rw [Dialogue.pure_def, Dialogue.exchanges_run_done, List.append_nil]⟩

end HandleFetched

/-- Notes aside, an issue that was fetched is handled in outline. -/
theorem mute_runIssue (table : KeywordTable) (kind : EventKind) (issue : Issue) :
    (runIssue table kind issue : TrackerDialogue ε (Except (RunError ε) Report)).mute
      = handleFetched table kind issue := by
  unfold runIssue handleFetched
  rw [Dialogue.mute_note, Dialogue.mute_bind, mute_triage, bind_assoc]
  congr 1
  funext labelled
  congr 1
  funext concluded
  -- What the report is made of notes nothing.
  match concluded with
  | (.error _, _) => rfl
  | (.ok _, _) => rfl

/-- Notes aside, the run for a payload is the outline for it and its number. -/
theorem mute_runPayload (table : KeywordTable) (payload : Payload) :
    (runPayload table payload : TrackerDialogue ε (Except (RunError ε) Report)).mute
      = outline table (do return (payload, ← payload.number)) := by
  unfold runPayload
  cases payload.number with
  | error cause => rfl
  | ok number =>
    show Dialogue.ask _ _ = Dialogue.ask _ _
    congr 1
    funext fetched
    cases fetched with
    | error cause => rfl
    | ok issue => exact mute_runIssue table payload.kind issue

/-- **The run in outline**: notes aside, a run is its outline for what the event says. -/
theorem mute_runEvent (table : KeywordTable) (loader : EventLoader) (file : FileState) :
    (runEvent table loader file : TrackerDialogue ε (Except (RunError ε) Report)).mute
      = outline table (loader.subject file) := by
  unfold runEvent EventLoader.subject EventLoader.event EventLoader.load
  -- The event is known already, or comes from the file.
  cases loader.kept with
  | some payload => exact mute_runPayload table payload
  | none =>
    cases Payload.read loader.path file with
    | error cause => rfl
    | ok payload => exact mute_runPayload table payload

end Triage
