import Triage.Proofs.Labelling.Steps
import Triage.Proofs.Run.Outline
import Triage.Session

namespace Triage

/-!
# The label policy in sequences of operations and in runs

* `Operation`, `operate` — the operations on one issue, and a sequence of them.
* `Operation.settles` — each operation decides on its candidates by the policy.
* `settled_opened`, `settled_triage`, `isSound_of_mem_runEvent` — so do triage and the run of an event.
* `policy_kept` — the policy holds at every call, whatever the tracker answers and however often it
  fails.
-/

variable {ε σ : Type}

/-- An operation on an issue. -/
inductive Operation
  | addLabel (label : Label)
  | text (text : String)
  | body (body : String)
  | newIssue
  | newPullRequest
  deriving DecidableEq, Repr

/-- The outcomes that an answer tells. The answer to a body keeps them to itself. -/
def SessionAnswer.Tells : SessionAnswer → List LabelOutcome → Prop
  | .outcome told, reported => reported = [told]
  | .outcomes told, reported => reported = told
  | .nothing, _ => True
  | _, reported => reported = []

namespace Operation

/-- The operation as a step of triage. -/
def act (table : KeywordTable) : Operation → TriageStep ε SessionAnswer
  | .addLabel label => return .outcome (← Triage.addLabel label)
  | .text t => return .outcomes (← addLabelsFromText table t)
  | .body b => do
    addLabelsFromBody table b
    return .nothing
  | .newIssue => return .disposition (← answerNewIssue)
  | .newPullRequest => return .disposition (← answerNewPullRequest)

/-- The labels that the operation puts up. -/
def candidates (table : KeywordTable) : Operation → List Candidate
  | .addLabel label => [.plain label]
  | .text t => textCandidates table t
  | .body b => bodyCandidates table b
  | .newIssue => []
  | .newPullRequest => []

/-- **Each operation keeps to the policy** on the labels that it puts up. -/
theorem settles (table : KeywordTable) (operation : Operation) :
    (operation.act table : TriageStep ε SessionAnswer).Settles (operation.candidates table)
      SessionAnswer.Tells := by
  cases operation with
  | addLabel label => exact (TriageStep.Settles.addLabel label).map fun _ _ h => h
  | text t => exact (TriageStep.Settles.addLabelsFromText table t).map fun _ _ h => h
  | body b => exact (TriageStep.Settles.addLabelsFromBody table b).map fun _ _ _ => trivial
  | newIssue => exact TriageStep.Settles.answerNewIssue.map fun _ _ h => h
  | newPullRequest => exact TriageStep.Settles.answerNewPullRequest.map fun _ _ h => h

end Operation

/-! ### Sequences of operations -/

/-- Operations one after another, with the issue as it is known in the end. One that fails does not
keep the next one from being taken. -/
def operate (table : KeywordTable) : List Operation → Issue → TrackerDialogue ε Issue
  | [], issue => .done issue
  | operation :: rest, issue => do
    let (_, issue) ← (operation.act table).run issue
    operate table rest issue

/-- Operations decide soundly, and the issue has the labels last known. -/
theorem run_operate (table : KeywordTable) (tracker : Answerer TrackerCall (TrackerReply ε) σ)
    (operations : List Operation) (issue : Issue) (state : σ) :
    (∀ decision ∈ decisions issue.labels ((operate table operations issue).run tracker state).said,
      decision.IsSound) ∧
    ((operate table operations issue).run tracker state).value.labels
      = knownAfter issue.labels ((operate table operations issue).run tracker state).said := by
  induction operations generalizing issue state with
  | nil => exact ⟨by simp [operate, decisions], rfl⟩
  | cons operation rest ih =>
    have hfirst := operation.settles table σ tracker issue state
    rw [operate, Dialogue.run_bind]
    generalize ((operation.act table).run issue).run tracker state = outcome at hfirst ⊢
    obtain ⟨⟨result, last⟩, next, said⟩ := outcome
    obtain ⟨hsound, hlearned⟩ := ih last next
    -- the rest starts from the labels that are known after this operation
    have hlast : last.labels = knownAfter issue.labels said := hfirst.learned
    dsimp only
    rw [decisions_append, knownAfter_append, ← hlast]
    exact ⟨List.forall_mem_append.2 ⟨hfirst.sound, hsound⟩, hlearned⟩

/-! ### Runs -/

/-- An issue that was opened is noted, labelled and answered: the decisions are on the candidates of its
texts. -/
theorem settled_opened (table : KeywordTable) {entry : Nat → Note}
    (hentry : ∀ number known, (Spoken.note (entry number) : TrackerSpoken ε).decision? known = none)
    {answer : TriageStep ε Disposition} (hanswer : answer.Settles [] TriageStep.Settles.Silent)
    (tracker : Answerer TrackerCall (TrackerReply ε) σ) (issue : Issue) (state : σ) :
    let opened : TriageStep ε Disposition := do
      let issue ← TriageStep.known
      TriageStep.write (entry issue.number)
      labelOpened table
      answer
    Settled issue (candidates table issue.title issue.bodyText) (fun _ _ => True)
      ((opened.run issue).run tracker state).said ((opened.run issue).run tracker state).value := by
  intro opened
  -- the texts are those of the issue at the start
  have hrun : opened.run issue = (do
      TriageStep.write (entry issue.number)
      labelByTexts table issue.title issue.bodyText
      answer : TriageStep ε Disposition).run issue := by
    simp only [opened, TriageStep.run_bind, TriageStep.run_known, TriageStep.run_write,
      Dialogue.done_bind, Dialogue.note_bind, TriageStep.onward_ok, run_labelOpened]
  -- The note in front and the answer behind decide on nothing.
  have hlabelled := (TriageStep.Settles.labelByTexts table issue.title issue.bodyText).then_untold
    fun _ => hanswer
  rw [List.append_nil] at hlabelled
  rw [hrun]
  exact (TriageStep.Settles.write (hentry issue.number)).after_silent (fun _ => hlabelled)
    σ tracker issue state

/-- Triage decides on the candidates that the issue has on the event. -/
theorem settled_triage (table : KeywordTable) (kind : EventKind)
    (tracker : Answerer TrackerCall (TrackerReply ε) σ) (issue : Issue) (state : σ) :
    Settled issue (eventCandidates table kind issue) (fun _ _ => True)
      (((triage table kind).run issue).run tracker state).said
      (((triage table kind).run issue).run tracker state).value := by
  cases kind with
  | newIssue =>
    exact settled_opened table (fun _ _ => rfl) TriageStep.Settles.answerNewIssue tracker issue state
  | newPullRequest =>
    exact settled_opened table (fun _ _ => rfl) TriageStep.Settles.answerNewPullRequest tracker issue
      state
  | unhandled action => exact .of_quiet rfl rfl fun _ _ => trivial

section Run

variable (table : KeywordTable) (tracker : Answerer TrackerCall (TrackerReply ε) σ) (state : σ)

/-- What is said in the run on a fetched issue is what triage says, after a note. -/
theorem said_runIssue (kind : EventKind) (issue : Issue) :
    ((runIssue table kind issue).run tracker state).said
      = .note (.runStarted issue.kindName issue.number issue.title)
        :: (((triage table kind).run issue).run tracker state).said := by
  unfold runIssue
  rw [Dialogue.run_note, Dialogue.run_bind, Outcome.after_said]
  generalize ((triage table kind).run issue).run tracker state = outcome
  obtain ⟨⟨result, last⟩, next, said⟩ := outcome
  -- the report is made without another word
  cases result with
  | error cause => exact congrArg _ (List.append_nil said)
  | ok disposition => exact congrArg _ (List.append_nil said)

/-- The run for a known event decides by the policy, from the labels of the fetched issue. -/
theorem isSound_of_mem_runPayload (payload : Payload) :
    ∀ decision ∈ decisions [] ((runPayload table payload).run tracker state).said,
      decision.IsSound := by
  unfold runPayload
  cases payload.number with
  | error cause => simp [decisions]
  | ok number =>
    dsimp only
    rw [Dialogue.run_ask, Outcome.after_said]
    -- Without an issue there is nothing to label.
    cases (tracker (.fetch number) state).1 with
    | error cause => simp [decisions, Spoken.decision?]
    | ok issue =>
      dsimp only
      rw [said_runIssue]
      exact (settled_triage table payload.kind tracker issue _).sound

/-- The run of an event decides by the policy. -/
theorem isSound_of_mem_runEvent (loader : EventLoader) (file : FileState) :
    ∀ decision ∈ decisions [] ((runEvent table loader file).run tracker state).said,
      decision.IsSound := by
  have hpayload := isSound_of_mem_runPayload table tracker state
  unfold runEvent EventLoader.load
  cases loader.kept with
  | some payload => exact hpayload payload
  | none =>
    cases Payload.read loader.path file with
    | error cause => simp [decisions]
    | ok payload => exact hpayload payload

/-- **The label policy is kept whatever the tracker answers.** After any operations on an issue the
labels that it is known to have are those last known, and each further operation decides by them: the
tracker is asked exactly for labels that they admit, every other label is reported as present or with
the first conflict, and a call that fails leaves the labels as they were. So does every run, from the
labels of the issue that it fetched. -/
theorem policy_kept :
    (∀ (issue : Issue) (past : List Operation) (next : Operation),
      let before := (operate table past issue).run tracker state
      let now := ((next.act table).run before.value).run tracker before.state
      before.value.labels = knownAfter issue.labels before.said ∧
        (∀ decision ∈ decisions issue.labels before.said, decision.IsSound) ∧
        Settled before.value (next.candidates table) SessionAnswer.Tells now.said now.value) ∧
    ∀ (loader : EventLoader) (file : FileState),
      ∀ decision ∈ decisions [] ((runEvent table loader file).run tracker state).said,
        decision.IsSound := by
  refine ⟨fun issue past next => ?_, isSound_of_mem_runEvent table tracker state⟩
  intro before now
  obtain ⟨hsound, hlearned⟩ := run_operate table tracker past issue state
  exact ⟨hlearned, hsound, next.settles table σ tracker before.value before.state⟩

end Run

end Triage
