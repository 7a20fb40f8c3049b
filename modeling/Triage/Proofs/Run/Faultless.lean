import Triage.Proofs.Labelling.Plan
import Triage.Proofs.Run.Outline

namespace Triage

/-!
# Runs without faults

What a run asks, and what it comes to, is known beforehand if each call is answered as it expects,
whoever answers.

* `labelExchanges`, `closingExchanges`, `faultlessExchanges` — the calls of such a run with their
  answers.
* `faultlessReport` — its report.
* `leads_runEvent` — a run that is answered like this comes to that report.
-/

variable {ε : Type}

/-! ### Calls and answers -/

/-- Labels are added one by one, and the answer is all labels of the issue. -/
def labelExchanges (issue : Issue) :
    List Label → List (Exchange TrackerCall (TrackerReply ε))
  | [] => []
  | label :: rest =>
    ⟨.addLabel issue.number label, .ok (issue.labels ++ [label])⟩
      :: labelExchanges (issue.assign [label]) rest

/-- The issue is answered and closed, if it is to be on such an event. -/
def closingExchanges (kind : EventKind) (issue : Issue) :
    List (Exchange TrackerCall (TrackerReply ε)) :=
  if isAnswered kind issue then
    [⟨.comment issue.number MissingHeaders.reply, .ok ()⟩, ⟨.close issue.number, .ok ()⟩]
  else []

/-- The calls of a run that no fault stops, with their answers. -/
def faultlessExchanges (table : KeywordTable) (kind : EventKind) (issue : Issue) :
    List (Exchange TrackerCall (TrackerReply ε)) :=
  ⟨.fetch issue.number, .ok issue⟩
    :: (labelExchanges issue (plan (eventCandidates table kind issue) issue)
      ++ closingExchanges kind issue)

/-- The calls without their answers. -/
theorem calls_labelExchanges (issue : Issue) (labels : List Label) :
    (labelExchanges issue labels : List (Exchange TrackerCall (TrackerReply ε))).map (·.1)
      = labels.map (.addLabel issue.number) := by
  induction labels generalizing issue with
  | nil => rfl
  | cons label rest ih => rw [labelExchanges, List.map_cons, List.map_cons, ih, Issue.number_assign]

/-- A run that no fault stops fetches, adds what is planned, and answers where that is called for. -/
theorem calls_faultlessExchanges (table : KeywordTable) (kind : EventKind) (issue : Issue) :
    (faultlessExchanges table kind issue : List (Exchange TrackerCall (TrackerReply ε))).map (·.1)
      = .fetch issue.number
        :: ((plan (eventCandidates table kind issue) issue).map (.addLabel issue.number)
          ++ if isAnswered kind issue then closingCalls issue.number else []) := by
  rw [faultlessExchanges, List.map_cons, List.map_append, calls_labelExchanges, closingExchanges]
  split <;> rfl

/-- What is done with an issue after it was labelled, on such an event. -/
def dispositionOf (kind : EventKind) (issue : Issue) : Disposition :=
  if isAnswered kind issue then .closedMissingHeaders else .noAction

/-- The report of a run that no fault stops. -/
def faultlessReport (table : KeywordTable) (kind : EventKind) (issue : Issue) : Report where
  event := kind
  number := issue.number
  isPullRequest := issue.isPullRequest
  addedLabels := plan (eventCandidates table kind issue) issue
  disposition := dispositionOf kind issue

/-- Exactly the labels of the plan are reported as added. -/
theorem report_of_assign_plan (table : KeywordTable) (kind : EventKind) (issue : Issue) :
    Report.of kind issue (issue.assign (plan (eventCandidates table kind issue) issue))
      (dispositionOf kind issue) = faultlessReport table kind issue := by
  -- The report lists the labels at the end that were not there at first.
  have hold : issue.labels.filter (!issue.labels.contains ·) = [] := by
    rw [List.filter_eq_nil_iff]
    intro label hlabel
    simp [hlabel]
  -- Nothing that the issue has is planned.
  have hnew : (plan (eventCandidates table kind issue) issue).filter
      (!issue.labels.contains ·) = plan (eventCandidates table kind issue) issue := by
    rw [List.filter_eq_self]
    intro label hlabel
    simp [not_mem_labels_of_mem_plan hlabel]
  rw [Report.of, Issue.assign, List.filter_append, hold, hnew, List.nil_append]
  rfl

/-! ### Leading a run -/

/-- Candidates lead to the labels of their plan. -/
theorem leads_offer (cs : List Candidate) (issue : Issue) :
    (offer cs issue : TrackerDialogue ε (Except ε Unit × Issue)).Leads
      (labelExchanges issue (plan cs issue)) (.ok (), issue.assign (plan cs issue)) := by
  induction cs generalizing issue with
  | nil =>
    rw [offer, plan, Issue.assign_nil]
    exact .done _
  | cons candidate rest ih =>
    by_cases hdue : candidate.isDue issue = true
    · -- The reply to the label is all labels of the issue, so that it is known as it is then.
      have hlater := ih (issue.assign [candidate.label])
      rw [Issue.assign_assign, List.singleton_append] at hlater
      rw [offer, if_pos hdue, plan, if_pos hdue, labelExchanges]
      refine .ask ?_
      dsimp only
      rw [issue.learn_eq_assign]
      exact hlater
    · rw [offer, if_neg hdue, plan, if_neg hdue]
      exact ih issue

/-- The conclusion leads to the calls that answer the issue, or to none. -/
theorem leads_conclude (kind : EventKind) (issue : Issue) :
    ((conclude kind).run issue : TrackerDialogue ε (Except ε Disposition × Issue)).Leads
      (closingExchanges kind issue) (.ok (dispositionOf kind issue), issue) := by
  rw [run_conclude, closingExchanges, dispositionOf]
  split
  · exact .ask (.ask (.done _))
  · exact .done _

/-- **A run that is answered as it expects** makes the planned calls, and reports them. -/
theorem leads_runEvent (table : KeywordTable) {loader : EventLoader} {file : FileState}
    {payload : Payload} {issue : Issue}
    (h : loader.subject file = .ok (payload, issue.number)) :
    (runEvent table loader file : TrackerDialogue ε (Except (RunError ε) Report)).Leads
      (faultlessExchanges table payload.kind issue)
      (.ok (faultlessReport table payload.kind issue)) := by
  rw [← Dialogue.leads_mute, mute_runEvent, h, outline, faultlessExchanges]
  have hlabelled : (offer (eventCandidates table payload.kind issue) issue :
      TrackerDialogue ε (Except ε Unit × Issue)).Leads _ _ :=
    leads_offer (eventCandidates table payload.kind issue) issue
  have hconcluded : ((conclude payload.kind).run
      (issue.assign (plan (eventCandidates table payload.kind issue) issue)) :
      TrackerDialogue ε (Except ε Disposition × Issue)).Leads (closingExchanges payload.kind issue) _ :=
    leads_conclude payload.kind _
  have hreport : resultOf payload.kind issue (.ok (dispositionOf payload.kind issue),
      issue.assign (plan (eventCandidates table payload.kind issue) issue))
      = (.ok (faultlessReport table payload.kind issue) : Except (RunError ε) Report) := by
    rw [← report_of_assign_plan]
    rfl
  -- Labels lead to the conclusion, and that one to the report.
  have hended := hconcluded.bind (f := fun concluded =>
    .done (resultOf payload.kind issue concluded)) ⟨rfl, hreport⟩
  rw [List.append_nil] at hended
  exact .ask (hlabelled.bind hended)

/-- A run whose fetch fails comes to that failure. -/
theorem leads_runEvent_of_error (table : KeywordTable) {loader : EventLoader} {file : FileState}
    {payload : Payload} {number : Nat} (h : loader.subject file = .ok (payload, number)) (cause : ε) :
    (runEvent table loader file : TrackerDialogue ε (Except (RunError ε) Report)).Leads
      [⟨.fetch number, .error cause⟩] (.error (.tracker cause)) := by
  rw [← Dialogue.leads_mute, mute_runEvent, h, outline]
  exact .ask (.done _)

end Triage
