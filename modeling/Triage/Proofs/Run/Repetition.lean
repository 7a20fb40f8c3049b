import Triage.Proofs.Run.LabelPlan
import Triage.Proofs.Run.Resumption

namespace Triage

/-!
# Runs that are repeated

* `Issue.triaged`, `triaged_triaged` — the issue as a run leaves it; another run leaves it like that.
* `runInMemory_again`, `runEvent_repeated` — the second run of an event adds nothing and changes nothing;
  it answers a report of missing headers once more.
-/

section Again

variable (table : KeywordTable) (kind : EventKind) (issue : Issue)

/-- The issue as a run without faults leaves it. -/
def Issue.triaged : Issue :=
  (issue.assign (plan (eventCandidates table kind issue) issue)).closedIf (isAnswered kind issue)

/-- The texts stay, and with them whether the issue is to be answered. -/
theorem isAnswered_triaged : isAnswered kind (issue.triaged table kind) = isAnswered kind issue :=
  isAnswered_closedIf _ _ kind

/-- **Nothing is left to be assigned.** -/
theorem plan_triaged :
    plan (eventCandidates table kind (issue.triaged table kind)) (issue.triaged table kind) = [] := by
  unfold Issue.triaged
  rw [plan_closedIf, eventCandidates_closedIf]
  -- The whole plan was assigned, so the rest of it is empty.
  exact plan_assign (List.append_nil _).symm

/-- Triaged twice, an issue is as if triaged once. -/
theorem triaged_triaged : (issue.triaged table kind).triaged table kind = issue.triaged table kind := by
  rw [Issue.triaged, plan_triaged, isAnswered_triaged, Issue.assign_nil]
  exact closedIf_closedIf _ _ id

/-- The report on an issue that was triaged already is the first one without its labels. -/
theorem faultlessReport_triaged :
    faultlessReport table kind (issue.triaged table kind)
      = { faultlessReport table kind issue with addedLabels := [] } := by
  have hnumber : (issue.triaged table kind).number = issue.number := number_closedIf _ _
  have hrequest : (issue.triaged table kind).isPullRequest = issue.isPullRequest := by
    unfold Issue.triaged
    cases isAnswered kind issue <;> rfl
  rw [faultlessReport, plan_triaged, hnumber, hrequest, dispositionOf, isAnswered_triaged]
  rfl

end Again

/-- What comes of a second run, by the event. -/
theorem runInMemory_again (table : KeywordTable) {loader : EventLoader} {file : FileState}
    {payload : Payload} {issue : Issue}
    (h : loader.subject file = .ok (payload, issue.number)) :
    let first := runInMemory table loader file ⟨issue, [], []⟩
    let second := runInMemory table loader file first.state
    second.value = .ok { faultlessReport table payload.kind issue with addedLabels := [] } ∧
      second.questions = .fetch issue.number
        :: (if isAnswered payload.kind issue then closingCalls issue.number else []) ∧
      second.state = first.state := by
  intro first second
  -- the second run starts from the issue as the first one has left it
  have hfirst : first.state = ⟨issue.triaged table payload.kind, [], []⟩ :=
    (runInMemory_faultless table h).2
  have hsecond : second = runInMemory table loader file ⟨issue.triaged table payload.kind, [], []⟩ := by
    rw [← hfirst]
  have hnumber : (issue.triaged table payload.kind).number = issue.number := number_closedIf _ _
  have hagain : loader.subject file = .ok (payload, (issue.triaged table payload.kind).number) := by
    rw [hnumber]
    exact h
  have hvalue := (runEvent_faultless table hagain).1
  obtain ⟨hquestions, hstate⟩ := runInMemory_faultless table hagain
  rw [faultlessReport_triaged] at hvalue
  rw [plan_triaged, isAnswered_triaged, hnumber] at hquestions
  have hsame := triaged_triaged table payload.kind issue
  rw [hsecond, hfirst]
  exact ⟨hvalue, hquestions, hstate.trans (congrArg (MemoryTracker.mk · [] []) hsame)⟩

/-- **A repeated run adds nothing.** Take a run that succeeds at a tracker in memory, and run the same
event again. The second run succeeds too and reports no label; it leaves the tracker as it is, and asks
it for the issue and for no label. A report of missing headers it answers and closes once more. -/
theorem runEvent_repeated (table : KeywordTable) (loader : EventLoader) (file : FileState)
    (issue : Issue) {report : Report}
    (h : (runInMemory table loader file ⟨issue, [], []⟩).value = .ok report) :
    let first := runInMemory table loader file ⟨issue, [], []⟩
    let second := runInMemory table loader file first.state
    second.value = .ok { report with addedLabels := [] } ∧
      second.questions = .fetch issue.number
        :: (if isAnswered report.event issue then closingCalls issue.number else []) ∧
      second.state = first.state := by
  obtain ⟨payload, hsubject⟩ := subject_of_runInMemory_ok h
  -- A run that succeeds in memory is one that no fault stops.
  have hreport : report = faultlessReport table payload.kind issue :=
    Except.ok.inj (h.symm.trans (runEvent_faultless table hsubject).1)
  rw [hreport]
  exact runInMemory_again table hsubject

/-- A second run on the pull request on wheels asks for the pull request only. -/
theorem runEvent_repeated_of_wheelRequest :
    ∃ report,
      (runInMemory .builtin (.ofPayload requestEvent) .absent ⟨wheelRequest, [], []⟩).value
        = .ok report ∧
      (runInMemory .builtin (.ofPayload requestEvent) .absent
        (runInMemory .builtin (.ofPayload requestEvent) .absent
          ⟨wheelRequest, [], []⟩).state).questions = [.fetch 8] := by
  have hsubject : (EventLoader.ofPayload requestEvent).subject .absent
      = .ok (requestEvent, wheelRequest.number) := rfl
  have hfirst := (runEvent_faultless .builtin hsubject).1
  have hquestions := (runEvent_repeated .builtin (.ofPayload requestEvent) .absent wheelRequest
    hfirst).2.1
  have hopen : isAnswered requestEvent.kind wheelRequest = false := rfl
  rw [faultlessReport, hopen, if_neg (by simp)] at hquestions
  exact ⟨_, hfirst, hquestions⟩

/-- A second run on the report of missing headers answers and closes it once more. -/
theorem headersReport_answered_again :
    (∃ report, (runInMemory .builtin (.ofPayload headersEvent) .absent ⟨headersReport, [], []⟩).value
        = .ok report) ∧
      (runInMemory .builtin (.ofPayload headersEvent) .absent
        (runInMemory .builtin (.ofPayload headersEvent) .absent
          ⟨headersReport, [], []⟩).state).questions
        = [.fetch 7, .comment 7 MissingHeaders.reply, .close 7] := by
  have hsubject : (EventLoader.ofPayload headersEvent).subject .absent
      = .ok (headersEvent, headersReport.number) := rfl
  have hanswered : isAnswered headersEvent.kind headersReport = true := by decide +kernel
  have hquestions := (runInMemory_again .builtin hsubject).2.1
  rw [hanswered, if_pos rfl] at hquestions
  exact ⟨⟨_, (runEvent_faultless .builtin hsubject).1⟩, hquestions⟩

end Triage
