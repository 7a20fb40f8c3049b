import Triage.Proofs.Labelling.Passes
import Triage.Proofs.Run.Memory

namespace Triage

/-!
# Runs and the plan by passes

* `runEvent_labelPlan` — the run of a handled event asks for the planned labels, reports them, and
  leaves them on the issue.
-/

/-- **A run is its plan.** On a handled event about the issue that a tracker in memory holds, a run with
a table that is built succeeds. It asks for exactly the labels that the passes over the issue assign, in
order, before it answers and closes the issue where that is called for; it reports exactly these labels
as added, and they end up after those that the issue had. -/
theorem runEvent_labelPlan {table : KeywordTable} (built : table.IsBuilt) {loader : EventLoader}
    {file : FileState} {payload : Payload} {issue : Issue}
    (h : loader.subject file = .ok (payload, issue.number))
    (handled : payload.kind.isHandled = true) :
    let run := runInMemory table loader file ⟨issue, [], []⟩
    let labels := labelPlan table issue
    (∃ report, run.value = .ok report ∧ report.addedLabels = labels) ∧
      run.questions = .fetch issue.number :: (labels.map (.addLabel issue.number)
        ++ if isAnswered payload.kind issue then closingCalls issue.number else []) ∧
      run.state.issue.labels = issue.labels ++ labels := by
  intro run labels
  -- The candidates in turn come to what the passes assign.
  have hplan : plan (eventCandidates table payload.kind issue) issue = labels := by
    rw [eventCandidates, if_pos handled, plan_candidates built.nodup_labels]
  obtain ⟨hquestions, hstate⟩ := runInMemory_faultless table h
  rw [hplan] at hquestions hstate
  refine ⟨⟨_, (runEvent_faultless table h).1, hplan⟩, hquestions, ?_⟩
  have hlabels : (issue.assign labels).labels = issue.labels ++ labels := rfl
  rw [hstate, ← hlabels]
  exact Issue.labels_closedIf _ _

/-- A pull request whose title puts up a label twice. One of the labels of its last line is kept off by
the title, and its line on bug fixes counts. -/
def wheelRequest : Issue where
  id := 91
  number := 8
  title := "Manylinux tests"
  body := some "* OS: FreeBSD\n* Bug fix: no\n* Type: doc, wheels\n"
  state := "open"
  labels := ["unix"]
  pullRequest := some (.object [])

/-- The event that it was opened. -/
def requestEvent : Payload :=
  ⟨.object [("action", .string "opened"), ("pull_request", .object [("number", .ofNat 8)])]⟩

/-- The plan of that pull request, and its run. -/
theorem runEvent_labelPlan_of_wheelRequest :
    let loader := EventLoader.ofPayload requestEvent
    let labels := ["linux", "tests", "freebsd", "enhancement", "wheels"]
    KeywordTable.builtin.IsBuilt ∧
      loader.subject .absent = .ok (requestEvent, wheelRequest.number) ∧
      requestEvent.kind.isHandled = true ∧
      labelPlan .builtin wheelRequest = labels ∧
      (runInMemory .builtin loader .absent ⟨wheelRequest, [], []⟩).questions
        = .fetch 8 :: labels.map (.addLabel 8) ∧
      (runInMemory .builtin loader .absent ⟨wheelRequest, [], []⟩).state.issue.labels
        = ["unix"] ++ labels := by
  intro loader labels
  have hsubject : loader.subject .absent = .ok (requestEvent, wheelRequest.number) := rfl
  have hlabels : labelPlan .builtin wheelRequest = labels := by decide +kernel
  have hopen : isAnswered requestEvent.kind wheelRequest = false := rfl
  obtain ⟨-, hquestions, hremote⟩ := runEvent_labelPlan .builtin hsubject rfl
  rw [hlabels] at hquestions hremote
  rw [hopen, if_neg (by simp), List.append_nil] at hquestions
  exact ⟨.builtin, hsubject, rfl, hlabels, hquestions, hremote⟩

end Triage
