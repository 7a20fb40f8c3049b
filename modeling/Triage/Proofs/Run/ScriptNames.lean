import Triage.Proofs.Labelling.ScriptCandidates
import Triage.Proofs.Run.Memory

namespace Triage

/-!
# Script names in a run

What the script files are called changes nothing about a run but the label `scripts`.

* `otherCalls`, `Report.withoutScripts`, `Issue.withoutScripts` — calls, report and issue apart from that
  label.
* `runInMemory_of_mismatch` — a run that does not come to an issue does not look at its table.
* `runInMemory_withScripts` — the runs with and without script names are the same up to `scripts`.
-/

/-- The calls without those that add `scripts`. -/
def otherCalls (calls : List TrackerCall) : List TrackerCall :=
  calls.filter (·.label? != some scriptsLabel)

/-- The report, as if `scripts` had not been added. -/
def Report.withoutScripts (report : Report) : Report :=
  { report with addedLabels := Triage.withoutScripts report.addedLabels }

/-- The issue without the label `scripts`. -/
def Issue.withoutScripts (issue : Issue) : Issue :=
  { issue with labels := Triage.withoutScripts issue.labels }

/-- Of the calls for labels, those for other labels are left. -/
theorem otherCalls_labels (number : Nat) (labels : List Label) :
    otherCalls (labels.map (.addLabel number)) = (withoutScripts labels).map (.addLabel number) := by
  rw [otherCalls, List.filter_map, withoutScripts]
  congr 1

/-- Other calls are left of the first ones and of the rest. -/
theorem otherCalls_append (calls more : List TrackerCall) :
    otherCalls (calls ++ more) = otherCalls calls ++ otherCalls more :=
  List.filter_append calls more

/-- What an issue is closed with are its other labels. -/
theorem withoutScripts_closedIf (closes : Bool) (issue : Issue) :
    (issue.closedIf closes).withoutScripts = issue.withoutScripts.closedIf closes := by
  cases closes <;> rfl

/-- On each event, script names bring candidates for `scripts` and change no others. -/
theorem joined_eventCandidates (table : KeywordTable) (names : List String) (kind : EventKind)
    (issue : Issue) :
    JoinedByScripts (eventCandidates table kind issue)
      (eventCandidates (table.withScripts names) kind issue) := by
  unfold eventCandidates
  split
  · exact joined_candidates table names _ _
  · exact .nil

section Mismatch

variable {loader : EventLoader} {file : FileState} {issue : Issue}
  (h : ∀ payload, loader.subject file ≠ .ok (payload, issue.number))
include h

/-- Where the event is not about the issue, nothing is looked up in the table. -/
theorem runInMemory_of_mismatch (table other : KeywordTable) :
    (runInMemory other loader file ⟨issue, [], []⟩).value
        = (runInMemory table loader file ⟨issue, [], []⟩).value ∧
      (runInMemory other loader file ⟨issue, [], []⟩).state
        = (runInMemory table loader file ⟨issue, [], []⟩).state ∧
      (runInMemory other loader file ⟨issue, [], []⟩).exchanges
        = (runInMemory table loader file ⟨issue, [], []⟩).exchanges := by
  -- The tracker has no such issue, so the run ends at the fetch.
  have hsame : (outline other (loader.subject file)).run MemoryTracker.answer ⟨issue, [], []⟩
      = (outline table (loader.subject file)).run MemoryTracker.answer ⟨issue, [], []⟩ := by
    cases hsubject : loader.subject file with
    | error cause => rfl
    | ok subject =>
      obtain ⟨payload, number⟩ := subject
      have hnumber : number ≠ issue.number := by
        rintro rfl
        exact h payload hsubject
      have hanswer : MemoryTracker.answer (.fetch number) ⟨issue, [], []⟩
          = (.error (.noIssue number), ⟨issue, [], []⟩) := by
        rw [MemoryTracker.answer, if_neg (by simp), MemoryTracker.comply, if_neg hnumber]
      rw [outline, outline, Dialogue.run_ask, Dialogue.run_ask, hanswer]
  obtain ⟨hvalue, hstate, hexchanges⟩ := runInMemory_outline table loader file ⟨issue, [], []⟩
  obtain ⟨hvalue', hstate', hexchanges'⟩ := runInMemory_outline other loader file ⟨issue, [], []⟩
  rw [hsame] at hvalue' hstate' hexchanges'
  exact ⟨hvalue'.trans hvalue.symm, hstate'.trans hstate.symm, hexchanges'.trans hexchanges.symm⟩

end Mismatch

/-- **Script names matter to `scripts` only.** Run an event with a table, and with the table and any
script names. Both runs make the same calls but for `scripts`, come to the same report and leave the
same issue but for that label, and if the first run leaves it on the issue then so does the second. -/
theorem runInMemory_withScripts (table : KeywordTable) (names : List String) (loader : EventLoader)
    (file : FileState) (issue : Issue) :
    let plain := runInMemory table loader file ⟨issue, [], []⟩
    let named := runInMemory (table.withScripts names) loader file ⟨issue, [], []⟩
    otherCalls named.questions = otherCalls plain.questions ∧
      named.value.map Report.withoutScripts = plain.value.map Report.withoutScripts ∧
      named.state.issue.withoutScripts = plain.state.issue.withoutScripts ∧
      (scriptsLabel ∈ plain.state.issue.labels → scriptsLabel ∈ named.state.issue.labels) := by
  intro plain named
  by_cases h : ∃ payload, loader.subject file = .ok (payload, issue.number)
  · obtain ⟨payload, hsubject⟩ := h
    -- The two plans differ by `scripts` only, and all else follows from them.
    obtain ⟨hplan, hagree⟩ := plan_joined
      (joined_eventCandidates table names payload.kind issue) (.refl issue)
    obtain ⟨hquestions, hstate⟩ := runInMemory_faultless table hsubject
    obtain ⟨hquestions', hstate'⟩ := runInMemory_faultless (table.withScripts names) hsubject
    have hvalue := (runEvent_faultless table hsubject).1
    have hvalue' := (runEvent_faultless (table.withScripts names) hsubject).1
    refine ⟨?_, ?_, ?_, ?_⟩
    · have hlabels : otherCalls ((plan (eventCandidates (table.withScripts names) payload.kind issue)
          issue).map (.addLabel issue.number))
          = otherCalls ((plan (eventCandidates table payload.kind issue) issue).map
            (.addLabel issue.number)) := by
        rw [otherCalls_labels, otherCalls_labels, hplan]
      rw [hquestions, hquestions', ← List.singleton_append, otherCalls_append, otherCalls_append,
        hlabels, ← otherCalls_append, ← otherCalls_append]
      rfl
    · rw [hvalue, hvalue']
      exact congrArg (fun labels => Except.ok { faultlessReport table payload.kind issue with
        addedLabels := labels }) hplan
    · rw [hstate, hstate', withoutScripts_closedIf, withoutScripts_closedIf]
      have hissue : (issue.assign (plan (eventCandidates (table.withScripts names) payload.kind issue)
          issue)).withoutScripts
          = (issue.assign (plan (eventCandidates table payload.kind issue) issue)).withoutScripts := by
        simp only [Issue.withoutScripts, Issue.assign, withoutScripts_append, hplan]
      rw [hissue]
    · rw [hstate, hstate', Issue.labels_closedIf, Issue.labels_closedIf]
      exact hagree.scripts
  · -- The run comes to no issue, and the two are the same.
    obtain ⟨hvalue, hstate, hexchanges⟩ := runInMemory_of_mismatch
      (fun payload hsubject => h ⟨payload, hsubject⟩) table (table.withScripts names)
    have hquestions : named.questions = plain.questions := by
      rw [Outcome.questions_eq_map_exchanges, Outcome.questions_eq_map_exchanges]
      exact congrArg _ hexchanges
    refine ⟨congrArg _ hquestions, congrArg _ hvalue, congrArg _ (congrArg _ hstate), ?_⟩
    rw [show named.state = plain.state from hstate]
    exact id

end Triage
