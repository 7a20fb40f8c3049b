import Triage.Proofs.Run.Memory

namespace Triage

/-!
# Runs that are cut short

A run that a tracker in memory cuts short can be taken up by running the same event again.

* `planned_resume`, `closesAt_resume` — what a second run finds to do is what the first one left.
* `runEvent_resumed` — both runs together do what one run without faults does.
-/

/-- The tracker once no call is set to fail any more. -/
def MemoryTracker.repaired (tracker : MemoryTracker) : MemoryTracker := { tracker with faults := [] }

section Resume

variable (issue : Issue) (labels : List Label) (closes : Bool)

/-- A closed issue keeps its number. -/
theorem number_closedIf : (issue.closedIf closes).number = issue.number := by
  cases closes <;> rfl

/-- It keeps its candidates, which its texts decide. -/
theorem eventCandidates_closedIf (table : KeywordTable) (kind : EventKind) :
    eventCandidates table kind (issue.closedIf closes) = eventCandidates table kind issue := by
  cases closes <;> rfl

/-- Nor does its state decide whether it is to be answered. -/
theorem isAnswered_closedIf (kind : EventKind) :
    isAnswered kind (issue.closedIf closes) = isAnswered kind issue := by
  cases closes <;> rfl

/-- What is to be assigned depends on its labels only. -/
theorem plan_closedIf (cs : List Candidate) :
    plan cs (issue.closedIf closes) = plan cs issue := by
  cases closes
  · rfl
  · exact plan_congr cs rfl rfl

/-- Labels and state do not decide whether an issue is closed. -/
theorem closesAt_resume (subject : Except EventError (Payload × Nat)) :
    closesAt subject ((issue.assign labels).closedIf closes) = closesAt subject issue := by
  cases closes <;> rfl

/-- Closing an issue, once more or not, comes last. -/
theorem assign_closedIf (more : List Label) :
    ((issue.assign labels).closedIf closes).assign more
      = (issue.assign (labels ++ more)).closedIf closes := by
  rw [← Issue.assign_assign]
  cases closes <;> rfl

/-- An issue that may have been closed before ends as if closed once. -/
theorem closedIf_closedIf {other : Bool} (h : closes = true → other = true) :
    (issue.closedIf closes).closedIf other = issue.closedIf other := by
  cases closes with
  | false => rfl
  | true =>
    rw [h rfl]
    rfl

end Resume

/-- **What is left to do.** Once a part of what was planned is done, the rest of it is planned. -/
theorem planned_resume {table : KeywordTable} {subject : Except EventError (Payload × Nat)}
    {issue : Issue} {posted left : List Label}
    (h : planned table subject issue = posted ++ left) (closes : Bool) :
    planned table subject ((issue.assign posted).closedIf closes) = left := by
  cases subject with
  | error cause =>
    rw [planned, eq_comm, List.append_eq_nil_iff] at h
    rw [planned, h.2]
  | ok subject =>
    obtain ⟨payload, number⟩ := subject
    unfold planned at h ⊢
    dsimp only at h ⊢
    rw [number_closedIf, Issue.number_assign]
    -- About another issue nothing is planned, and so nothing is left.
    by_cases hnumber : number = issue.number
    · rw [if_pos hnumber] at h ⊢
      rw [plan_closedIf, eventCandidates_closedIf]
      exact plan_assign h
    · rw [if_neg hnumber, eq_comm, List.append_eq_nil_iff] at h
      rw [if_neg hnumber, h.2]

/-- Nothing is planned twice. -/
theorem nodup_planned (table : KeywordTable) (subject : Except EventError (Payload × Nat))
    (issue : Issue) : (planned table subject issue).Nodup := by
  unfold planned
  split
  · exact List.nodup_nil
  · split
    · exact nodup_plan _ issue
    · exact List.nodup_nil

/-- A run that succeeds is about the issue that the tracker holds. -/
theorem subject_of_runInMemory_ok {table : KeywordTable} {loader : EventLoader} {file : FileState}
    {tracker : MemoryTracker} {report : Report}
    (h : (runInMemory table loader file tracker).value = .ok report) :
    ∃ payload, loader.subject file = .ok (payload, tracker.issue.number) := by
  rw [(runInMemory_outline table loader file tracker).1] at h
  cases hsubject : loader.subject file with
  | error cause =>
    rw [hsubject] at h
    cases h
  | ok subject =>
    obtain ⟨payload, number⟩ := subject
    rw [hsubject, outline, Dialogue.run_ask, Outcome.after_value] at h
    -- A run that succeeds has fetched something, and the tracker holds one issue only.
    by_cases hfetch : Fault.fetch ∈ tracker.faults
    · rw [MemoryTracker.answer, if_pos (by exact hfetch)] at h
      cases h
    · by_cases hnumber : number = tracker.issue.number
      · exact ⟨payload, by rw [hnumber]⟩
      · rw [MemoryTracker.answer, if_neg (by exact hfetch), MemoryTracker.comply,
          if_neg hnumber] at h
        cases h

/-- **A run that is cut short can be run again to completion.** Take a run that some call, if any,
cuts short, and a second run of the same event once no call fails: the second one adds exactly the
labels that the run without faults would still have added, no label is added twice over the two, and
the issue ends as it does there. -/
theorem runEvent_resumed (table : KeywordTable) (loader : EventLoader) (file : FileState)
    (issue : Issue) (faults : List Fault) :
    let whole := runInMemory table loader file ⟨issue, [], []⟩
    let first := runInMemory table loader file ⟨issue, faults, []⟩
    let second := runInMemory table loader file first.state.repaired
    requestedLabels whole.exchanges
        = postedLabels first.exchanges ++ requestedLabels second.exchanges ∧
      (postedLabels first.exchanges ++ postedLabels second.exchanges).Nodup ∧
      second.state = whole.state ∧
      ((∃ report, whole.value = .ok report) → ∃ report, second.value = .ok report) := by
  intro whole first second
  obtain ⟨planned, allLeft, allCloses, hwhole⟩ := runEvent_memory table loader file issue []
  obtain ⟨posted, left, closes, hfirst⟩ := runEvent_memory table loader file issue faults
  obtain ⟨rfl, rfl, hrequested⟩ := hwhole.faultless rfl
  have hplanned : planned = posted ++ left := by
    rw [← hfirst.toAdd_eq, hwhole.toAdd_eq, List.append_nil]
  -- the second run starts from the issue as the first one has left it
  have hstart : first.state.repaired = ⟨(issue.assign posted).closedIf closes, [], []⟩ :=
    congrArg MemoryTracker.repaired hfirst.tracker_eq
  have hrun : second
      = runInMemory table loader file ⟨(issue.assign posted).closedIf closes, [], []⟩ := by
    rw [← hstart]
  obtain ⟨added, rest, closesAgain, hsecond⟩ :=
    runEvent_memory table loader file ((issue.assign posted).closedIf closes) []
  rw [← hrun] at hsecond
  obtain ⟨rfl, rfl, hadded⟩ := hsecond.faultless rfl
  -- What the second run adds is what the first one left.
  have hleft : added = left := by
    rw [← planned_resume hfirst.toAdd_eq closes, hsecond.toAdd_eq, List.append_nil]
  -- Both runs together add the plan, in its order.
  have hposted : postedLabels first.exchanges ++ postedLabels second.exchanges = planned := by
    rw [hsecond.postedLabels_eq, hplanned, hleft]
    exact congrArg (· ++ left) hfirst.postedLabels_eq
  refine ⟨?_, ?_, ?_, ?_⟩
  · rw [hadded, ← hsecond.postedLabels_eq, hposted]
    exact hrequested
  · rw [hposted, ← List.append_nil planned, ← hwhole.toAdd_eq]
    exact nodup_planned table _ issue
  · rw [hsecond.tracker_eq, closesAt_resume, assign_closedIf, closedIf_closedIf _ _ hfirst.justified,
      hleft, ← hplanned]
    exact hwhole.tracker_eq.symm
  · rintro ⟨report, hreport⟩
    obtain ⟨payload, hsubject⟩ := subject_of_runInMemory_ok hreport
    have hagain : loader.subject file
        = .ok (payload, ((issue.assign posted).closedIf closes).number) := by
      rw [number_closedIf]
      exact hsubject
    rw [hrun]
    exact ⟨_, (runEvent_faultless table hagain).1⟩

end Triage
