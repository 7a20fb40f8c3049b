import Triage.Proofs.Run.CallOrder
import Triage.Proofs.Run.Faultless

namespace Triage

/-!
# Runs at a tracker in memory

A tracker in memory without set replies carries out the plan of a run, up to the first call that is
set to fail.

* `requestedLabels`, `postedLabels` — the labels that a tracker was asked to add, and those it added.
* `OfferedAt`, `ConcludedAt` — what comes of the two parts of a run.
* `planned`, `closesAt` — what a whole run adds and whether it closes, by its event and its issue.
* `runInMemory`, `RunAt`, `runEvent_memory` — a whole run, and what comes of it.
* `runEvent_faultless`, `runInMemory_faultless` — the run that no fault stops: its calls, its report and
  the tracker after it.
-/

variable {ε : Type}

/-! ### Labels in exchanges -/

/-- The label that a call adds. -/
def TrackerCall.label? : TrackerCall → Option Label
  | .addLabel _ label => some label
  | _ => none

/-- The labels that the tracker was asked to add, in order. -/
def requestedLabels (exchanges : List (Exchange TrackerCall (TrackerReply ε))) : List Label :=
  exchanges.filterMap (·.1.label?)

/-- The labels that the tracker was asked to add and did, in order. -/
def postedLabels (exchanges : List (Exchange TrackerCall (TrackerReply ε))) : List Label :=
  exchanges.filterMap fun exchange => if exchange.2.isOk then exchange.1.label? else none

/-- Labels were requested in the first calls and in the others. -/
theorem requestedLabels_append (first second : List (Exchange TrackerCall (TrackerReply ε))) :
    requestedLabels (first ++ second) = requestedLabels first ++ requestedLabels second :=
  List.filterMap_append

/-- Labels were added by the first calls and by the others. -/
theorem postedLabels_append (first second : List (Exchange TrackerCall (TrackerReply ε))) :
    postedLabels (first ++ second) = postedLabels first ++ postedLabels second :=
  List.filterMap_append

/-- Which labels were requested is a matter of the calls alone. -/
theorem requestedLabels_of_calls {exchanges : List (Exchange TrackerCall (TrackerReply ε))}
    {number : Nat} {labels : List Label}
    (h : exchanges.map (·.1) = labels.map (.addLabel number)) :
    requestedLabels exchanges = labels := by
  have hmap : requestedLabels exchanges = (exchanges.map (·.1)).filterMap TrackerCall.label? := by
    rw [List.filterMap_map]
    rfl
  rw [hmap, h, List.filterMap_map]
  exact List.filterMap_some

/-- Comments and closings request no label, and so post none. -/
theorem labels_of_closingCalls {exchanges : List (Exchange TrackerCall (TrackerReply ε))}
    {number : Nat} (h : exchanges.map (·.1) <+: closingCalls number) :
    requestedLabels exchanges = [] ∧ postedLabels exchanges = [] := by
  have hnone : ∀ exchange ∈ exchanges, exchange.1.label? = none := by
    intro exchange hmem
    have hcall := h.subset (List.mem_map_of_mem hmem)
    simp only [closingCalls, List.mem_cons, List.not_mem_nil, or_false] at hcall
    rcases hcall with hcall | hcall <;> rw [hcall] <;> rfl
  constructor
  · exact List.filterMap_eq_nil_iff.2 hnone
  · refine List.filterMap_eq_nil_iff.2 fun exchange hmem => ?_
    rw [hnone exchange hmem, ite_self]

/-! ### Offering -/

/-- What comes of a dialogue at a tracker in memory. -/
abbrev MemoryOutcome (α : Type) :=
  Outcome Note TrackerCall (TrackerReply MemoryError) MemoryTracker α

/-- The candidates were offered until the labels `posted` of their plan were added: there are none
left, or the next one is set to fail. The issue as it is known is that of the tracker. -/
structure OfferedAt (cs : List Candidate) (issue : Issue) (faults : List Fault)
    (posted left : List Label) (outcome : MemoryOutcome (Except MemoryError Unit × Issue)) : Prop where
  plan_eq : plan cs issue = posted ++ left
  postedLabels_eq : postedLabels outcome.exchanges = posted
  calls : outcome.exchanges.map (·.1)
    = (posted ++ left.head?.toList).map (.addLabel issue.number)
  tracker : outcome.state = ⟨issue.assign posted, faults, []⟩
  ends : (left = [] ∧ outcome.value = (.ok (), issue.assign posted)) ∨
    ∃ label, left.head? = some label ∧ .label label ∈ faults ∧
      outcome.value = (.error (.refused (.label label)), issue.assign posted)

section Label

variable {issue : Issue} {faults : List Fault} {label : Label}

/-- A label that is set to fail is refused. -/
theorem answer_addLabel_refused (h : Fault.label label ∈ faults) (number : Nat) :
    MemoryTracker.answer (.addLabel number label) ⟨issue, faults, []⟩
      = (.error (.refused (.label label)), ⟨issue, faults, []⟩) := if_pos h

/-- A label that the issue does not have is put at the end of its labels, here and at the tracker. -/
theorem answer_addLabel_new (hfault : Fault.label label ∉ faults) (hnew : label ∉ issue.labels)
    (number : Nat) :
    MemoryTracker.answer (.addLabel number label) ⟨issue, faults, []⟩
      = (.ok (issue.labels ++ [label]), ⟨issue.assign [label], faults, []⟩) := by
  have hcomply : MemoryTracker.comply (.addLabel number label) ⟨issue, faults, []⟩
      = (.ok (issue.labels ++ [label]), ⟨issue.assign [label], faults, []⟩) := by
    simp [MemoryTracker.comply, MemoryTracker.labelsAfter, MemoryTracker.withLabels, Issue.hasLabel,
      Issue.assign, hnew]
  -- The call is not set to fail, so the tracker complies.
  exact (if_neg hfault).trans hcomply

end Label

section Offer

variable {candidate : Candidate} {rest : List Candidate} {issue : Issue} {faults : List Fault}
  (hdue : candidate.isDue issue = true)
include hdue

/-- The label of the first candidate is refused: nothing of the plan is carried out. -/
theorem offeredAt_refused (hfault : Fault.label candidate.label ∈ faults) :
    OfferedAt (candidate :: rest) issue faults [] (plan (candidate :: rest) issue)
      ((offer (candidate :: rest) issue).run MemoryTracker.answer ⟨issue, faults, []⟩) := by
  have hplan : plan (candidate :: rest) issue
      = candidate.label :: plan rest (issue.assign [candidate.label]) := by
    rw [plan, if_pos hdue]
  have hanswer := @answer_addLabel_refused issue faults candidate.label hfault issue.number
  -- The refusal is the answer to the first call, and no other follows.
  rw [offer, if_pos hdue]
  refine ⟨rfl, ?_, ?_, ?_, .inr ⟨candidate.label, ?_, hfault, ?_⟩⟩
  · rw [Dialogue.exchanges_run_ask, hanswer]
    rfl
  · rw [Dialogue.exchanges_run_ask, hanswer, hplan]
    rfl
  · simp [hanswer]
  · rw [hplan]
    rfl
  · simp [hanswer]

/-- The label of the first candidate is added: what is known of the issue stays what the tracker
holds, and the rest of the plan is carried out as far as the other candidates come. -/
theorem OfferedAt.added (hfault : Fault.label candidate.label ∉ faults) {posted left : List Label}
    (h : OfferedAt rest (issue.assign [candidate.label]) faults posted left
      ((offer rest (issue.assign [candidate.label])).run MemoryTracker.answer
        ⟨issue.assign [candidate.label], faults, []⟩)) :
    OfferedAt (candidate :: rest) issue faults (candidate.label :: posted) left
      ((offer (candidate :: rest) issue).run MemoryTracker.answer ⟨issue, faults, []⟩) := by
  have hanswer := answer_addLabel_new hfault (not_mem_labels_of_isDue hdue) issue.number
  have hassigned : (issue.assign [candidate.label]).assign posted
      = issue.assign (candidate.label :: posted) := by
    rw [Issue.assign_assign, List.singleton_append]
  rw [offer, if_pos hdue]
  refine ⟨?_, ?_, ?_, ?_, ?_⟩
  · rw [plan, if_pos hdue, h.plan_eq, List.cons_append]
  · rw [Dialogue.exchanges_run_ask, hanswer]
    simp only [issue.learn_eq_assign]
    exact congrArg (candidate.label :: ·) h.postedLabels_eq
  · rw [Dialogue.exchanges_run_ask, hanswer]
    simp only [issue.learn_eq_assign]
    exact congrArg (TrackerCall.addLabel issue.number candidate.label :: ·) h.calls
  · simp only [Dialogue.run_ask, Outcome.after_state, hanswer, issue.learn_eq_assign]
    rw [h.tracker, hassigned]
  · simp only [Dialogue.run_ask, Outcome.after_value, hanswer, issue.learn_eq_assign]
    rw [← hassigned]
    exact h.ends

end Offer

/-- **Offering carries out the plan**, up to the first label that is set to fail. -/
theorem run_offer_memory (cs : List Candidate) (issue : Issue) (faults : List Fault) :
    ∃ posted left, OfferedAt cs issue faults posted left
      ((offer cs issue).run MemoryTracker.answer ⟨issue, faults, []⟩) := by
  induction cs generalizing issue with
  | nil => exact ⟨[], [], rfl, rfl, rfl, by simp [offer], .inl ⟨rfl, by simp [offer]⟩⟩
  | cons candidate rest ih =>
    by_cases hdue : candidate.isDue issue = true
    · -- A candidate that is due comes to the tracker, which refuses its label or adds it.
      by_cases hfault : Fault.label candidate.label ∈ faults
      · exact ⟨[], _, offeredAt_refused hdue hfault⟩
      · obtain ⟨posted, left, h⟩ := ih (issue.assign [candidate.label])
        exact ⟨_, _, h.added hdue hfault⟩
    · -- The candidate is not due: neither plan nor calls notice it.
      have hplan : plan (candidate :: rest) issue = plan rest issue := by
        rw [plan, if_neg hdue]
      rw [offer, if_neg hdue]
      obtain ⟨posted, left, h⟩ := ih issue
      exact ⟨posted, left, hplan.trans h.plan_eq, h.postedLabels_eq, h.calls, h.tracker,
        h.ends⟩

/-! ### Concluding -/

/-- The issue, closed if that is so. -/
def Issue.closedIf (closes : Bool) (issue : Issue) : Issue :=
  if closes then { issue with state := "closed" } else issue

/-- Closing an issue leaves its labels. -/
theorem Issue.labels_closedIf (closes : Bool) (issue : Issue) :
    (issue.closedIf closes).labels = issue.labels := by
  cases closes <;> rfl

/-- Triage was concluded at a tracker in memory; without faults it was as the issue calls for. -/
structure ConcludedAt (kind : EventKind) (issue : Issue) (faults : List Fault) (closes : Bool)
    (outcome : MemoryOutcome (Except MemoryError Disposition × Issue)) : Prop where
  tracker : outcome.state = ⟨issue.closedIf closes, faults, []⟩
  justified : closes = true → isAnswered kind issue = true
  faultless : faults = [] → closes = isAnswered kind issue ∧
    outcome.exchanges.map (·.1)
      = (if isAnswered kind issue then closingCalls issue.number else []) ∧
    outcome.value
      = (.ok (if isAnswered kind issue then .closedMissingHeaders else .noAction), issue)

/-- Triage is concluded in memory as the issue calls for, up to the first call that is set to fail. -/
theorem run_conclude_memory (kind : EventKind) (issue : Issue) (faults : List Fault) :
    ∃ closes, ConcludedAt kind issue faults closes
      (((conclude kind).run issue).run MemoryTracker.answer ⟨issue, faults, []⟩) := by
  rw [run_conclude]
  by_cases h : isAnswered kind issue = true
  · rw [if_pos h]
    by_cases hcomment : Fault.comment ∈ faults
    · have hfaults : faults ≠ [] := List.ne_nil_of_mem hcomment
      -- A call that fails has no effect, so the issue stays open.
      refine ⟨false, ?_, by simp, fun hnone => absurd hnone hfaults⟩
      simp [MemoryTracker.answer, TrackerCall.fault, hcomment, Issue.closedIf]
    · by_cases hclose : Fault.close ∈ faults
      · have hfaults : faults ≠ [] := List.ne_nil_of_mem hclose
        refine ⟨false, ?_, by simp, fun hnone => absurd hnone hfaults⟩
        simp [MemoryTracker.answer, MemoryTracker.comply, TrackerCall.fault, hcomment, hclose,
          Issue.closedIf]
      · -- Neither call is set to fail, and the issue ends closed.
        refine ⟨true, ?_, fun _ => h, fun hnone => ⟨h.symm, ?_, ?_⟩⟩
        · simp [MemoryTracker.answer, MemoryTracker.comply, TrackerCall.fault, hcomment, hclose,
            Issue.closedIf]
        · rw [if_pos h, hnone]
          rfl
        · rw [if_pos h, hnone]
          rfl
  · rw [if_neg h]
    refine ⟨false, rfl, by simp, fun _ => ⟨by simpa using h, ?_, ?_⟩⟩
    · rw [if_neg h]
      rfl
    · rw [if_neg h]
      rfl

/-! ### Whole runs -/

/-- What a run adds to an issue in memory that no fault stops, by what its event says. -/
def planned (table : KeywordTable) (subject : Except EventError (Payload × Nat)) (issue : Issue) :
    List Label :=
  match subject with
  | .error _ => []
  | .ok (payload, number) =>
    if number = issue.number then plan (eventCandidates table payload.kind issue) issue else []

/-- Such a run closes the issue. -/
def closesAt (subject : Except EventError (Payload × Nat)) (issue : Issue) : Bool :=
  match subject with
  | .error _ => false
  | .ok (payload, number) => number == issue.number && isAnswered payload.kind issue

/-- Of the labels `toAdd` a run has added `posted`, and the issue was closed if `closes`. Without
faults nothing is left to be done. -/
structure RunAt (toAdd : List Label) (toClose : Bool) (issue : Issue) (faults : List Fault)
    (posted left : List Label) (closes : Bool)
    (exchanges : List (TrackerExchange MemoryError)) (tracker : MemoryTracker) : Prop where
  toAdd_eq : toAdd = posted ++ left
  postedLabels_eq : postedLabels exchanges = posted
  tracker_eq : tracker = ⟨(issue.assign posted).closedIf closes, faults, []⟩
  justified : closes = true → toClose = true
  faultless : faults = [] →
    left = [] ∧ closes = toClose ∧ requestedLabels exchanges = posted

/-- A run that comes to nothing has nothing to do, or a fault stops it. -/
theorem RunAt.idle {toAdd : List Label} {toClose : Bool} {issue : Issue} {faults : List Fault}
    {exchanges : List (TrackerExchange MemoryError)}
    (hposted : postedLabels exchanges = []) (hrequested : requestedLabels exchanges = [])
    (h : faults = [] → toAdd = [] ∧ toClose = false) :
    RunAt toAdd toClose issue faults [] toAdd false exchanges ⟨issue, faults, []⟩ where
  toAdd_eq := rfl
  postedLabels_eq := hposted
  tracker_eq := by rw [Issue.assign_nil, Issue.closedIf, if_neg (by simp)]
  justified := by simp
  faultless hnone := ⟨(h hnone).1, (h hnone).2.symm, hrequested⟩

/-- What is done with a fetched issue at the tracker that it came from. -/
theorem run_handleFetched_memory (table : KeywordTable) (kind : EventKind) (issue : Issue)
    (faults : List Fault) :
    ∃ posted left closes, RunAt (plan (eventCandidates table kind issue) issue)
      (isAnswered kind issue) issue faults posted left closes
      ((handleFetched table kind issue).run MemoryTracker.answer ⟨issue, faults, []⟩).exchanges
      ((handleFetched table kind issue).run MemoryTracker.answer ⟨issue, faults, []⟩).state := by
  obtain ⟨posted, left, h⟩ := run_offer_memory (eventCandidates table kind issue) issue faults
  rcases h.ends with ⟨hleft, hvalue⟩ | ⟨label, hlabel, hfault, hvalue⟩
  · -- all candidates were offered, and the issue is concluded as it is known
    obtain ⟨closes, hconcluded⟩ := run_conclude_memory kind (issue.assign posted) faults
    obtain ⟨-, hstate, hexchanges⟩ := run_handleFetched_of_ok MemoryTracker.answer table kind issue
      _ rfl hvalue rfl
    rw [h.tracker] at hstate hexchanges
    -- The calls of the conclusion request no label.
    have hlabels := labels_of_closingCalls
      ((conclude_ensures kind (issue.assign posted)).run MemoryTracker.answer
        ⟨issue.assign posted, faults, []⟩).1
    rw [hstate, hexchanges]
    refine ⟨posted, left, closes, h.plan_eq, ?_, hconcluded.tracker, hconcluded.justified,
      fun hnone => ⟨hleft, (hconcluded.faultless hnone).1, ?_⟩⟩
    · rw [postedLabels_append, h.postedLabels_eq, hlabels.2, List.append_nil]
    · rw [requestedLabels_append, requestedLabels_of_calls h.calls, hlabels.1, hleft]
      simp
  · -- a label was refused, and the issue stays as it is known
    obtain ⟨-, hstate, hexchanges⟩ := run_handleFetched_of_error MemoryTracker.answer table kind
      issue _ rfl hvalue
    rw [hstate, hexchanges]
    have hfaults : faults ≠ [] := List.ne_nil_of_mem hfault
    exact ⟨posted, left, false, h.plan_eq, h.postedLabels_eq, h.tracker, by simp,
      fun hnone => absurd hnone hfaults⟩

/-- The run for an event at a tracker in memory. -/
def runInMemory (table : KeywordTable) (loader : EventLoader) (file : FileState)
    (tracker : MemoryTracker) : MemoryOutcome (Except (RunError MemoryError) Report) :=
  (runEvent table loader file).run MemoryTracker.answer tracker

/-- A run comes to what its outline comes to. -/
theorem runInMemory_outline (table : KeywordTable) (loader : EventLoader) (file : FileState)
    (tracker : MemoryTracker) :
    (runInMemory table loader file tracker).value
        = ((outline table (loader.subject file)).run MemoryTracker.answer tracker).value ∧
      (runInMemory table loader file tracker).state
        = ((outline table (loader.subject file)).run MemoryTracker.answer tracker).state ∧
      (runInMemory table loader file tracker).exchanges
        = ((outline table (loader.subject file)).run MemoryTracker.answer tracker).exchanges := by
  obtain ⟨hvalue, hstate, hexchanges⟩ := Dialogue.run_mute MemoryTracker.answer
    (runEvent table loader file) tracker
  rw [mute_runEvent] at hvalue hstate hexchanges
  exact ⟨hvalue.symm, hstate.symm, hexchanges.symm⟩

/-- **A run in memory adds what is planned**, up to the first call that is set to fail. -/
theorem runEvent_memory (table : KeywordTable) (loader : EventLoader) (file : FileState)
    (issue : Issue) (faults : List Fault) :
    ∃ posted left closes, RunAt (planned table (loader.subject file) issue)
      (closesAt (loader.subject file) issue) issue faults posted left closes
      (runInMemory table loader file ⟨issue, faults, []⟩).exchanges
      (runInMemory table loader file ⟨issue, faults, []⟩).state := by
  obtain ⟨-, hstate, hexchanges⟩ := runInMemory_outline table loader file ⟨issue, faults, []⟩
  rw [hstate, hexchanges]
  cases hsubject : loader.subject file with
  | error cause => exact ⟨[], _, false, RunAt.idle rfl rfl fun _ => ⟨rfl, rfl⟩⟩
  | ok subject =>
    obtain ⟨payload, number⟩ := subject
    rw [outline, Dialogue.exchanges_run_ask, Dialogue.run_ask, Outcome.after_state]
    -- The fetch fails because it is set to, finds the issue, or is about another one.
    by_cases hfetch : Fault.fetch ∈ faults
    · have hanswer : MemoryTracker.answer (.fetch number) ⟨issue, faults, []⟩
          = (.error (.refused .fetch), ⟨issue, faults, []⟩) := if_pos hfetch
      have hfaults : faults ≠ [] := List.ne_nil_of_mem hfetch
      rw [hanswer]
      exact ⟨[], _, false, RunAt.idle rfl rfl fun hnone => absurd hnone hfaults⟩
    · by_cases hnumber : number = issue.number
      · have hanswer : MemoryTracker.answer (.fetch number) ⟨issue, faults, []⟩
            = (.ok issue, ⟨issue, faults, []⟩) := by
          rw [MemoryTracker.answer, if_neg (by exact hfetch), MemoryTracker.comply, if_pos hnumber]
        rw [hanswer]
        obtain ⟨posted, left, closes, h⟩ :=
          run_handleFetched_memory table payload.kind issue faults
        rw [planned, if_pos hnumber, closesAt, hnumber, beq_self_eq_true, Bool.true_and]
        exact ⟨posted, left, closes, h.toAdd_eq, h.postedLabels_eq, h.tracker_eq, h.justified,
          h.faultless⟩
      · have hanswer : MemoryTracker.answer (.fetch number) ⟨issue, faults, []⟩
            = (.error (.noIssue number), ⟨issue, faults, []⟩) := by
          rw [MemoryTracker.answer, if_neg (by exact hfetch), MemoryTracker.comply, if_neg hnumber]
        rw [hanswer, planned, if_neg hnumber]
        refine ⟨[], _, false, RunAt.idle rfl rfl fun _ => ⟨rfl, ?_⟩⟩
        simp [closesAt, hnumber]

/-! ### Runs without faults -/

/-- The tracker adds the labels that it is asked to add. -/
theorem follows_labelExchanges {labels : List Label} (issue : Issue) (hnodup : labels.Nodup)
    (hnew : ∀ label ∈ labels, label ∉ issue.labels) :
    Answerer.Follows MemoryTracker.answer ⟨issue, [], []⟩ (labelExchanges issue labels)
      ⟨issue.assign labels, [], []⟩ := by
  induction labels generalizing issue with
  | nil =>
    rw [Issue.assign_nil]
    exact .nil _
  | cons label rest ih =>
    obtain ⟨hlabel, hrest⟩ := List.nodup_cons.1 hnodup
    have hanswer := answer_addLabel_new List.not_mem_nil
      (hnew label List.mem_cons_self) issue.number
    -- The labels that are left are still new once this one is assigned.
    have hlater := ih (issue.assign [label]) hrest fun other hmem => by
      have hother := hnew other (List.mem_cons_of_mem _ hmem)
      simp only [Issue.assign, List.mem_append, List.mem_singleton, not_or]
      exact ⟨hother, fun heq => hlabel (heq ▸ hmem)⟩
    rw [Issue.assign_assign, List.singleton_append] at hlater
    exact .cons hanswer hlater

/-- The tracker answers a run that no fault stops as it expects. -/
theorem follows_faultlessExchanges (table : KeywordTable) (kind : EventKind) (issue : Issue) :
    ∃ last, Answerer.Follows MemoryTracker.answer ⟨issue, [], []⟩
      (faultlessExchanges table kind issue) last := by
  have hfetch : MemoryTracker.answer (.fetch issue.number) ⟨issue, [], []⟩
      = (.ok issue, ⟨issue, [], []⟩) := by
    rw [MemoryTracker.answer, if_neg (by simp), MemoryTracker.comply, if_pos rfl]
  -- What is planned is new to the issue, and nothing is planned twice.
  have hlabels := follows_labelExchanges issue
    (nodup_plan (eventCandidates table kind issue) issue) fun _ => not_mem_labels_of_mem_plan
  obtain ⟨last, hclosing⟩ : ∃ last, Answerer.Follows MemoryTracker.answer
      ⟨issue.assign (plan (eventCandidates table kind issue) issue), [], []⟩
      (closingExchanges kind issue) last := by
    unfold closingExchanges
    split
    · exact ⟨_, .cons (if_neg (by simp)) (.cons (if_neg (by simp)) (.nil _))⟩
    · exact ⟨_, .nil _⟩
  exact ⟨last, .cons hfetch (hlabels.append hclosing)⟩

/-- **The run that no fault stops**: it succeeds, by the planned calls, and reports them. -/
theorem runEvent_faultless (table : KeywordTable) {loader : EventLoader} {file : FileState}
    {payload : Payload} {issue : Issue}
    (h : loader.subject file = .ok (payload, issue.number)) :
    (runInMemory table loader file ⟨issue, [], []⟩).value
        = .ok (faultlessReport table payload.kind issue) ∧
      (runInMemory table loader file ⟨issue, [], []⟩).exchanges
        = faultlessExchanges table payload.kind issue := by
  obtain ⟨last, hfollows⟩ := follows_faultlessExchanges table payload.kind issue
  obtain ⟨hvalue, -, hexchanges⟩ := (leads_runEvent table h).run hfollows
  exact ⟨hvalue, hexchanges⟩

/-- **The calls of such a run, and the tracker after it.** -/
theorem runInMemory_faultless (table : KeywordTable) {loader : EventLoader} {file : FileState}
    {payload : Payload} {issue : Issue}
    (h : loader.subject file = .ok (payload, issue.number)) :
    (runInMemory table loader file ⟨issue, [], []⟩).questions
        = .fetch issue.number
          :: ((plan (eventCandidates table payload.kind issue) issue).map (.addLabel issue.number)
            ++ if isAnswered payload.kind issue then closingCalls issue.number else []) ∧
      (runInMemory table loader file ⟨issue, [], []⟩).state
        = ⟨(issue.assign (plan (eventCandidates table payload.kind issue) issue)).closedIf
            (isAnswered payload.kind issue), [], []⟩ := by
  constructor
  · rw [Outcome.questions_eq_map_exchanges, (runEvent_faultless table h).2,
      calls_faultlessExchanges]
  · obtain ⟨posted, left, closes, hrun⟩ := runEvent_memory table loader file issue []
    obtain ⟨rfl, rfl, -⟩ := hrun.faultless rfl
    -- Without faults nothing is left of the plan.
    have hposted : posted = plan (eventCandidates table payload.kind issue) issue := by
      rw [← List.append_nil posted, ← hrun.toAdd_eq, h, planned, if_pos rfl]
    have hcloses : closesAt (loader.subject file) issue = isAnswered payload.kind issue := by
      rw [h, closesAt, beq_self_eq_true, Bool.true_and]
    rw [hrun.tracker_eq, hposted, hcloses]

end Triage
