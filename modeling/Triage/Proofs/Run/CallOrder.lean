import Triage.Proofs.Keyword.Built
import Triage.Proofs.Run.Outline
import Triage.Tracker.Memory
import Mathlib.Tactic.Common

namespace Triage

/-!
# The order of calls in a run

Whatever the tracker answers, a run fetches, labels, comments and closes, in this order, and ends with
the first call that fails.

* `Succeeded`, `Failed`, `EndsAtFailure` — a call came to something or not, and a failure is the last
  thing that happens.
* `FollowUp` — what the calls after the fetch may be.
* `RunShape` — what the calls and the result of a run are.
* `runEvent_shape` — every run has this shape, for every event, table and tracker.
-/

variable {ε α β : Type}

/-- A call to a tracker with its reply. -/
abbrev TrackerExchange (ε : Type) := Exchange TrackerCall (TrackerReply ε)

/-- The call was answered. -/
def Succeeded (exchange : TrackerExchange ε) : Prop := ∃ answer, exchange.2 = .ok answer

/-- The call failed. -/
def Failed (exchange : TrackerExchange ε) : Prop := ∃ cause, exchange.2 = .error cause

/-- A call that did not fail was answered. -/
theorem not_failed_iff {exchange : TrackerExchange ε} : ¬ Failed exchange ↔ Succeeded exchange := by
  obtain ⟨call, reply⟩ := exchange
  cases reply <;> simp [Failed, Succeeded]

/-- All calls were answered, or the last one failed and its failure is the result. -/
def EndsAtFailure (exchanges : List (TrackerExchange ε)) : Except ε α → Prop
  | .ok _ => ∀ exchange ∈ exchanges, Succeeded exchange
  | .error cause => ∃ init last, exchanges = init ++ [last] ∧
      (∀ exchange ∈ init, Succeeded exchange) ∧ last.2 = .error cause

namespace EndsAtFailure

variable {exchanges first : List (TrackerExchange ε)} {result : Except ε α}

/-- Calls that were answered may come before. -/
theorem append (h : EndsAtFailure exchanges result)
    (hfirst : ∀ exchange ∈ first, Succeeded exchange) : EndsAtFailure (first ++ exchanges) result := by
  cases result with
  | ok value => exact List.forall_mem_append.2 ⟨hfirst, h⟩
  | error cause =>
    obtain ⟨init, last, rfl, hinit, hlast⟩ := h
    exact ⟨first ++ init, last, by simp, List.forall_mem_append.2 ⟨hfirst, hinit⟩, hlast⟩

/-- A call that was answered may come before. -/
theorem cons {call : TrackerCall} {answer : call.Answer} (h : EndsAtFailure exchanges result) :
    EndsAtFailure (⟨call, .ok answer⟩ :: exchanges) result := by
  have hcall : ∀ exchange ∈ [(⟨call, .ok answer⟩ : TrackerExchange ε)], Succeeded exchange := by
    intro exchange hmem
    rw [List.mem_singleton] at hmem
    subst hmem
    exact ⟨answer, rfl⟩
  exact h.append hcall

/-- What a result without failure holds does not matter. -/
theorem map (f : α → β) (h : EndsAtFailure exchanges result) :
    EndsAtFailure exchanges (result.map f) := by
  cases result <;> exact h

/-- A call that fails may be the only one. -/
theorem failure (call : TrackerCall) (cause : ε) :
    EndsAtFailure [⟨call, .error cause⟩] (.error cause : Except ε α) :=
  ⟨[], _, rfl, by simp, rfl⟩

/-- Nothing follows a call that failed. -/
theorem succeeded_of_mem_dropLast (h : EndsAtFailure exchanges result) :
    ∀ exchange ∈ exchanges.dropLast, Succeeded exchange := by
  cases result with
  | ok value => exact fun exchange hmem => h exchange (List.dropLast_subset _ hmem)
  | error cause =>
    obtain ⟨init, last, rfl, hinit, -⟩ := h
    simpa using hinit

/-- The result is a failure exactly when some call failed. -/
theorem exists_failed_iff (h : EndsAtFailure exchanges result) :
    (∃ cause, result = .error cause) ↔ ∃ exchange ∈ exchanges, Failed exchange := by
  cases result with
  | ok value =>
    have hnone : ¬ ∃ exchange ∈ exchanges, Failed exchange := by
      rintro ⟨exchange, hmem, hfailed⟩
      exact not_failed_iff.2 (h exchange hmem) hfailed
    simp [hnone]
  | error cause =>
    obtain ⟨init, last, rfl, -, hlast⟩ := h
    exact iff_of_true ⟨cause, rfl⟩ ⟨last, by simp, cause, hlast⟩

end EndsAtFailure

/-! ### Labelling -/

/-- Offering only adds labels of candidates to the issue, and of the issue only the labels change. -/
theorem offer_ensures (cs : List Candidate) (issue : Issue) :
    (offer cs issue : TrackerDialogue ε (Except ε Unit × Issue)).Ensures fun exchanges result =>
      (∃ labels : List Label, exchanges.map (·.1) = labels.map (.addLabel issue.number) ∧
        ∀ label ∈ labels, label ∈ cs.map (·.label)) ∧
      result.2 = { issue with labels := result.2.labels } ∧ EndsAtFailure exchanges result.1 := by
  induction cs generalizing issue with
  | nil => exact ⟨⟨[], by simp⟩, rfl, by simp [EndsAtFailure]⟩
  | cons candidate rest ih =>
    unfold offer
    split
    · -- The candidate is due: whatever is replied, its label is the first one that is asked for.
      intro reply
      cases reply with
      | error cause =>
        exact ⟨⟨[candidate.label], by simp⟩, rfl, EndsAtFailure.failure _ cause⟩
      | ok labels =>
        refine (ih { issue with labels := withLabel candidate.label labels }).mono ?_
        rintro exchanges result ⟨⟨added, hcalls, hadded⟩, hissue, hends⟩
        refine ⟨⟨candidate.label :: added, by simp [hcalls], ?_⟩, hissue, hends.cons⟩
        intro label hlabel
        rcases List.mem_cons.1 hlabel with rfl | hlabel
        · simp
        · exact List.mem_cons_of_mem _ (hadded label hlabel)
    · -- It is not due: nothing is asked for it.
      refine (ih issue).mono ?_
      rintro exchanges result ⟨⟨added, hcalls, hadded⟩, hissue, hends⟩
      exact ⟨⟨added, hcalls, fun label h => List.mem_cons_of_mem _ (hadded label h)⟩, hissue, hends⟩

/-- A candidate stands for a label of the table, or for one that a line of the template can name. -/
theorem label_mem_of_mem_candidates {table : KeywordTable} (built : table.IsBuilt)
    {title body : String} {candidate : Candidate} (h : candidate ∈ candidates table title body) :
    candidate.label ∈ table.labels ∨ candidate.label ∈ Template.typeNames := by
  have htext : ∀ text, candidate ∈ textCandidates table text → candidate.label ∈ table.labels := by
    intro text htext
    obtain ⟨hit, hhit, rfl⟩ := List.mem_map.1 htext
    exact KeywordTable.label_mem_labels_of_mem_classify hhit
  simp only [candidates, bodyCandidates, fieldCandidates, List.mem_append] at h
  -- By where the candidate comes from: the title or one of three lines.
  rcases h with h | h | h | h
  · exact .inl (htext _ h)
  · split at h
    · simp at h
    · exact .inl (htext _ h)
  · split at h
    · simp at h
    · -- The line on bug fixes names no label itself, so the table has to have both.
      rw [List.mem_singleton] at h
      have hkinds : "bug" ∈ table.labels ∧ "enhancement" ∈ table.labels := by
        rw [built.labels_eq]
        decide
      subst h
      unfold Template.bugFixLabel
      split
      · exact .inl hkinds.1
      · exact .inl hkinds.2
  · split at h
    · simp at h
    · obtain ⟨label, hlabel, rfl⟩ := List.mem_map.1 h
      exact .inr (List.mem_filter.1 hlabel).1

/-! ### Answering -/

/-- An issue is answered and then closed, if it is answered at all. -/
theorem conclude_ensures (kind : EventKind) (issue : Issue) :
    ((conclude kind : TriageStep ε Disposition).run issue).Ensures fun exchanges result =>
      exchanges.map (·.1) <+: closingCalls issue.number ∧
      (exchanges ≠ [] → isAnswered kind issue = true) ∧
      (∀ disposition, result.1 = .ok disposition →
        if isAnswered kind issue then
          exchanges.map (·.1) = closingCalls issue.number ∧ disposition = .closedMissingHeaders
        else exchanges = [] ∧ disposition = .noAction) ∧
      result.2 = issue ∧ EndsAtFailure exchanges result.1 := by
  rw [run_conclude]
  by_cases h : isAnswered kind issue = true
  · rw [if_pos h]
    simp only [if_pos h]
    -- The comment is refused or posted, and then the closing.
    rintro (cause | _)
    · exact ⟨by simp [closingCalls], fun _ => h, by simp, rfl, EndsAtFailure.failure _ cause⟩
    · rintro (cause | _)
      · exact ⟨by simp [closingCalls], fun _ => h, by simp, rfl, (EndsAtFailure.failure _ cause).cons⟩
      · refine ⟨by simp [closingCalls], fun _ => h, ?_, rfl, ?_⟩
        · rintro disposition ⟨⟩
          exact ⟨rfl, rfl⟩
        · simp [EndsAtFailure, Succeeded]
  · rw [if_neg h]
    simp only [if_neg h]
    exact ⟨by simp, by simp, fun disposition h => ⟨rfl, (Except.ok.inj h).symm⟩, rfl,
      by simp [EndsAtFailure]⟩

/-! ### The whole run -/

/-- What the calls after the fetch may be: labels, then what answers and closes. -/
structure FollowUp (table : KeywordTable) (kind : EventKind) (issue : Issue) (labels : List Label)
    (closing : List TrackerCall) (result : Except (RunError ε) Report) : Prop where
  /-- Labels are added on events that are handled. -/
  handled : labels ≠ [] → kind.isHandled = true
  /-- All labels are ones of the table or of the type line. -/
  vocabulary : ∀ label ∈ labels, label ∈ table.labels ∨ label ∈ Template.typeNames
  /-- The comment comes first and the closing second, if they come. -/
  order : closing <+: closingCalls issue.number
  /-- They come only for a new issue that shows a signature. -/
  justified : closing ≠ [] → kind = .newIssue ∧
    (MissingHeaders.detect? issue.title issue.bodyText).isSome = true
  /-- A run that succeeds has answered and closed if that was called for, and reports it. -/
  completed : ∀ report, result = .ok report →
    if kind = .newIssue ∧ (MissingHeaders.detect? issue.title issue.bodyText).isSome = true then
      closing = closingCalls issue.number ∧ report.disposition = .closedMissingHeaders
    else closing = [] ∧ report.disposition = .noAction

/-- What the calls and the result of a run are, by what its event says. -/
structure RunShape (table : KeywordTable) (subject : Except EventError (Payload × Nat))
    (exchanges : List (TrackerExchange ε)) (result : Except (RunError ε) Report) : Prop where
  /-- Without an event or a number there are no calls. -/
  silent : ∀ cause, subject = .error cause → exchanges = []
  /-- Else the issue is fetched, and all further calls are about the issue that came. -/
  calls : ∀ payload number, subject = .ok (payload, number) → ∃ fetched rest,
    exchanges = ⟨.fetch number, fetched⟩ :: rest ∧ ∀ issue, fetched = .ok issue →
      ∃ labels closing, rest.map (·.1) = labels.map (.addLabel issue.number) ++ closing ∧
        FollowUp table payload.kind issue labels closing result
  /-- Nothing follows a call that failed. -/
  stops : ∀ exchange ∈ exchanges.dropLast, Succeeded exchange
  /-- The run fails exactly if the event, the number or a call does. -/
  fails_iff : (∃ cause, result = .error cause) ↔
    (∃ cause, subject = .error cause) ∨ ∃ exchange ∈ exchanges, Failed exchange

/-- What answering an issue on an event depends on. -/
theorem isAnswered_iff {kind : EventKind} {issue : Issue} :
    isAnswered kind issue = true ↔
      kind = .newIssue ∧ (MissingHeaders.detect? issue.title issue.bodyText).isSome = true := by
  simp [isAnswered]

/-- What is put up on an event is put up because the event is handled, and is known. -/
theorem known_of_mem_eventCandidates {table : KeywordTable} (built : table.IsBuilt)
    {kind : EventKind} {issue : Issue} {label : Label}
    (h : label ∈ (eventCandidates table kind issue).map (·.label)) :
    kind.isHandled = true ∧ (label ∈ table.labels ∨ label ∈ Template.typeNames) := by
  unfold eventCandidates at h
  split at h
  · obtain ⟨candidate, hcandidate, rfl⟩ := List.mem_map.1 h
    exact ⟨‹_›, label_mem_of_mem_candidates built hcandidate⟩
  · simp at h

/-- What is done with a fetched issue is a follow-up, and ends with the first call that fails. -/
theorem handleFetched_ensures {table : KeywordTable} (built : table.IsBuilt) (kind : EventKind)
    (issue : Issue) :
    (handleFetched table kind issue : TrackerDialogue ε (Except (RunError ε) Report)).Ensures
      fun exchanges result =>
        (∃ labels closing, exchanges.map (·.1) = labels.map (.addLabel issue.number) ++ closing ∧
          FollowUp table kind issue labels closing result) ∧
        ∃ concluded : Except ε Unit, EndsAtFailure exchanges concluded ∧
          ((∃ cause, result = .error cause) ↔ ∃ cause, concluded = .error cause) := by
  refine (offer_ensures _ issue).bind ?_
  rintro added ⟨labelled, last⟩ ⟨⟨labels, hcalls, hlabels⟩, hlast, hadded⟩
  dsimp only at hlast hadded
  have hknown : ∀ label ∈ labels, kind.isHandled = true ∧
      (label ∈ table.labels ∨ label ∈ Template.typeNames) := fun label hlabel =>
    known_of_mem_eventCandidates built (hlabels label hlabel)
  have hhandled : labels ≠ [] → kind.isHandled = true := by
    intro hne
    obtain ⟨label, hlabel⟩ := List.exists_mem_of_ne_nil labels hne
    exact (hknown label hlabel).1
  cases labelled with
  | error cause =>
    -- A label failed, so nothing is concluded.
    refine ⟨⟨labels, [], by simpa using hcalls, ?_⟩, .error cause, by simpa using hadded,
      by simp [resultOf]⟩
    exact ⟨hhandled, fun label h => (hknown label h).2, by simp, by simp,
      fun report h => nomatch h⟩
  | ok _ =>
    refine (conclude_ensures kind last).bind ?_
    rintro closing ⟨concluded, final⟩ ⟨horder, hjustified, hcompleted, -, hends⟩
    -- Of the issue only the labels have changed, which no conclusion reads.
    rw [hlast] at horder hjustified hcompleted
    have hdone : EndsAtFailure (added ++ closing) concluded := hends.append hadded
    refine ⟨⟨labels, closing.map (·.1), by simp [hcalls], ?_⟩, concluded.map fun _ => (),
      by simpa using hdone.map _, ?_⟩
    · refine ⟨hhandled, fun label h => (hknown label h).2, horder, ?_, ?_⟩
      · intro hne
        exact isAnswered_iff.1 (hjustified (by simpa using hne))
      · intro report hreport
        cases concluded with
        | error cause => exact nomatch hreport
        | ok disposition =>
          -- The report has the disposition of the triage, whatever the labels.
          have hreport : report.disposition = disposition := by
            cases hreport
            rfl
          have := hcompleted disposition rfl
          simp only [isAnswered_iff] at this
          rw [hreport]
          split at this
          · rw [if_pos ‹_›]
            exact this
          · rw [if_neg ‹_›]
            exact ⟨by simp [this.1], this.2⟩
    · cases concluded <;> simp [resultOf, Except.map]

/-- **The shape of every run.** Whatever the event, the table and the tracker, the calls of a run are
a fetch, then labels, then a comment and a closing where these are called for; nothing follows a
failure, and the run fails exactly if something failed. -/
theorem runEvent_shape {σ : Type} {table : KeywordTable} (built : table.IsBuilt)
    (loader : EventLoader) (file : FileState) (tracker : Answerer TrackerCall (TrackerReply ε) σ)
    (state : σ) :
    RunShape table (loader.subject file) ((runEvent table loader file).run tracker state).exchanges
      ((runEvent table loader file).run tracker state).value := by
  have h : (runEvent table loader file : TrackerDialogue ε _).Ensures
      (RunShape table (loader.subject file)) := by
    rw [← Dialogue.ensures_mute, mute_runEvent]
    cases hsubject : loader.subject file with
    | error cause => exact ⟨by simp, by simp, by simp, by simp⟩
    | ok subject =>
      obtain ⟨payload, number⟩ := subject
      rintro (cause | issue)
      · exact ⟨by simp, by simp, by simp, by simp [Failed]⟩
      · refine (handleFetched_ensures built payload.kind issue).mono ?_
        rintro exchanges result ⟨hcalls, concluded, hends, hresult⟩
        -- The fetch was answered, so a failure can only come after it.
        have hall : EndsAtFailure (⟨.fetch number, .ok issue⟩ :: exchanges) concluded := hends.cons
        refine ⟨by simp, ?_, hall.succeeded_of_mem_dropLast, ?_⟩
        · rintro payload' number' heq
          obtain ⟨rfl, rfl⟩ := Prod.mk.inj (Except.ok.inj heq)
          refine ⟨.ok issue, exchanges, rfl, ?_⟩
          rintro issue' ⟨⟩
          exact hcalls
        · rw [hresult, hall.exists_failed_iff]
          simp
  exact h.run tracker state

/-- An issue that reports missing headers on a platform. -/
def headersReport : Issue where
  id := 90
  number := 7
  title := "missing Python.h on Linux"
  body := none
  state := "open"
  labels := []
  pullRequest := none

/-- The event that such an issue was opened. -/
def headersEvent : Payload :=
  ⟨.object [("action", .string "opened"), ("issue", .object [("number", .ofNat 7)])]⟩

/-- The run on such an issue, at a tracker that refuses to close it. -/
def headersRun : Outcome Note TrackerCall (TrackerReply MemoryError) MemoryTracker
    (Except (RunError MemoryError) Report) :=
  (runEvent .builtin (.ofPayload headersEvent) .absent).run MemoryTracker.answer
    ⟨headersReport, [.close], []⟩

/-- That run has the shape, and makes every kind of call. -/
theorem runEvent_shape_of_headersReport :
    KeywordTable.builtin.IsBuilt ∧
      RunShape .builtin (.ok (headersEvent, 7)) headersRun.exchanges headersRun.value ∧
      headersRun.questions = .fetch 7 :: .addLabel 7 "linux" :: closingCalls 7 :=
  ⟨.builtin, runEvent_shape .builtin (.ofPayload headersEvent) .absent MemoryTracker.answer
    ⟨headersReport, [.close], []⟩, by decide +kernel⟩

end Triage
