import Triage.Proofs.Run.Memory

namespace Triage

/-!
# The course of a run

What becomes of a fetched issue is one of five courses, and only three of them answer it.

* `Course` — one constructor for each way in which the calls on an issue can go.
* `handleFetched_courses` — whatever the tracker answers, the issue takes one of them.
* `runEvent_ok_calls` — which calls a run has made that comes to a report.
* `runEvent_answers_iff` — a run answers exactly where the event says that an issue was opened, the
  texts show a signature and no label failed. Whether the fetched issue is a pull request does not
  matter.
-/

variable {ε : Type}

/-- The call answers the issue: it comments on it or closes it. -/
def TrackerCall.isAnswering : TrackerCall → Bool
  | .comment .. => true
  | .close _ => true
  | _ => false

/-- The calls that answer an issue, by what was done with it. -/
def answeringCalls : Disposition → Nat → List TrackerCall
  | .noAction, _ => []
  | .closedMissingHeaders, number => closingCalls number

/-- What the calls on a fetched issue come to: those that add labels, those that answer it, and the
result of the run. -/
inductive Course (kind : EventKind) (issue : Issue) (added : List (TrackerExchange ε)) :
    List (TrackerExchange ε) → Except (RunError ε) Report → Prop
  /-- A label is refused, and that is the end. -/
  | refused {cause : ε} (hadded : ∃ exchange ∈ added, Failed exchange) :
      Course kind issue added [] (.error (.tracker cause))
  /-- The issue is left open. -/
  | left {report : Report} (hadded : ∀ exchange ∈ added, Succeeded exchange)
      (hkind : isAnswered kind issue = false) (hnumber : report.number = issue.number)
      (hdisposition : report.disposition = .noAction) : Course kind issue added [] (.ok report)
  /-- The comment is refused. -/
  | unposted {cause : ε} (hadded : ∀ exchange ∈ added, Succeeded exchange)
      (hkind : isAnswered kind issue = true) :
      Course kind issue added [⟨.comment issue.number MissingHeaders.reply, .error cause⟩]
        (.error (.tracker cause))
  /-- The comment is posted, the closing is refused. -/
  | unclosed {cause : ε} (hadded : ∀ exchange ∈ added, Succeeded exchange)
      (hkind : isAnswered kind issue = true) :
      Course kind issue added [⟨.comment issue.number MissingHeaders.reply, .ok ()⟩,
        ⟨.close issue.number, .error cause⟩] (.error (.tracker cause))
  /-- The comment is posted and the issue closed. -/
  | closed {report : Report} (hadded : ∀ exchange ∈ added, Succeeded exchange)
      (hkind : isAnswered kind issue = true) (hnumber : report.number = issue.number)
      (hdisposition : report.disposition = .closedMissingHeaders) :
      Course kind issue added [⟨.comment issue.number MissingHeaders.reply, .ok ()⟩,
        ⟨.close issue.number, .ok ()⟩] (.ok report)

/-- Whatever the tracker answers, a fetched issue takes one of the courses, after calls that add
labels to it. -/
theorem handleFetched_courses (table : KeywordTable) (kind : EventKind) (issue : Issue) :
    (handleFetched table kind issue : TrackerDialogue ε (Except (RunError ε) Report)).Ensures
      fun exchanges result => ∃ (labels : List Label) (added answering : List (TrackerExchange ε)),
        exchanges = added ++ answering ∧
        added.map (·.1) = labels.map (.addLabel issue.number) ∧
        Course kind issue added answering result := by
  refine (offer_ensures _ issue).bind ?_
  rintro added ⟨labelled, last⟩ ⟨⟨labels, hcalls, -⟩, hlast, hadded⟩
  dsimp only at hlast hadded
  cases labelled with
  | error cause =>
    have hfailed : ∃ exchange ∈ added, Failed exchange := hadded.exists_failed_iff.1 ⟨cause, rfl⟩
    exact ⟨labels, added, [], rfl, hcalls, .refused hfailed⟩
  | ok _ =>
    -- Of the issue only the labels have changed, which no conclusion reads.
    have hnumber : last.number = issue.number := by rw [hlast]
    have hanswered : isAnswered kind last = isAnswered kind issue := by rw [hlast]; rfl
    show ((conclude kind).run last >>= fun concluded => .done (resultOf kind issue concluded)).Ensures _
    rw [run_conclude, hanswered, hnumber]
    by_cases h : isAnswered kind issue = true
    · rw [if_pos h]
      rintro (cause | _)
      · exact ⟨labels, added, _, rfl, hcalls, .unposted hadded h⟩
      · rintro (cause | _)
        · exact ⟨labels, added, _, rfl, hcalls, .unclosed hadded h⟩
        · exact ⟨labels, added, _, rfl, hcalls, .closed hadded h hnumber rfl⟩
    · rw [if_neg h]
      exact ⟨labels, added, _, rfl, hcalls, .left hadded (by simpa using h) hnumber rfl⟩

namespace Course

variable {kind : EventKind} {issue : Issue} {added answering : List (TrackerExchange ε)}
  {result : Except (RunError ε) Report}

/-- The issue is answered exactly on the kind of event and by the texts that call for it, unless a
label failed before. -/
theorem answering_ne_nil_iff (h : Course kind issue added answering result) :
    answering ≠ [] ↔ isAnswered kind issue = true ∧ ∀ exchange ∈ added, Succeeded exchange := by
  -- One course fails on a label, one has nothing to answer, and the other three answer.
  cases h with
  | refused hadded =>
    obtain ⟨exchange, hmem, hfailed⟩ := hadded
    refine iff_of_false (by simp) ?_
    rintro ⟨-, hall⟩
    exact not_failed_iff.2 (hall exchange hmem) hfailed
  | left _ hkind => simp [hkind]
  | unposted hadded hkind => exact iff_of_true (by simp) ⟨hkind, hadded⟩
  | unclosed hadded hkind => exact iff_of_true (by simp) ⟨hkind, hadded⟩
  | closed hadded hkind => exact iff_of_true (by simp) ⟨hkind, hadded⟩

/-- The calls that answer the issue do nothing else. -/
theorem isAnswering_of_mem (h : Course kind issue added answering result)
    {exchange : TrackerExchange ε} (hmem : exchange ∈ answering) : exchange.1.isAnswering = true := by
  cases h with
  | refused => simp at hmem
  | left => simp at hmem
  | unposted =>
    rw [List.mem_singleton] at hmem
    rw [hmem]
    rfl
  | unclosed =>
    rcases List.mem_pair.1 hmem with rfl | rfl <;> rfl
  | closed =>
    rcases List.mem_pair.1 hmem with rfl | rfl <;> rfl

/-- A run that comes to a report has made all its calls, and none failed. -/
theorem of_ok {report : Report} (h : Course kind issue added answering (.ok report)) :
    report.number = issue.number ∧
      answering.map (·.1) = answeringCalls report.disposition report.number ∧
      ∀ exchange ∈ added ++ answering, Succeeded exchange := by
  -- Only two of the courses come to a report.
  cases h with
  | left hadded _ hnumber hdisposition =>
    refine ⟨hnumber, ?_, ?_⟩
    · rw [hdisposition]
      rfl
    · rw [List.append_nil]
      exact hadded
  | closed hadded _ hnumber hdisposition =>
    refine ⟨hnumber, ?_, ?_⟩
    · rw [hdisposition, hnumber]
      rfl
    · have hanswering : ∀ exchange ∈ [(⟨.comment issue.number MissingHeaders.reply, .ok ()⟩ :
          TrackerExchange ε), ⟨.close issue.number, .ok ()⟩], Succeeded exchange := by
        simp [Succeeded]
      exact List.forall_mem_append.2 ⟨hadded, hanswering⟩

end Course

/-- A call that answers the issue adds no label. -/
theorem TrackerCall.label?_of_isAnswering {call : TrackerCall} (h : call.isAnswering = true) :
    call.label? = none := by
  cases call <;> first | rfl | exact nomatch h

/-- **A run that comes to a report** has fetched an issue, added labels to it and answered it as it
reports, and all these calls succeeded. -/
theorem runEvent_ok_calls (table : KeywordTable) (loader : EventLoader) (file : FileState) :
    (runEvent table loader file : TrackerDialogue ε (Except (RunError ε) Report)).Ensures
      fun exchanges result => ∀ report, result = .ok report →
        (∃ (number : Nat) (labels : List Label), exchanges.map (·.1)
          = .fetch number :: (labels.map (.addLabel report.number)
            ++ answeringCalls report.disposition report.number)) ∧
        ∀ exchange ∈ exchanges, Succeeded exchange := by
  rw [← Dialogue.ensures_mute, mute_runEvent]
  cases loader.subject file with
  | error cause => exact fun report h => nomatch h
  | ok subject =>
    obtain ⟨payload, number⟩ := subject
    rintro (cause | issue)
    · exact fun report h => nomatch h
    · refine (handleFetched_courses table payload.kind issue).mono ?_
      rintro exchanges result ⟨labels, added, answering, rfl, hadded, hcourse⟩ report rfl
      obtain ⟨hnumber, hanswering, hsucceeded⟩ := hcourse.of_ok
      refine ⟨⟨number, labels, ?_⟩, List.forall_mem_cons.2 ⟨⟨issue, rfl⟩, hsucceeded⟩⟩
      rw [List.map_cons, List.map_append, hadded, hanswering, hnumber]

/-! ### Which runs answer -/

/-- An issue was opened, as far as the event says: a member for it is enough. -/
theorem EventKind.ofParts_eq_newIssue_iff {action : Option String} {hasIssue hasPullRequest : Bool} :
    EventKind.ofParts action hasIssue hasPullRequest = .newIssue ↔
      action = some "opened" ∧ hasIssue = true := by
  unfold EventKind.ofParts
  split
  · simp_all
  · split <;> simp_all

/-- What is answered depends on the kind of event and the texts, once all labels were added. -/
theorem handleFetched_answers (table : KeywordTable) (kind : EventKind) (issue : Issue) :
    (handleFetched table kind issue : TrackerDialogue ε (Except (RunError ε) Report)).Ensures
      fun exchanges _ => (∃ exchange ∈ exchanges, exchange.1.isAnswering = true) ↔
        isAnswered kind issue = true ∧
          ∀ exchange ∈ exchanges, exchange.1.label? ≠ none → Succeeded exchange := by
  refine (handleFetched_courses table kind issue).mono ?_
  rintro exchanges result ⟨labels, added, answering, rfl, hcalls, hcourse⟩
  -- A call either adds a label or answers the issue.
  have hlabel : ∀ exchange ∈ added, exchange.1.label? ≠ none := by
    intro exchange hmem
    have hcall : exchange.1 ∈ labels.map (.addLabel issue.number) :=
      hcalls ▸ List.mem_map_of_mem hmem
    obtain ⟨label, -, hcall⟩ := List.mem_map.1 hcall
    rw [← hcall]
    exact Option.some_ne_none label
  constructor
  · rintro ⟨exchange, hmem, hanswering⟩
    have hmem : exchange ∈ answering := by
      rcases List.mem_append.1 hmem with hmem | hmem
      · exact absurd (TrackerCall.label?_of_isAnswering hanswering) (hlabel exchange hmem)
      · exact hmem
    obtain ⟨hanswered, hadded⟩ := hcourse.answering_ne_nil_iff.1 (List.ne_nil_of_mem hmem)
    refine ⟨hanswered, fun other hother hne => ?_⟩
    rcases List.mem_append.1 hother with hother | hother
    · exact hadded other hother
    · exact absurd (TrackerCall.label?_of_isAnswering (hcourse.isAnswering_of_mem hother)) hne
  · rintro ⟨hanswered, hall⟩
    have hadded : ∀ exchange ∈ added, Succeeded exchange := fun exchange hmem =>
      hall exchange (List.mem_append_left _ hmem) (hlabel exchange hmem)
    obtain ⟨exchange, hmem⟩ :=
      List.exists_mem_of_ne_nil _ (hcourse.answering_ne_nil_iff.2 ⟨hanswered, hadded⟩)
    exact ⟨exchange, List.mem_append_right _ hmem, hcourse.isAnswering_of_mem hmem⟩

/-- **Which runs answer.** Whatever the table, the event and the tracker, the run comments or closes
exactly if the event says that something was opened and carries an issue, the issue that was fetched
for it shows a signature, and no label failed. Nothing else is looked at: a pull request is left alone
because its event carries no issue, not because of what was fetched. -/
theorem runEvent_answers_iff {σ : Type} (table : KeywordTable) (loader : EventLoader)
    (file : FileState) (tracker : Answerer TrackerCall (TrackerReply ε) σ) (state : σ) :
    let run := (runEvent table loader file).run tracker state
    (∃ call ∈ run.questions, call.isAnswering = true) ↔
      ∃ payload number issue rest, loader.subject file = .ok (payload, number) ∧
        run.exchanges = ⟨.fetch number, .ok issue⟩ :: rest ∧
        payload.action? = some "opened" ∧ (payload.raw.get? "issue").isSome = true ∧
        (MissingHeaders.detect? issue.title issue.bodyText).isSome = true ∧
        ∀ exchange ∈ rest, exchange.1.label? ≠ none → Succeeded exchange := by
  intro run
  have h : (runEvent table loader file : TrackerDialogue ε _).Ensures fun exchanges _ =>
      (∃ exchange ∈ exchanges, exchange.1.isAnswering = true) ↔
        ∃ payload number issue rest, loader.subject file = .ok (payload, number) ∧
          exchanges = ⟨.fetch number, .ok issue⟩ :: rest ∧
          isAnswered payload.kind issue = true ∧
          ∀ exchange ∈ rest, exchange.1.label? ≠ none → Succeeded exchange := by
    rw [← Dialogue.ensures_mute, mute_runEvent]
    cases loader.subject file with
    | error cause => simp [outline]
    | ok subject =>
      obtain ⟨payload, number⟩ := subject
      rintro (cause | issue)
      · simp [TrackerCall.isAnswering]
      · refine (handleFetched_answers table payload.kind issue).mono ?_
        intro exchanges result hanswers
        -- The fetch itself answers nothing.
        have hfetch : (∃ exchange ∈ ⟨.fetch number, .ok issue⟩ :: exchanges,
            exchange.1.isAnswering = true)
              ↔ ∃ exchange ∈ exchanges, exchange.1.isAnswering = true := by
          rw [List.exists_mem_cons_iff]
          exact or_iff_right Bool.false_ne_true
        refine (hfetch.trans hanswers).trans ?_
        constructor
        · rintro ⟨hanswered, hall⟩
          exact ⟨payload, number, issue, exchanges, rfl, rfl, hanswered, hall⟩
        · rintro ⟨payload', number', issue', rest, hsubject, hexchanges, hanswered, hall⟩
          -- The event and the fetched issue are those of this run.
          cases hsubject
          cases hexchanges
          exact ⟨hanswered, hall⟩
  have hrun := h.run tracker state
  rw [Outcome.questions_eq_map_exchanges]
  simp only [isAnswered_iff, Payload.kind, EventKind.ofParts_eq_newIssue_iff, and_assoc] at hrun
  rw [← hrun]
  simp only [List.mem_map, exists_exists_and_eq_and, run]

/-- A pull request whose title shows a signature. -/
def headersRequest : Issue where
  id := 91
  number := 8
  title := "missing Python.h"
  body := none
  state := "open"
  labels := []
  pullRequest := some (.object [])

/-- The event that it was opened, with a member for an issue that is null. -/
def nullIssueEvent : Payload :=
  ⟨.object [("action", .string "opened"), ("issue", .null),
    ("pull_request", .object [("number", .ofNat 8)])]⟩

/-- The event that it was opened, described as an issue. -/
def requestAsIssueEvent : Payload :=
  ⟨.object [("action", .string "opened"), ("issue", .object [("number", .ofNat 8)])]⟩

/-- That pull request is answered and closed on either event. -/
theorem headersRequest_answered :
    headersRequest.isPullRequest = true ∧ ∀ payload ∈ [nullIssueEvent, requestAsIssueEvent],
      (runInMemory .builtin (.ofPayload payload) .absent ⟨headersRequest, [], []⟩).questions
        = [.fetch 8, .comment 8 MissingHeaders.reply, .close 8] := by
  decide +kernel

end Triage
