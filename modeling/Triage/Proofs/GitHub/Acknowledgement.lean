import Triage.Proofs.Dialogue.Handling
import Triage.Proofs.GitHub.Requests
import Triage.Proofs.GitHub.Retries
import Triage.Proofs.Run.Courses

namespace Triage.GitHub

open Http Json

/-!
# Acknowledged calls

A call succeeds only if the server has said so: the last request that was sent for it was answered
with success, and the body of the answer says what the call asks for.

* `Attests` — what the body of an answer has to say, by the call.
* `IsAcknowledged` — the requests that were sent for a call, the last of them answered like this.
* `IsSentFor` — the requests that are sent for a call, whatever comes of it.
* `attempts_ensures`, `answer_ensures` — one request and one call, whatever is answered.
* `Acknowledged` — several calls in turn; `acknowledged_of_unfolds` — the calls of a program.
* `runBot_ok_acknowledged` — a report is backed by the answers to the calls that it reports.
-/

/-- A request that was sent, with what came of it. -/
abbrev SentRequest := Exchange Sending fun _ => Delivery

/-- The body says that the call was carried out: it describes an issue, all labels or a comment, and
an issue that was to be closed is closed. -/
def Attests : TrackerCall → List UInt8 → Prop
  | .fetch _, body => ∃ issue, (documentOf? body).bind Issue.ofDocument? = some issue
  | .addLabel .., body => ∃ labels, (documentOf? body).bind labelsOfDocument? = some labels
  | .comment .., body => ∃ comment, (documentOf? body).bind Comment.ofDocument? = some comment
  | .close _, body =>
    ∃ issue, (documentOf? body).bind Issue.ofDocument? = some issue ∧ issue.state = "closed"

/-- Requests that are numbered from zero are each the one request, with a number. -/
theorem exists_numbered_of_mem {request : Request} {sent : List SentRequest}
    (h : sent.map (·.1.request) = (List.range sent.length).map (numbered request))
    {exchange : SentRequest} (hmem : exchange ∈ sent) :
    ∃ earlier, exchange.1.request = numbered request earlier := by
  -- Numbered in order, each has a number of its own.
  have hrequests : exchange.1.request ∈ (List.range sent.length).map (numbered request) :=
    h ▸ List.mem_map_of_mem hmem
  obtain ⟨earlier, -, hearlier⟩ := List.mem_map.1 hrequests
  exact ⟨earlier, hearlier.symm⟩

/-- The request of a call was sent, and again as long as what came of it was transient. The last time
it was answered with success and a body that says that the call was carried out. -/
structure IsAcknowledged (client : Client) (call : TrackerCall) (sent : List SentRequest) : Prop where
  request : ∃ request, client.request? call = some request ∧
    sent.map (·.1.request) = (List.range sent.length).map (numbered request)
  answered : ∃ earlier last, sent = earlier ++ [last] ∧
    (∀ exchange ∈ earlier, isTransient exchange.2 = true) ∧
    ∃ status headers body, last.2 = .answered status headers body ∧ isSuccess status = true ∧
      Attests call body

/-- What was sent for a call: nothing if it has no request, else its request, numbered from zero. -/
inductive IsSentFor (client : Client) (call : TrackerCall) : List SentRequest → Prop
  | unsent (hrequest : client.request? call = none) : IsSentFor client call []
  | sent {request : Request} {sent : List SentRequest}
      (hrequest : client.request? call = some request) (hne : sent ≠ [])
      (hnumbered : sent.map (·.1.request) = (List.range sent.length).map (numbered request)) :
      IsSentFor client call sent

/-- What was sent for a call is the request of that call, with a number. -/
theorem IsSentFor.exists_request_of_mem {client : Client} {call : TrackerCall}
    {sent : List SentRequest} (h : IsSentFor client call sent) {exchange : SentRequest}
    (hmem : exchange ∈ sent) :
    ∃ request earlier, client.request? call = some request ∧
      exchange.1.request = numbered request earlier := by
  cases h with
  | unsent => exact absurd hmem List.not_mem_nil
  | @sent request _ hrequest _ hnumbered =>
    obtain ⟨earlier, hearlier⟩ := exists_numbered_of_mem hnumbered hmem
    exact ⟨request, earlier, hrequest, hearlier⟩

/-- What was sent for a call, and what the call has come to: it succeeds only if it was
acknowledged. -/
structure IsAnswered (client : Client) (call : TrackerCall) (sent : List SentRequest)
    (reply : TrackerReply CallError call) : Prop where
  sentFor : IsSentFor client call sent
  acknowledged : ∀ answer, reply = .ok answer → IsAcknowledged client call sent

/-! ### One call -/

/-- The requests of the attempts are numbered from that of the first one, all but the last come to
something transient, and the last one settles the result. -/
theorem attempts_ensures (manner : Manner) (name : Operation) (request : Request)
    (spare earlier wait : Nat) :
    (attempts manner name request spare earlier wait).Ensures fun sent result =>
      sent.map (·.1.request) = (List.range' earlier sent.length).map (numbered request) ∧
        ∃ init last, sent = init ++ [last] ∧ (∀ exchange ∈ init, isTransient exchange.2 = true) ∧
          result = settle name last.2 := by
  induction spare generalizing earlier wait with
  | zero =>
    intro delivery
    exact ⟨rfl, [], _, rfl, by simp, rfl⟩
  | succ spare ih =>
    intro delivery
    dsimp only
    by_cases htransient : isTransient delivery = true
    · -- Another attempt follows, and its number is the next one.
      rw [if_pos htransient]
      refine (ih (earlier + 1) _).mono ?_
      rintro sent result ⟨hrequests, init, last, rfl, hinit, hresult⟩
      refine ⟨?_, _ :: init, last, rfl, List.forall_mem_cons.2 ⟨htransient, hinit⟩, hresult⟩
      rw [List.map_cons, hrequests, List.length_cons, List.range'_succ, List.map_cons]
      rfl
    · -- what came of this attempt is final
      rw [if_neg htransient]
      exact ⟨rfl, [], _, rfl, by simp, rfl⟩

/-- A request is settled with a body exactly by an answer that reports success and has that body. -/
theorem settle_eq_ok_iff {name : Operation} {delivery : Delivery} {body : List UInt8} :
    settle name delivery = .ok body ↔
      ∃ status headers, delivery = .answered status headers body ∧ isSuccess status = true := by
  cases delivery with
  | answered status headers answer =>
    by_cases h : isSuccess status = true
    · simp [settle, h]
    · simp [settle, h]
  | refused => simp [settle]
  | timedOut => simp [settle]
  | dropped => simp [settle]

/-- To word an error makes no success of it. -/
theorem eq_ok_of_mapError_eq_ok {ε ε' α : Type} {f : ε → ε'} {result : Except ε α} {value : α}
    (h : result.mapError f = .ok value) : result = .ok value := by
  cases result with
  | error cause => cases h
  | ok _ => exact congrArg Except.ok (Except.ok.inj h)

/-- A call has its answer exactly if that could be decoded. -/
theorem decoded_eq_ok_iff {α : Type} {call : TrackerCall} {read : Option α} {value : α} :
    decoded call read = .ok value ↔ read = some value := by
  cases read <;> simp [decoded]

/-- Nothing is sent to read an answer, and only an answer that says so makes the call succeed. -/
theorem read_ensures (call : TrackerCall) (body : List UInt8) :
    (read call body).Ensures fun sent reply =>
      sent = [] ∧ ∀ answer, reply = .ok answer → Attests call body := by
  cases call with
  | fetch number => exact ⟨rfl, fun issue h => ⟨issue, decoded_eq_ok_iff.1 h⟩⟩
  | addLabel number label => exact ⟨rfl, fun labels h => ⟨labels, decoded_eq_ok_iff.1 h⟩⟩
  | comment number text =>
    simp only [read]
    cases hcomment : (documentOf? body).bind Comment.ofDocument? with
    | none => exact ⟨rfl, fun _ h => by cases h⟩
    | some comment => exact ⟨rfl, fun _ _ => ⟨comment, hcomment⟩⟩
  | close number =>
    simp only [read]
    cases hissue : (documentOf? body).bind Issue.ofDocument? with
    | none => exact ⟨rfl, fun _ h => by cases h⟩
    | some issue =>
      refine ⟨rfl, fun _ h => ⟨issue, hissue, ?_⟩⟩
      by_contra hopen
      rw [if_neg hopen] at h
      cases h

/-- **One call**, whatever is answered. -/
theorem answer_ensures (client : Client) : HandlerEnsures client.answer (IsAnswered client) := by
  refine ⟨fun call => ?_⟩
  cases hrequest : client.request? call with
  | none =>
    rw [Client.answer, hrequest]
    exact ⟨.unsent hrequest, fun answer h => by cases h⟩
  | some request =>
    rw [answer_eq_of_request? request hrequest]
    refine (attempts_ensures client.manner (operation call) request _ 0 0).bind ?_
    rintro sent settled ⟨hrequests, init, last, rfl, hinit, hsettled⟩
    have hnumbered : (init ++ [last]).map (·.1.request)
        = (List.range (init ++ [last]).length).map (numbered request) := by
      rw [hrequests, List.range_eq_range']
    have hsent : IsSentFor client call (init ++ [last]) :=
      .sent hrequest (List.append_ne_nil_of_right_ne_nil _ (List.cons_ne_nil _ _)) hnumbered
    -- Either the attempts have failed and nothing is read, or the last one has a body to read.
    cases settled with
    | error cause =>
      refine ⟨?_, fun answer h => by cases h⟩
      rw [List.append_nil]
      exact hsent
    | ok body =>
      obtain ⟨status, headers, hlast, hsuccess⟩ := settle_eq_ok_iff.1 hsettled.symm
      refine (read_ensures call body).mono ?_
      rintro later reply ⟨rfl, hattests⟩
      rw [List.append_nil]
      exact ⟨hsent, fun answer hreply => ⟨⟨request, hrequest, hnumbered⟩, init, last, rfl, hinit,
        status, headers, body, hlast, hsuccess, hattests answer hreply⟩⟩

/-! ### Several calls -/

/-- The requests of each of the calls were sent in turn, and each call was acknowledged. -/
inductive Acknowledged (client : Client) : List TrackerCall → List SentRequest → Prop
  | nil : Acknowledged client [] []
  | cons {call : TrackerCall} {calls : List TrackerCall} {part sent : List SentRequest}
      (hcall : IsAcknowledged client call part) (hlater : Acknowledged client calls sent) :
      Acknowledged client (call :: calls) (part ++ sent)

/-- The calls of a program that all succeeded are acknowledged. -/
theorem acknowledged_of_unfolds {client : Client} {exchanges : List (TrackerExchange CallError)}
    {sent : List SentRequest}
    (h : Unfolds (IsAnswered client) exchanges sent)
    (hsucceeded : ∀ exchange ∈ exchanges, Succeeded exchange) :
    Acknowledged client (exchanges.map (·.1)) sent := by
  induction h with
  | nil => exact .nil
  | cons hpart hlater ih =>
    obtain ⟨⟨answer, hanswer⟩, hrest⟩ := List.forall_mem_cons.1 hsucceeded
    exact .cons (hpart.acknowledged answer hanswer) (ih hrest)

namespace Acknowledged

variable {client : Client} {calls : List TrackerCall} {sent : List SentRequest}

/-- Every request was sent for one of the calls. -/
theorem exists_call_of_mem (h : Acknowledged client calls sent) {exchange : SentRequest}
    (hmem : exchange ∈ sent) :
    ∃ call ∈ calls, ∃ request earlier, client.request? call = some request ∧
      exchange.1.request = numbered request earlier := by
  induction h with
  | nil => exact absurd hmem List.not_mem_nil
  | @cons call calls part sent hcall hlater ih =>
    rcases List.mem_append.1 hmem with hmem | hmem
    · obtain ⟨request, hrequest, hsent⟩ := hcall.request
      obtain ⟨earlier, hearlier⟩ := exists_numbered_of_mem hsent hmem
      exact ⟨call, List.mem_cons_self, request, earlier, hrequest, hearlier⟩
    · obtain ⟨other, hother, hexists⟩ := ih hmem
      exact ⟨other, List.mem_cons_of_mem _ hother, hexists⟩

/-- The last request was sent for the last call, and acknowledged it. -/
theorem exists_last (h : Acknowledged client calls sent) {call : TrackerCall}
    (hcall : calls.getLast? = some call) :
    ∃ earlier last request count, sent = earlier ++ [last] ∧ client.request? call = some request ∧
      last.1.request = numbered request count ∧
      ∃ status headers body, last.2 = .answered status headers body ∧ isSuccess status = true ∧
        Attests call body := by
  induction h with
  | nil => cases hcall
  | @cons first calls part sent hfirst hlater ih =>
    -- Only the part of the last call matters; the others come before it.
    cases calls with
    | nil =>
      cases hlater
      cases hcall
      obtain ⟨request, hrequest, hsent⟩ := hfirst.request
      obtain ⟨earlier, last, rfl, -, hanswered⟩ := hfirst.answered
      obtain ⟨count, hcount⟩ := exists_numbered_of_mem hsent
        (List.mem_append_right earlier List.mem_cons_self)
      exact ⟨earlier, last, request, count, List.append_nil _, hrequest, hcount, hanswered⟩
    | cons second others =>
      rw [List.getLast?_cons_cons] at hcall
      obtain ⟨earlier, last, request, count, rfl, hlast⟩ := ih hcall
      exact ⟨part ++ earlier, last, request, count, (List.append_assoc ..).symm, hlast⟩

end Acknowledged

/-! ### Requests that answer -/

/-- The request answers an issue: it changes the issue, or carries a comment. -/
def IsAnswering (request : Request) : Prop :=
  request.method = "PATCH" ∨ ∃ text, request.body = (Value.object [("body", .string text)]).text

/-- The method and the body of a request are those of its call, wherever it goes. -/
theorem method_and_body_of_request? {client : Client} {call : TrackerCall} {request : Request}
    (h : client.request? call = some request) :
    request.method = method call ∧ request.body = ((payload? call).map Value.text).getD "" := by
  obtain ⟨url, -, rfl⟩ := Option.map_eq_some_iff.1 h
  exact ⟨rfl, rfl⟩

/-- A request answers an issue exactly if its call does: what it carries is read back. -/
theorem isAnswering_iff {client : Client} {call : TrackerCall} {request : Request}
    (h : client.request? call = some request) (earlier : Nat) :
    IsAnswering (numbered request earlier) ↔ call.isAnswering = true := by
  obtain ⟨hmethod, hbody⟩ := method_and_body_of_request? h
  have hcomment : ∀ text, Value.ofString? (Value.object [("body", .string text)]).text
      = some (.object [("body", .string text)]) := fun text => ofString?_payload (.comment 0 text) rfl
  show request.method = "PATCH" ∨ (∃ text, request.body = _) ↔ _
  rw [hmethod, hbody]
  cases call with
  | fetch number =>
    refine iff_of_false ?_ Bool.false_ne_true
    rintro (hpatch | ⟨text, hsame⟩)
    · exact absurd hpatch (show "GET" ≠ "PATCH" by decide)
    · -- Were this the text of a comment, it would be read as one.
      have hread := hcomment text
      rw [← hsame] at hread
      cases hread
  | addLabel number label =>
    refine iff_of_false ?_ Bool.false_ne_true
    rintro (hpatch | ⟨text, hsame⟩)
    · exact absurd hpatch (show "POST" ≠ "PATCH" by decide)
    · have hread := hcomment text
      rw [← hsame] at hread
      have hlabel := ofString?_payload (.addLabel number label) rfl
      -- The keys of the two objects differ.
      have hkeys := hlabel.symm.trans hread
      simp at hkeys
  | comment number text => exact iff_of_true (.inr ⟨text, rfl⟩) rfl
  | close number => exact iff_of_true (.inl rfl) rfl

/-! ### Reports -/

/-- The requests of a run back its report: they are those of a fetch, of labels and of what answers the
issue, each call acknowledged in turn, and none of them answers it unless that is reported. -/
structure IsBacked (client : Client) (report : Report) (sent : List SentRequest) : Prop where
  /-- Every call was acknowledged, and no other was made. -/
  calls : ∃ (number : Nat) (labels : List Label), Acknowledged client
    (.fetch number :: (labels.map (.addLabel report.number)
      ++ answeringCalls report.disposition report.number)) sent
  /-- A request that comments or closes was sent exactly if the report says so. -/
  answering_iff : (∃ exchange ∈ sent, IsAnswering exchange.1.request) ↔
    report.disposition = .closedMissingHeaders
  /-- The last request of a run that closed an issue closes it, and it is closed by the answer. -/
  closed : report.disposition = .closedMissingHeaders →
    ∃ earlier last, sent = earlier ++ [last] ∧ last.1.request.method = "PATCH" ∧
      last.1.request.body = "\x7b\"state\":\"closed\"\x7d" ∧
      ∃ status headers body issue, last.2 = .answered status headers body ∧
        isSuccess status = true ∧ (documentOf? body).bind Issue.ofDocument? = some issue ∧
        issue.state = "closed"

/-- The last of the calls of a run that closed an issue is the one that closes it. -/
theorem getLast?_calls {report : Report} (h : report.disposition = .closedMissingHeaders)
    (number : Nat) (labels : List Label) :
    (TrackerCall.fetch number :: (labels.map (.addLabel report.number)
      ++ answeringCalls report.disposition report.number)).getLast? = some (.close report.number) := by
  rw [h, answeringCalls, closingCalls, List.append_cons, ← List.cons_append, List.getLast?_concat]

section Backed

variable {client : Client} {report : Report} {sent : List SentRequest} {number : Nat}
  {labels : List Label}
  (h : Acknowledged client (.fetch number :: (labels.map (.addLabel report.number)
    ++ answeringCalls report.disposition report.number)) sent)
include h

/-- A run that closed an issue was told at the end that it is closed. -/
theorem Acknowledged.exists_closing (hclosed : report.disposition = .closedMissingHeaders) :
    ∃ earlier last, sent = earlier ++ [last] ∧ last.1.request.method = "PATCH" ∧
      last.1.request.body = "\x7b\"state\":\"closed\"\x7d" ∧
      ∃ status headers body issue, last.2 = .answered status headers body ∧
        isSuccess status = true ∧ (documentOf? body).bind Issue.ofDocument? = some issue ∧
        issue.state = "closed" := by
  obtain ⟨earlier, last, request, count, hsent, hrequest, hnumbered, status, headers, body,
    hanswered, hsuccess, issue, hissue, hstate⟩ := h.exists_last (getLast?_calls hclosed _ _)
  obtain ⟨hmethod, hbody⟩ := method_and_body_of_request? hrequest
  have htext : (Value.object [("state", .string "closed")]).text
      = "\x7b\"state\":\"closed\"\x7d" := by decide
  refine ⟨earlier, last, hsent, ?_, ?_, status, headers, body, issue, hanswered, hsuccess, hissue,
    hstate⟩
  · rw [hnumbered]
    exact hmethod
  · rw [hnumbered]
    exact hbody.trans htext

/-- Neither a fetch nor a label answers an issue, so a request that does was sent for one of the calls
that the report stands for. -/
theorem Acknowledged.disposition_of_isAnswering {exchange : SentRequest} (hmem : exchange ∈ sent)
    (hanswering : IsAnswering exchange.1.request) : report.disposition = .closedMissingHeaders := by
  obtain ⟨call, hcall, request, earlier, hrequest, hnumbered⟩ := h.exists_call_of_mem hmem
  rw [hnumbered, isAnswering_iff hrequest] at hanswering
  rcases List.mem_cons.1 hcall with rfl | hcall
  · exact absurd hanswering Bool.false_ne_true
  · rcases List.mem_append.1 hcall with hcall | hcall
    · obtain ⟨label, -, rfl⟩ := List.mem_map.1 hcall
      exact absurd hanswering Bool.false_ne_true
    · -- The call is one of those that close the issue, so there are such.
      cases hdisposition : report.disposition with
      | noAction =>
        rw [hdisposition] at hcall
        exact absurd hcall List.not_mem_nil
      | closedMissingHeaders => rfl

/-- The calls that a report stands for back it, once they are acknowledged. -/
theorem Acknowledged.isBacked : IsBacked client report sent where
  calls := ⟨number, labels, h⟩
  answering_iff := by
    constructor
    · rintro ⟨exchange, hmem, hanswering⟩
      exact h.disposition_of_isAnswering hmem hanswering
    · intro hclosed
      obtain ⟨earlier, last, rfl, hpatch, -⟩ := h.exists_closing hclosed
      exact ⟨last, List.mem_append_right _ List.mem_cons_self, .inl hpatch⟩
  closed := h.exists_closing

end Backed

/-- A report of missing headers, after an answer that passes; a label, a comment after another one, and
the closing. -/
def headersScript : List Delivery :=
  [.answered 503 [] [],
    .answered 200 []
      (Text.utf8 "\x7b\"id\":1,\"number\":7,\"title\":\"missing Python.h on Linux\"\x7d".toList),
    .answered 200 [] (Text.utf8 "[\x7b\"name\":\"linux\"\x7d]".toList), .timedOut,
    .answered 201 [] (Text.utf8 "\x7b\"id\":5\x7d".toList),
    .answered 200 []
      (Text.utf8 "\x7b\"id\":1,\"number\":7,\"title\":\"\",\"state\":\"closed\"\x7d".toList)]

end Triage.GitHub
