import Triage.Proofs.GitHub.Acknowledgement

namespace Triage.GitHub

open Http Json

/-!
# One call and a stream of answers

A request is sent again as long as what comes of it may pass and attempts are left.  Against an
endless stream of answers the call comes to the first one that is final, or to the last one it has an
attempt for, and no other answer matters.

* `stream` — an answerer that gives the answers of a stream in turn.
* `MayPass` — what another attempt may follow; `IsDeciding` — the answer that a call stops at.
* `verdict`, `told` — what a call makes of that answer, with its causes and with their wordings.
* `run_attempts_stream` — the attempts of one request, by induction on how many are spare.
* `answer_stream` — one call of a client.
-/

/-- The answerer that gives the answers of a stream in turn.  Its state counts those given. -/
def stream (answers : Nat → Delivery) : Answerer Sending (fun _ => Delivery) Nat := fun _ count =>
  (answers count, count + 1)

/-- Another attempt may do better: there was no connection, no answer in time, or the status is one
of a server that is busy or failing. -/
def MayPass : Delivery → Prop
  | .answered status _ _ => status = 429 ∨ 500 ≤ status
  | .refused | .timedOut => True
  | .dropped => False

/-- What may pass is what is tried again. -/
theorem isTransient_eq_true_iff {delivery : Delivery} :
    isTransient delivery = true ↔ MayPass delivery := by
  cases delivery <;> simp [isTransient, isPassing, MayPass]

/-- The least index of an answer that is final, or the last index there is an attempt for if the
answers to all attempts may pass. -/
structure IsDeciding (answers : Nat → Delivery) (attempts index : Nat) : Prop where
  lt : index < attempts
  before : ∀ earlier < index, MayPass (answers earlier)
  final_or_last : ¬ MayPass (answers index) ∨ index + 1 = attempts

/-- A first answer that is final decides at once. -/
theorem isDeciding_zero {answers : Nat → Delivery} {spare : Nat} (h : ¬ MayPass (answers 0)) :
    IsDeciding answers (spare + 1) 0 :=
  ⟨Nat.succ_pos _, fun _ hlt => absurd hlt (Nat.not_lt_zero _), .inl h⟩

/-- After a first answer that may pass, the rest of the stream decides. -/
theorem IsDeciding.succ {answers : Nat → Delivery} {attempts index : Nat}
    (hfirst : MayPass (answers 0)) (h : IsDeciding (fun n => answers (n + 1)) attempts index) :
    IsDeciding answers (attempts + 1) (index + 1) where
  lt := Nat.succ_lt_succ h.lt
  before
    | 0, _ => hfirst
    | earlier + 1, hlt => h.before earlier (Nat.lt_of_succ_lt_succ hlt)
  final_or_last := h.final_or_last.imp_right (congrArg (· + 1))

/-! ### What an answer amounts to -/

/-- What the body of an answer is to describe, by the call. -/
abbrev Content : TrackerCall → Type
  | .fetch _ | .close _ => Issue
  | .addLabel .. => List Label
  | .comment .. => Comment

/-- What the body of an answer describes, if it can be decoded. -/
def decode? : (call : TrackerCall) → List UInt8 → Option (Content call)
  | .fetch _, body | .close _, body => (documentOf? body).bind Issue.ofDocument?
  | .addLabel .., body => (documentOf? body).bind labelsOfDocument?
  | .comment .., body => (documentOf? body).bind Comment.ofDocument?

/-- What a call replies once its answer is decoded.  Only an issue that was to be closed is looked at
again. -/
def replyTo : (call : TrackerCall) → Content call → TrackerReply CallError call
  | .fetch _, issue => .ok issue
  | .addLabel .., labels => .ok labels
  | .comment .., _ => .ok ()
  | .close number, issue =>
    if issue.state = "closed" then .ok () else .error (.notClosed number issue.state)

/-- What a call comes to by the answer that decides it. -/
def verdict (call : TrackerCall) : Delivery → TrackerReply CallError call
  | .answered status _ body =>
    if 200 ≤ status ∧ status ≤ 299 then
      match decode? call body with
      | some content => replyTo call content
      | none => .error (.undecodable (operation call))
    else .error (.status (operation call) status (Text.lenient (Text.decodeUtf8 body)))
  | .refused | .timedOut | .dropped => .error (.transport (operation call))

/-- The same with the wording of what went wrong. -/
def told (call : TrackerCall) : Delivery → TrackerReply String call
  | .answered status _ body =>
    if 200 ≤ status ∧ status ≤ 299 then
      match decode? call body with
      | some content => (replyTo call content).mapError CallError.message
      | none => .error ("failed to decode github " ++ operation call)
    else
      let text := Text.lenient (Text.decodeUtf8 body)
      let shown := if text.length ≤ 800 then text else String.ofList (text.toList.take 800) ++ "..."
      .error ("github api " ++ operation call ++ " failed with status " ++ toString status ++ ": "
        ++ shown)
  | .refused | .timedOut | .dropped => .error ("github api " ++ operation call ++ " request failed")

/-- The statuses that report success go from 200 to 299. -/
theorem isSuccess_eq_true_iff {status : Nat} :
    isSuccess status = true ↔ 200 ≤ status ∧ status ≤ 299 := by
  simp only [isSuccess, Bool.and_eq_true, decide_eq_true_eq]
  omega

/-- To read an answer is to decode it and to look at what it describes. -/
theorem mute_read_eq (call : TrackerCall) (body : List UInt8) :
    (read call body).mute = .done (match decode? call body with
      | some content => replyTo call content
      | none => .error (.undecodable (operation call))) := by
  -- In each case the note of a failure is all that is left out.
  cases call with
  | fetch number =>
    simp only [read, decode?, replyTo, decoded]
    cases (documentOf? body).bind Issue.ofDocument? <;> rfl
  | addLabel number label =>
    simp only [read, decode?, replyTo, decoded]
    cases (documentOf? body).bind labelsOfDocument? <;> rfl
  | comment number text =>
    simp only [read, decode?, replyTo, decoded]
    cases (documentOf? body).bind Comment.ofDocument? <;> rfl
  | close number =>
    simp only [read, decode?, replyTo, decoded]
    cases (documentOf? body).bind Issue.ofDocument? <;> rfl

/-- What a call comes to once an answer has settled its request. -/
theorem mute_settled_settle (call : TrackerCall) (delivery : Delivery) :
    (settled call (settle (operation call) delivery)).mute = .done (verdict call delivery) := by
  cases delivery with
  | answered status headers body =>
    by_cases hstatus : isSuccess status = true
    · rw [settle, if_pos hstatus, verdict, if_pos (isSuccess_eq_true_iff.1 hstatus)]
      exact mute_read_eq call body
    · rw [settle, if_neg hstatus, verdict, if_neg (mt isSuccess_eq_true_iff.2 hstatus)]
      rfl
  | refused | timedOut | dropped => rfl

/-- The wording of a status shows the start of a long text only. -/
theorem message_status (name : Operation) (status : Nat) (text : String) :
    (CallError.status name status text).message
      = "github api " ++ name ++ " failed with status " ++ toString status ++ ": "
        ++ (if text.length ≤ 800 then text else String.ofList (text.toList.take 800) ++ "...") := by
  have hexcerpt : Text.excerpt shownLength text
      = if text.length ≤ 800 then text else String.ofList (text.toList.take 800) ++ "..." := by
    rw [Text.excerpt, shownLength, String.length_toList, String.ofList_append]
  rw [← hexcerpt]
  rfl

/-- The wording of what a call comes to is the one that is told. -/
theorem mapError_verdict (call : TrackerCall) (delivery : Delivery) :
    (verdict call delivery).mapError CallError.message = told call delivery := by
  cases delivery with
  | answered status headers body =>
    by_cases hstatus : 200 ≤ status ∧ status ≤ 299
    · rw [verdict, told, if_pos hstatus, if_pos hstatus]
      cases decode? call body <;> rfl
    · rw [verdict, told, if_neg hstatus, if_neg hstatus, Except.mapError, message_status]
  | refused | timedOut | dropped => rfl

/-! ### The attempts -/

variable (manner : Manner) (name : Operation) (request : Request) (answers : Nat → Delivery)

/-- After an answer that may pass, the rest of the stream meets the attempts that are left. -/
theorem run_attempts_of_transient {spare earlier wait start : Nat}
    (h : isTransient (answers start) = true) :
    let delay := manner.policy.delay (earlier + 1) (wish? (answers start))
    let rest := (attempts manner name request spare (earlier + 1) delay).run (stream answers)
      (start + 1)
    (attempts manner name request (spare + 1) earlier wait).run (stream answers) start
      = (rest.after (.note (retryNote name (earlier + 1) delay (answers start)))).after
          (.asked (manner.sending request earlier wait) (answers start)) := by
  simp only [attempts, Dialogue.run_ask, stream, h, if_true, Dialogue.run_note]

/-- A final answer settles the request. -/
theorem run_attempts_of_final {spare earlier wait start : Nat}
    (h : isTransient (answers start) = false) :
    (attempts manner name request spare earlier wait).run (stream answers) start
      = ⟨settle name (answers start), start + 1,
          [.asked (manner.sending request earlier wait) (answers start)]⟩ := by
  cases spare with
  | zero => rfl
  | succ spare => simp [attempts, stream, h, Outcome.after]

/-- **The attempts of one request**, from some place of the stream on.  They are numbered from
`earlier`. -/
theorem run_attempts_stream (spare earlier wait start : Nat) :
    let run := (attempts manner name request spare earlier wait).run (stream answers) start
    ∃ index, IsDeciding (fun n => answers (n + start)) (spare + 1) index ∧
      run.exchanges.map (·.1.request) = (List.range' earlier (index + 1)).map (numbered request) ∧
      run.exchanges.map (·.2) = (List.range' start (index + 1)).map answers ∧
      run.state = start + index + 1 ∧ run.value = settle name (answers (index + start)) := by
  -- One attempt fewer is spare for the rest of the stream.
  induction spare generalizing earlier wait start with
  | zero =>
    -- The last attempt decides whatever is answered.
    refine ⟨0, ⟨Nat.one_pos, by simp, .inr rfl⟩, rfl, rfl, rfl, ?_⟩
    rw [Nat.zero_add]
    rfl
  | succ spare ih =>
    cases hpass : isTransient (answers start) with
    | false =>
      have hfinal : ¬ MayPass (answers (0 + start)) := by
        rw [Nat.zero_add, ← isTransient_eq_true_iff, hpass]
        exact Bool.false_ne_true
      -- The first answer is final, and nothing more is asked.
      rw [run_attempts_of_final manner name request answers hpass]
      exact ⟨0, isDeciding_zero hfinal, rfl, rfl, rfl, by rw [Nat.zero_add]⟩
    | true =>
      have hmay : MayPass (answers (0 + start)) := by
        rw [Nat.zero_add, ← isTransient_eq_true_iff, hpass]
      have hshift : ∀ n, n + 1 + start = n + (start + 1) := by omega
      obtain ⟨index, hindex, hrequests, hanswers, hstate, hvalue⟩ :=
        ih (earlier + 1) (manner.policy.delay (earlier + 1) (wish? (answers start))) (start + 1)
      -- What decides the rest of the stream decides the whole, one place further on.
      rw [run_attempts_of_transient manner name request answers hpass]
      refine ⟨index + 1, .succ hmay (by simpa only [hshift] using hindex), ?_, ?_, ?_, ?_⟩
      · exact congrArg (numbered request earlier :: ·) hrequests
      · exact congrArg (answers start :: ·) hanswers
      · rw [Outcome.after_state, Outcome.after_state, hstate]
        omega
      · rw [Outcome.after_value, Outcome.after_value, hvalue, hshift]

/-! ### One call -/

/-- **A call stops at the first answer that is final, or at its last attempt.**  However many attempts
a configuration allows, every endless stream has an answer that decides.  The request is sent once for
each answer up to that one, the same each time but for its number, and no further answer is asked for.
What the call comes to is read off the deciding answer alone.  If the address of the call is not one
of the web, the call fails and nothing is sent. -/
theorem answer_stream (config : Config) (repository : Repository) (token : String)
    (call : TrackerCall) :
    let client := clientOf config repository token
    let run := (client.answer call).run (stream answers) 0
    match client.request? call with
    | none => run.exchanges = [] ∧ run.state = 0 ∧ run.value = .error (.transport (operation call))
    | some request => ∃ index, IsDeciding answers (max config.retryAttempts 1) index ∧
        run.exchanges.map (·.1.request) = (List.range (index + 1)).map (fun count =>
          { request with
            headers := ("x-issuebot-retry-attempt", toString count) :: request.headers }) ∧
        run.exchanges.map (·.2) = (List.range (index + 1)).map answers ∧
        run.state = index + 1 ∧ run.value = verdict call (answers index) ∧
        run.value.mapError CallError.message = told call (answers index) := by
  intro client run
  cases hrequest : client.request? call with
  | none =>
    have hrun : run
        = (Dialogue.done (.error (.transport (operation call)))).run (stream answers) 0 := by
      simp only [run, Client.answer, hrequest]
    rw [hrun]
    exact ⟨rfl, rfl, rfl⟩
  | some request =>
    -- There is at least one attempt; the spare ones are those after it.
    have hattempts : client.manner.policy.attempts - 1 + 1 = max config.retryAttempts 1 :=
      Nat.sub_add_cancel client.manner.policy.one_le_attempts
    obtain ⟨index, hindex, hrequests, hanswers, hstate, hvalue⟩ := run_attempts_stream client.manner
      (operation call) request answers (client.manner.policy.attempts - 1) 0 0 0
    have hrun : run = (exchange client.manner (operation call) request >>= settled call).run
        (stream answers) 0 := by
      rw [← answer_eq_of_request? request hrequest]
    -- Once the request is settled, nothing more is sent.
    obtain ⟨hreply, hlast, hnothing⟩ := Dialogue.run_congr_of_mute_eq (stream answers)
      ((mute_settled_settle call (answers index)).trans (Dialogue.mute_done _).symm) (0 + index + 1)
    have hverdict : run.value = verdict call (answers index) := by
      rw [hrun, Dialogue.value_run_bind, exchange, hvalue, hstate]
      exact hreply
    have hexchanges : run.exchanges = ((exchange client.manner (operation call) request).run
        (stream answers) 0).exchanges := by
      rw [hrun, Dialogue.exchanges_run_bind, exchange, hvalue, hstate]
      exact (congrArg _ hnothing).trans (List.append_nil _)
    refine ⟨index, hattempts ▸ hindex, ?_, ?_, ?_, hverdict, hverdict ▸ mapError_verdict ..⟩
    · rw [hexchanges, List.range_eq_range']
      exact hrequests
    · rw [hexchanges, List.range_eq_range']
      exact hanswers
    · rw [hrun, Dialogue.state_run_bind, exchange, hvalue, hstate]
      exact hlast.trans (congrArg (· + 1) (Nat.zero_add index))

end Triage.GitHub
