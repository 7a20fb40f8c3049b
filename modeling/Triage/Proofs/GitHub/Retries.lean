import Triage.Http.Script
import Triage.Proofs.Bot

namespace Triage.GitHub

open Http

/-!
# Retries

A call comes to what the first delivery says that is not transient, and the next call starts with the
answer after it.  So a run does not change when further transient answers come before each answer of
a script, as long as the attempts of a call last.

* `ScriptEntry`, `plainScript`, `retriedScript` — a script, without and with the answers inserted.
* `resent` — each request as often as it is sent, numbered from zero.
* `run_attempts_retried` — one request, by induction on the answers inserted before its own.
* `RetriedAs` — what both scripts make of a program.
* `retriedAs_exchange`, `retriedAs_answer` — one request and one call, on both scripts.
* `retriedAs_handle` — the calls of any program, by induction on it.
* `runBot_retried` — the whole run.
-/

/-- An answer that another attempt may follow: it does not come in time, or it can be understood and
its status may pass.  With such a status it sends nobody elsewhere. -/
inductive IsRetried : Delivery → Prop
  | late : IsRetried .timedOut
  | passing {status : Nat} {headers : List Header} {body : List UInt8}
      (hstatus : isPassing status = true)
      (hunderstood : (arrivedAnswer? status headers body).isSome = true) :
      IsRetried (.answered status headers body)

/-- An answer of a script, and the answers inserted before it. -/
structure ScriptEntry where
  inserted : List Delivery
  answer : Delivery

/-- The script without the answers inserted. -/
def plainScript (entries : List ScriptEntry) : List Delivery := entries.map (·.answer)

/-- The script with the answers inserted. -/
def retriedScript (entries : List ScriptEntry) : List Delivery :=
  entries.flatMap fun entry => entry.inserted ++ [entry.answer]

/-- How many answers are inserted before each. -/
def retryCounts (entries : List ScriptEntry) : List Nat := entries.map (·.inserted.length)

/-- Each request once, and as often again as is counted for it.  The number of an attempt starts at
zero for each request. -/
def resent : List Nat → List Request → List Request
  | count :: counts, request :: requests =>
    (List.range (count + 1)).map (numbered request) ++ resent counts requests
  | _, requests => requests.map (numbered · 0)

/-- Where nothing is requested, nothing is sent again. -/
@[simp] theorem resent_nil_right (counts : List Nat) : resent counts [] = [] := by
  cases counts <;> rfl

/-- Where nothing is counted, each request is sent once. -/
@[simp] theorem resent_nil_left (requests : List Request) :
    resent [] requests = requests.map (numbered · 0) := rfl

/-- The first count is for the first request. -/
@[simp] theorem resent_cons (count : Nat) (counts : List Nat) (request : Request)
    (requests : List Request) :
    resent (count :: counts) (request :: requests)
      = (List.range (count + 1)).map (numbered request) ++ resent counts requests := rfl

/-- The answers inserted can be followed by another attempt, and leave one for the answer itself. -/
def ScriptEntry.IsSparing (attempts : Nat) (entry : ScriptEntry) : Prop :=
  entry.inserted.length < attempts ∧ ∀ delivery ∈ entry.inserted, IsRetried delivery

/-- What came back to a request is final, if there is a server that took it. -/
def IsFinal (refuses : Bool) (exchange : Exchange Sending fun _ => Delivery) : Prop :=
  ScriptedServer.takes ⟨[], refuses, []⟩ exchange.1.request.url = true →
    isTransient exchange.2 = false

instance (refuses : Bool) : DecidablePred (IsFinal refuses) := fun _ =>
  inferInstanceAs (Decidable (_ → _))

/-! ### One request -/

/-- An answer that another attempt may follow is transient when it arrives. -/
theorem IsRetried.isTransient_arrived {delivery : Delivery} (h : IsRetried delivery) :
    isTransient delivery.arrived = true := by
  cases h with
  | late => rfl
  | @passing status headers body hstatus hunderstood =>
    obtain ⟨arrived, harrived⟩ := Option.isSome_iff_exists.1 hunderstood
    -- An answer that is understood has the status it was sent with.
    have hanswer : ∃ headers body, arrived = .answered status headers body := by
      simp only [arrivedAnswer?, Option.bind_eq_bind, Option.bind_eq_some_iff,
        Option.ite_none_right_eq_some, Option.some.injEq] at harrived
      obtain ⟨headers', -, body', -, -, rfl⟩ := harrived
      exact ⟨headers', body', rfl⟩
    obtain ⟨headers', body', rfl⟩ := hanswer
    simpa only [Delivery.arrived, harrived, Option.getD_some, isTransient] using hstatus

variable (manner : Manner) (name : Operation) (request : Request)

/-- A request that the server does not take fails, however often it is sent. -/
theorem run_attempts_untaken (server : ScriptedServer) (h : server.takes request.url = false)
    (spare earlier wait : Nat) :
    ((attempts manner name request spare earlier wait).run ScriptedServer.answer server).value
        = .error (.transport name) ∧
      ((attempts manner name request spare earlier wait).run ScriptedServer.answer server).state
        = server := by
  have hanswer : ∀ earlier wait,
      ScriptedServer.answer (manner.sending request earlier wait) server = (.refused, server) := by
    intro earlier wait
    rw [ScriptedServer.answer, if_pos]
    simpa [Manner.sending, numbered] using h
  induction spare generalizing earlier wait with
  | zero => simp [attempts, hanswer, settle]
  | succ spare ih =>
    simp only [attempts, Dialogue.run_ask, hanswer, isTransient, if_true, Dialogue.run_note,
      Outcome.after_value, Outcome.after_state]
    -- A refusal may pass, so all attempts are made, and the server stays as it was.
    exact ih _ _

/-- The server answers a request that it takes with the next answer of its script. -/
theorem answer_of_takes {refuses : Bool} {delivery : Delivery} {script : List Delivery}
    {received : List Request} (earlier wait : Nat)
    (htakes : ScriptedServer.takes ⟨[], refuses, []⟩ request.url = true) :
    ScriptedServer.answer (manner.sending request earlier wait)
        ⟨delivery :: script, refuses, received⟩
      = (delivery.arrived, ⟨script, refuses, received ++ [numbered request earlier]⟩) := by
  have htakes' : ScriptedServer.takes ⟨delivery :: script, refuses, received⟩ request.url = true :=
    htakes
  rw [ScriptedServer.answer, if_neg]
  · rfl
  · simpa [Manner.sending, numbered] using htakes'

/-- At the end of its script the server answers that there is nothing. -/
theorem answer_nil_of_takes {refuses : Bool} {received : List Request} (earlier wait : Nat)
    (htakes : ScriptedServer.takes ⟨[], refuses, []⟩ request.url = true) :
    ScriptedServer.answer (manner.sending request earlier wait) ⟨[], refuses, received⟩
      = (ScriptedServer.exhausted, ⟨[], refuses, received ++ [numbered request earlier]⟩) := by
  have htakes' : ScriptedServer.takes ⟨[], refuses, received⟩ request.url = true := htakes
  rw [ScriptedServer.answer, if_neg]
  · rfl
  · simpa [Manner.sending, numbered] using htakes'

/-- Whatever comes of the first attempt, it is among the exchanges. -/
theorem mem_exchanges_run_attempts (spare earlier wait : Nat) (server : ScriptedServer) :
    ⟨manner.sending request earlier wait,
        (ScriptedServer.answer (manner.sending request earlier wait) server).1⟩
      ∈ ((attempts manner name request spare earlier wait).run ScriptedServer.answer
          server).exchanges := by
  cases spare <;> exact List.mem_cons_self

/-- A final answer settles the request. -/
theorem run_attempts_final (spare earlier wait : Nat) (server : ScriptedServer)
    (h : isTransient (ScriptedServer.answer (manner.sending request earlier wait) server).1 = false) :
    ((attempts manner name request spare earlier wait).run ScriptedServer.answer server).value
        = settle name (ScriptedServer.answer (manner.sending request earlier wait) server).1 ∧
      ((attempts manner name request spare earlier wait).run ScriptedServer.answer server).state
        = (ScriptedServer.answer (manner.sending request earlier wait) server).2 := by
  cases spare with
  | zero => exact ⟨rfl, rfl⟩
  | succ spare => simp [attempts, h]

/-- **One request.**  It is sent once for each answer inserted before its own, then settled by that
one. -/
theorem run_attempts_retried {refuses : Bool} (inserted rest : List Delivery) {answer : Delivery}
    (hretried : ∀ delivery ∈ inserted, IsRetried delivery)
    (hfinal : isTransient answer.arrived = false)
    (htakes : ScriptedServer.takes ⟨[], refuses, []⟩ request.url = true)
    {spare : Nat} (hspare : inserted.length ≤ spare) (earlier wait : Nat)
    (received : List Request) :
    ((attempts manner name request spare earlier wait).run ScriptedServer.answer
        ⟨inserted ++ answer :: rest, refuses, received⟩).value = settle name answer.arrived ∧
      ((attempts manner name request spare earlier wait).run ScriptedServer.answer
        ⟨inserted ++ answer :: rest, refuses, received⟩).state
        = ⟨rest, refuses,
            received ++ (List.range' earlier (inserted.length + 1)).map (numbered request)⟩ := by
  -- The attempts spent so far are what the next request is numbered with.
  induction inserted generalizing spare earlier wait received with
  | nil =>
    have hanswer : ScriptedServer.answer (manner.sending request earlier wait)
        ⟨answer :: rest, refuses, received⟩
          = (answer.arrived, ⟨rest, refuses, received ++ [numbered request earlier]⟩) :=
      answer_of_takes manner request earlier wait htakes
    have hsettled := run_attempts_final manner name request spare earlier wait
      ⟨answer :: rest, refuses, received⟩ (by rw [hanswer]; exact hfinal)
    rw [hanswer] at hsettled
    simpa using hsettled
  | cons delivery inserted ih =>
    -- There is an attempt to spare for each answer inserted, so for this one.
    obtain ⟨spare, rfl⟩ : ∃ n, spare = n + 1 :=
      Nat.exists_eq_succ_of_ne_zero (by simp at hspare; omega)
    have htransient := (hretried delivery (by simp)).isTransient_arrived
    have hlater : ∀ delivery ∈ inserted, IsRetried delivery := fun delivery hmem =>
      hretried delivery (List.mem_cons_of_mem _ hmem)
    -- The first attempt meets the first answer inserted, and the rest goes on behind it.
    simp only [attempts, List.cons_append, Dialogue.run_ask,
      answer_of_takes manner request earlier wait htakes, htransient, if_true, Dialogue.run_note,
      Outcome.after_value, Outcome.after_state]
    obtain ⟨hvalue, hstate⟩ := ih hlater (Nat.le_of_succ_le_succ hspare) (earlier + 1) _ _
    refine ⟨hvalue, hstate.trans ?_⟩
    simp [List.range'_succ]

/-! ### One call -/

/-- To read an answer asks nothing. -/
theorem mute_read (call : TrackerCall) (body : List UInt8) :
    ∃ reply, (read call body).mute = .done reply := by
  -- There is a note at most, where nothing can be decoded or the issue is not closed.
  cases call with
  | fetch number => exact ⟨_, rfl⟩
  | addLabel number label => exact ⟨_, rfl⟩
  | comment number text => simp only [read]; split <;> exact ⟨_, rfl⟩
  | close number => simp only [read]; split <;> exact ⟨_, rfl⟩

/-- What a call comes to once its request is settled. -/
def settled (call : TrackerCall) :
    Except CallError (List UInt8) → Conversation (TrackerReply CallError call)
  | .error cause => .done (.error cause)
  | .ok body => read call body

/-- A call is its request, and then what that is settled with. -/
theorem answer_eq_of_request? {client : Client} {call : TrackerCall}
    (h : client.request? call = some request) :
    client.answer call
      = exchange client.manner (operation call) request >>= settled call := by
  rw [Client.answer, h]
  rfl

/-- Nothing is asked once the request of a call is settled. -/
theorem mute_settled (call : TrackerCall) (result : Except CallError (List UInt8)) :
    ∃ reply, (settled call result).mute = .done reply := by
  cases result with
  | error cause => exact ⟨_, rfl⟩
  | ok body => exact mute_read call body

/-- What both scripts make of a call, or of several: the same reply, by the same requests, each sent
as often as answers are inserted for it.  `rest` is the part of the script that is left. -/
structure RetriedAs {α : Type} (x : Conversation α) (refuses : Bool) (entries : List ScriptEntry)
    (received received' : List Request) (reply : α) (requests : List Request)
    (rest : List ScriptEntry) : Prop where
  value_plain :
    (x.run ScriptedServer.answer ⟨plainScript entries, refuses, received⟩).value = reply
  value_retried :
    (x.run ScriptedServer.answer ⟨retriedScript entries, refuses, received'⟩).value = reply
  state_plain :
    (x.run ScriptedServer.answer ⟨plainScript entries, refuses, received⟩).state
      = ⟨plainScript rest, refuses, received ++ requests.map (numbered · 0)⟩
  state_retried :
    (x.run ScriptedServer.answer ⟨retriedScript entries, refuses, received'⟩).state
      = ⟨retriedScript rest, refuses, received' ++ resent (retryCounts entries) requests⟩
  subset : rest ⊆ entries
  resent_append : ∀ later,
    resent (retryCounts entries) (requests ++ later)
      = resent (retryCounts entries) requests ++ resent (retryCounts rest) later

variable {refuses : Bool} {entries : List ScriptEntry} {client : Client}

/-- The second part starts where both scripts are left by the first one. -/
theorem RetriedAs.bind {α β : Type} {x : Conversation α} {f : α → Conversation β}
    {received received' requests later : List Request} {left rest : List ScriptEntry} {value : α}
    {reply : β} (hx : RetriedAs x refuses entries received received' value requests left)
    (hf : RetriedAs (f value) refuses left (received ++ requests.map (numbered · 0))
      (received' ++ resent (retryCounts entries) requests) reply later rest) :
    RetriedAs (x >>= f) refuses entries received received' reply (requests ++ later) rest where
  value_plain := by
    -- What the first part leaves is where the second one starts.
    rw [Dialogue.value_run_bind, hx.value_plain, hx.state_plain, hf.value_plain]
  value_retried := by
    rw [Dialogue.value_run_bind, hx.value_retried, hx.state_retried, hf.value_retried]
  state_plain := by
    rw [Dialogue.state_run_bind, hx.value_plain, hx.state_plain, hf.state_plain, List.map_append,
      List.append_assoc]
  state_retried := by
    rw [Dialogue.state_run_bind, hx.value_retried, hx.state_retried, hf.state_retried,
      hx.resent_append, List.append_assoc]
  subset := fun _ hmem => hx.subset (hf.subset hmem)
  resent_append := fun more => by
    rw [List.append_assoc, hx.resent_append, hf.resent_append, hx.resent_append,
      List.append_assoc]

/-- What is done is done on both scripts alike. -/
theorem RetriedAs.done {α : Type} {received received' : List Request} (value : α) :
    RetriedAs (.done value) refuses entries received received' value [] entries where
  value_plain := rfl
  value_retried := rfl
  state_plain := by simp
  state_retried := by simp
  subset := List.Subset.refl _
  resent_append := by simp

/-- Notes do not matter. -/
theorem RetriedAs.of_mute_eq {α : Type} {x y : Conversation α}
    {received received' requests : List Request} {rest : List ScriptEntry} {reply : α}
    (hx : RetriedAs x refuses entries received received' reply requests rest)
    (h : y.mute = x.mute) :
    RetriedAs y refuses entries received received' reply requests rest := by
  have hplain := Dialogue.run_congr_of_mute_eq ScriptedServer.answer h
    ⟨plainScript entries, refuses, received⟩
  have hretried := Dialogue.run_congr_of_mute_eq ScriptedServer.answer h
    ⟨retriedScript entries, refuses, received'⟩
  exact ⟨hplain.1.trans hx.value_plain, hretried.1.trans hx.value_retried,
    hplain.2.1.trans hx.state_plain, hretried.2.1.trans hx.state_retried, hx.subset,
    hx.resent_append⟩

section Exchange

variable {received received' : List Request}

/-- If no server takes the request, the scripts do not matter. -/
theorem retriedAs_exchange_of_untaken
    (h : ScriptedServer.takes ⟨[], refuses, []⟩ request.url = false) :
    RetriedAs (exchange manner name request) refuses entries received received'
      (.error (.transport name)) [] entries := by
  -- On either script the request never arrives.
  have hplain := run_attempts_untaken manner name request ⟨plainScript entries, refuses, received⟩ h
    (manner.policy.attempts - 1) 0 0
  have hretried := run_attempts_untaken manner name request
    ⟨retriedScript entries, refuses, received'⟩ h (manner.policy.attempts - 1) 0 0
  refine ⟨hplain.1, hretried.1, ?_, ?_, List.Subset.refl _, by simp⟩
  · rw [List.map_nil, List.append_nil]
    exact hplain.2
  · rw [resent_nil_right, List.append_nil]
    exact hretried.2

/-- If both scripts are at their end, the answer is that there is nothing. -/
theorem retriedAs_exchange_of_exhausted
    (htakes : ScriptedServer.takes ⟨[], refuses, []⟩ request.url = true) :
    RetriedAs (exchange manner name request) refuses [] received received'
      (settle name ScriptedServer.exhausted) [request] [] := by
  -- Without an entry the two scripts are the same, and the server says that there is nothing.
  have hsettled : ∀ received, _ := fun received =>
    run_attempts_final manner name request (manner.policy.attempts - 1) 0 0 ⟨[], refuses, received⟩
      (by rw [answer_nil_of_takes manner request 0 0 htakes]; rfl)
  simp only [answer_nil_of_takes manner request 0 0 htakes] at hsettled
  exact ⟨(hsettled received).1, (hsettled received').1, (hsettled received).2,
    (hsettled received').2, List.Subset.refl _, by simp [retryCounts]⟩

/-- If both scripts have an answer for the request, it comes at once on the one, and after those
inserted on the other. -/
theorem retriedAs_exchange_of_answered {entry : ScriptEntry} {rest : List ScriptEntry}
    (htakes : ScriptedServer.takes ⟨[], refuses, []⟩ request.url = true)
    (hsparing : entry.IsSparing manner.policy.attempts)
    (hfinal : isTransient entry.answer.arrived = false) :
    RetriedAs (exchange manner name request) refuses (entry :: rest) received received'
      (settle name entry.answer.arrived) [request] rest := by
  obtain ⟨hlength, hretried⟩ := hsparing
  -- One of the attempts is for the answer itself.
  have hspare : entry.inserted.length ≤ manner.policy.attempts - 1 := by omega
  -- The plain script is the other one with nothing inserted.
  have hplain := run_attempts_retried manner name request [] (plainScript rest) (by simp) hfinal
    htakes (Nat.zero_le (manner.policy.attempts - 1)) 0 0 received
  have hlater := run_attempts_retried manner name request entry.inserted (retriedScript rest)
    hretried hfinal htakes hspare 0 0 received'
  have hscript : retriedScript (entry :: rest)
      = entry.inserted ++ entry.answer :: retriedScript rest := by
    simp [retriedScript]
  refine ⟨hplain.1, ?_, hplain.2, ?_, List.subset_cons_self entry rest, fun later => ?_⟩
  · rw [hscript]
    exact hlater.1
  · rw [hscript, retryCounts, List.map_cons, resent_cons, resent_nil_right, List.append_nil,
      List.range_eq_range']
    exact hlater.2
  · simp [retryCounts]

/-- **One request.**  Both scripts make the same of it, if its own answer is final. -/
theorem retriedAs_exchange
    (hsparing : ∀ entry ∈ entries, entry.IsSparing manner.policy.attempts)
    (hfinal : ∀ sent ∈ ((exchange manner name request).run ScriptedServer.answer
      ⟨plainScript entries, refuses, received⟩).exchanges, IsFinal refuses sent) :
    ∃ result requests rest, RetriedAs (exchange manner name request) refuses entries received
      received' result requests rest := by
  cases htakes : ScriptedServer.takes ⟨[], refuses, []⟩ request.url with
  | false => exact ⟨_, _, _, retriedAs_exchange_of_untaken manner name request htakes⟩
  | true =>
    cases entries with
    | nil => exact ⟨_, _, _, retriedAs_exchange_of_exhausted manner name request htakes⟩
    | cons entry rest =>
      -- The first answer is that of the first attempt, and so it is final.
      have hanswer := hfinal _ (mem_exchanges_run_attempts manner name request
        (manner.policy.attempts - 1) 0 0 _) htakes
      rw [plainScript, List.map_cons, answer_of_takes manner request 0 0 htakes] at hanswer
      exact ⟨_, _, _, retriedAs_exchange_of_answered manner name request htakes
        (hsparing entry List.mem_cons_self) hanswer⟩

end Exchange

/-- **One call.**  It is one request, unless it has none. -/
theorem retriedAs_answer (call : TrackerCall) (received received' : List Request)
    (hsparing : ∀ entry ∈ entries, entry.IsSparing client.manner.policy.attempts)
    (hfinal : ∀ exchange ∈ ((client.answer call).run ScriptedServer.answer
      ⟨plainScript entries, refuses, received⟩).exchanges, IsFinal refuses exchange) :
    ∃ reply requests rest,
      RetriedAs (client.answer call) refuses entries received received' reply requests rest := by
  cases hrequest : client.request? call with
  | none =>
    have hanswer : client.answer call = .done (.error (.transport (operation call))) := by
      rw [Client.answer, hrequest]
    rw [hanswer]
    exact ⟨_, [], entries, .done _⟩
  | some request =>
    rw [answer_eq_of_request? request hrequest] at hfinal ⊢
    -- What is sent for the request is the first part of what is sent for the call.
    rw [Dialogue.exchanges_run_bind] at hfinal
    obtain ⟨result, requests, rest, h⟩ := retriedAs_exchange client.manner (operation call) request
      hsparing fun sent hmem => hfinal sent (List.mem_append_left _ hmem)
    obtain ⟨reply, hreply⟩ := mute_settled call result
    exact ⟨reply, requests ++ [], rest, h.bind ((RetriedAs.done reply).of_mute_eq hreply)⟩

/-! ### A run -/

/-- **The calls of any program.**  By induction on it: the next call starts where the script is left
by the one before. -/
theorem retriedAs_handle {α : Type} (x : TrackerDialogue CallError α)
    (received received' : List Request)
    (hsparing : ∀ entry ∈ entries, entry.IsSparing client.manner.policy.attempts)
    (hfinal : ∀ exchange ∈ ((x.handle client.answer).run ScriptedServer.answer
      ⟨plainScript entries, refuses, received⟩).exchanges, IsFinal refuses exchange) :
    ∃ reply requests rest,
      RetriedAs (x.handle client.answer) refuses entries received received' reply requests rest := by
  induction x generalizing entries received received' with
  | done value =>
    exact ⟨value, [], entries, .done value⟩
  | note entry rest ih =>
    obtain ⟨reply, requests, left, h⟩ := ih received received' hsparing hfinal
    exact ⟨reply, requests, left, h.of_mute_eq rfl⟩
  | ask call next ih =>
    rw [Dialogue.handle_ask, Dialogue.exchanges_run_bind] at hfinal
    obtain ⟨answer, requests, left, h⟩ := retriedAs_answer call received received' hsparing
      fun exchange hmem => hfinal exchange (List.mem_append_left _ hmem)
    -- The next call is asked with this answer, and finds the script that is left.
    rw [h.value_plain, h.state_plain] at hfinal
    obtain ⟨reply, later, rest, h'⟩ := ih answer _ _
      (fun entry hmem => hsparing entry (h.subset hmem))
      fun exchange hmem => hfinal exchange (List.mem_append_right _ hmem)
    exact ⟨reply, requests ++ later, rest, h.bind h'⟩

/-- **Retries are transparent to a run.**  Answers that another attempt may follow, inserted before
each answer of a script and fewer than a call has attempts, change neither the report nor the error.
Each request is sent once more for each of them, with nothing changed but the number of the attempt. -/
theorem runBot_retried (config : Config) (surroundings : Surroundings) (refuses : Bool)
    (entries : List ScriptEntry)
    (hsparing : ∀ entry ∈ entries, entry.IsSparing (max config.retryAttempts 1))
    (hfinal : ∀ exchange ∈ ((runBot config surroundings).run ScriptedServer.answer
      ⟨plainScript entries, refuses, []⟩).exchanges, IsFinal refuses exchange) :
    let plain := (runBot config surroundings).run ScriptedServer.answer
      ⟨plainScript entries, refuses, []⟩
    let retried := (runBot config surroundings).run ScriptedServer.answer
      ⟨retriedScript entries, refuses, []⟩
    retried.value = plain.value ∧
      ∃ requests, plain.state.received = requests.map (numbered · 0) ∧
        retried.state.received = resent (retryCounts entries) requests := by
  have hsame : ∃ reply requests rest,
      RetriedAs (runBot config surroundings) refuses entries [] [] reply requests rest := by
    -- Before the first request, the scripts cannot matter.
    cases hclient : makeClient config with
    | error cause =>
      rw [runBot, hclient]
      exact ⟨_, [], entries, .done _⟩
    | ok client =>
      cases hscripts : listScripts config surroundings with
      | error cause =>
        simp only [runBot, hclient, hscripts]
        exact ⟨_, [], entries, .done _⟩
      | ok scripts =>
        -- The rest is the event's run, handled by the client.
        have hready := runBot_eq_runReady hclient hscripts
        obtain ⟨repository, token, -, -, rfl⟩ := makeClient_eq_ok_iff.1 hclient
        rw [hready, (run_runReady ..).2.2] at hfinal
        obtain ⟨reply, requests, rest, h⟩ := retriedAs_handle _ [] [] hsparing hfinal
        have hbound := h.bind (f := fun result => .done (result.mapError BotError.run)) (.done _)
        rw [hready]
        exact ⟨_, _, _, hbound.of_mute_eq (mute_runReady ..)⟩
  obtain ⟨reply, requests, rest, h⟩ := hsame
  refine ⟨h.value_retried.trans h.value_plain.symm, requests, ?_, ?_⟩
  · rw [h.state_plain, List.nil_append]
  · rw [h.state_retried, List.nil_append]

/-- A run with three attempts for each call. -/
def patientConfig : Config where
  repository := "o/r"
  apiBase := "http://127.0.0.1:8080"
  token := "t"
  eventPath := "event.json"
  requestTimeout := 10000
  retryAttempts := 3
  retryDelay := 1
  scriptsDirectory := none
  scriptEnding := ".py"

/-- What such a run finds: the event that an issue was opened. -/
def openedSurroundings : Surroundings where
  file := fun _ =>
    .file (Text.utf8 "\x7b\"action\":\"opened\",\"issue\":\x7b\"number\":7\x7d\x7d".toList)
  entries? := fun _ => none

/-- That run, at a server with a script. -/
def patientRun (script : List Delivery) :
    Outcome Note Sending (fun _ => Delivery) ScriptedServer (Except BotError Report) :=
  (runBot patientConfig openedSurroundings).run ScriptedServer.answer ⟨script, false, []⟩

/-- The issue, which is about one platform, after two answers that pass, and a refusal to label it
after one. -/
def unsteadyEntries : List ScriptEntry :=
  [⟨[.timedOut, .answered 503 [] []],
      .answered 200 [] (Text.utf8 "\x7b\"id\":1,\"number\":7,\"title\":\"linux\"\x7d".toList)⟩,
    ⟨[.answered 429 [("retry-after", [48])] []], .answered 403 [] []⟩]

/-- On that script, a fetch is sent three times and a label twice. -/
theorem runBot_retried_of_unsteadyEntries :
    (∀ entry ∈ unsteadyEntries, entry.IsSparing (max patientConfig.retryAttempts 1)) ∧
      (∀ exchange ∈ (patientRun (plainScript unsteadyEntries)).exchanges,
        IsFinal false exchange) ∧
      (patientRun (retriedScript unsteadyEntries)).value
        = (patientRun (plainScript unsteadyEntries)).value ∧
      (∃ requests,
        (patientRun (plainScript unsteadyEntries)).state.received = requests.map (numbered · 0) ∧
          (patientRun (retriedScript unsteadyEntries)).state.received
            = resent [2, 1] requests) ∧
      (patientRun (retriedScript unsteadyEntries)).state.received.length = 5 := by
  have hsparing : ∀ entry ∈ unsteadyEntries,
      entry.IsSparing (max patientConfig.retryAttempts 1) := by
    simp only [unsteadyEntries, List.forall_mem_cons, List.not_mem_nil, false_imp_iff,
      implies_true, and_true, ScriptEntry.IsSparing]
    exact ⟨⟨by decide, .late, .passing rfl rfl⟩, by decide, .passing rfl (by decide +kernel)⟩
  have hfinal : ∀ exchange ∈ (patientRun (plainScript unsteadyEntries)).exchanges,
      IsFinal false exchange := by
    decide +kernel
  obtain ⟨hvalue, hreceived⟩ :=
    runBot_retried patientConfig openedSurroundings false unsteadyEntries hsparing hfinal
  exact ⟨hsparing, hfinal, hvalue, hreceived, by decide +kernel⟩

/-- An answer whose status passes, with a control character in a header. -/
def unintelligible : Delivery := .answered 503 [("retry-after", [0x7F])] []

/-- **An answer that cannot be understood is not followed by another attempt**, whatever its status:
it counts as a connection that breaks off. -/
theorem runBot_not_retried_of_unintelligible :
    isPassing 503 = true ∧ 1 < max patientConfig.retryAttempts 1 ∧
      (∀ exchange ∈ (patientRun [.answered 404 [] []]).exchanges, IsFinal false exchange) ∧
      (patientRun [.answered 404 [] []]).value.mapError BotError.message
        = .error "github api fetch issue failed with status 404: " ∧
      (patientRun [unintelligible, .answered 404 [] []]).value.mapError BotError.message
        = .error "github api fetch issue request failed" ∧
      (patientRun [unintelligible, .answered 404 [] []]).state.received.length = 1 := by
  decide +kernel

end Triage.GitHub
