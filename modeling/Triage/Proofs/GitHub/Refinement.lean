import Triage.Proofs.GitHub.Answers
import Triage.Proofs.GitHub.Requests
import Triage.Proofs.GitHub.Retries
import Triage.Proofs.Run.Memory

namespace Triage.GitHub

open Http Json

/-!
# The tracker behind the web interface

A server that answers each request like the tracker in memory answers the call is as good as that
tracker.

* `Carries`, `IsAnsweredBy` — a script that answers exchanges with a tracker.
* `run_answer_of_tells` — one call; `follows_answers` — the calls of a run, by induction on them.
* `map_asRead_faultlessExchanges` — what a client reads in a run without faults is such a run.
* `IsReadyAt` — a run that is ready to ask a server.
* `IsReadyAt.run_faultless` — the whole run: its report, and the requests that the server receives.
* `runBot_of_answers` — which are the report and the calls of the run in memory.
* `runBot_of_long_address` — a run whose first address is too long sends nothing.
-/

/-- The delivery arrives with success and this JSON as its body. -/
def Carries (delivery : Delivery) (value : Value) : Prop :=
  ∃ headers, delivery.arrived = .answered 200 headers (Text.utf8 value.render)

/-- Each exchange is answered by the delivery in its place of the script. -/
inductive IsAnsweredBy {ε : Type} : List (TrackerExchange ε) → List Delivery → Prop
  | nil (script : List Delivery) : IsAnsweredBy [] script
  | cons {exchange : TrackerExchange ε} {exchanges : List (TrackerExchange ε)} {value : Value}
      {delivery : Delivery} {script : List Delivery} (htells : Tells exchange value)
      (hcarries : Carries delivery value) (hlater : IsAnsweredBy exchanges script) :
      IsAnsweredBy (exchange :: exchanges) (delivery :: script)

/-- An answer without headers arrives as it is. -/
theorem carries_answered (value : Value) :
    Carries (.answered 200 [] (Text.utf8 value.render)) value := ⟨[], rfl⟩

/-! ### Calls -/

section Calls

variable {ε : Type} {client : Client} {origin : Origin}
  (hbase : withoutSlashes client.base = origin.text) (hplain : client.repository.IsPlain)
  (hserver : ScriptedServer.isAt origin.url.host = true)
include hbase hplain hserver

/-- **One call**, answered like this, is one request, and comes to the answer as it is read. -/
theorem run_answer_of_tells {exchange : TrackerExchange ε} {value : Value} {delivery : Delivery}
    (htells : Tells exchange value) (hfetched : FetchesProper exchange)
    (hcarries : Carries delivery value)
    (hfits : (written origin client.repository exchange.1).length ≤ maxAddress)
    (script : List Delivery) (received : List Request) :
    Dialogue.answererOf client.answer ScriptedServer.answer exchange.1
        ⟨delivery :: script, false, received⟩
      = ((asRead exchange).2,
          ⟨script, false, received ++ [numbered (requestOf origin client exchange.1) 0]⟩) := by
  obtain ⟨headers, harrived⟩ := hcarries
  have hrequest : client.request? exchange.1 = some (requestOf origin client exchange.1) := by
    rw [request?_eq hbase hplain, if_neg (Nat.not_lt.2 hfits)]
  have htakes : ScriptedServer.takes ⟨[], false, []⟩ (requestOf origin client exchange.1).url
      = true := by
    have hsecure : (requestOf origin client exchange.1).url.secure = false :=
      origin.secure_asked _
    have hat : ScriptedServer.isAt (requestOf origin client exchange.1).url.host = true := hserver
    rw [ScriptedServer.takes, hsecure, hat]
    rfl
  have hanswer : ScriptedServer.answer
      (client.manner.sending (requestOf origin client exchange.1) 0 0)
      ⟨delivery :: script, false, received⟩
        = (.answered 200 headers (Text.utf8 value.render),
            ⟨script, false, received ++ [numbered (requestOf origin client exchange.1) 0]⟩) := by
    rw [← harrived]
    exact answer_of_takes _ _ 0 0 htakes
  -- Success is final, so the first attempt settles the call.
  obtain ⟨hsettled, hstate⟩ := run_attempts_final client.manner (operation exchange.1)
    (requestOf origin client exchange.1) (client.manner.policy.attempts - 1) 0 0
    ⟨delivery :: script, false, received⟩ (by rw [hanswer]; rfl)
  rw [hanswer] at hsettled hstate
  obtain ⟨hvalue, hstate', -⟩ := Dialogue.run_congr_of_mute_eq ScriptedServer.answer
    ((mute_read_of_tells htells hfetched).trans (Dialogue.mute_done _).symm)
    ⟨script, false, received ++ [numbered (requestOf origin client exchange.1) 0]⟩
  -- The call is that request and the reading of its answer.
  rw [Dialogue.answererOf, answer_eq_of_request? _ hrequest, Dialogue.value_run_bind,
    Dialogue.state_run_bind]
  unfold GitHub.exchange
  rw [hsettled, hstate]
  exact Prod.ext hvalue hstate'

/-- **The calls of a run.** Each is one request, in order. -/
theorem follows_answers {exchanges : List (TrackerExchange ε)} {script : List Delivery}
    (hanswered : IsAnsweredBy exchanges script)
    (hfetched : ∀ exchange ∈ exchanges, FetchesProper exchange)
    (hfits : ∀ exchange ∈ exchanges,
      (written origin client.repository exchange.1).length ≤ maxAddress)
    (received : List Request) :
    ∃ rest, Answerer.Follows (Dialogue.answererOf client.answer ScriptedServer.answer)
      ⟨script, false, received⟩ (exchanges.map asRead)
      ⟨rest, false, received ++ exchanges.map fun exchange =>
        numbered (requestOf origin client exchange.1) 0⟩ := by
  induction hanswered generalizing received with
  | nil script =>
    rw [List.map_nil, List.map_nil, List.append_nil]
    exact ⟨script, .nil _⟩
  | @cons exchange exchanges value delivery script htells hcarries hlater ih =>
    -- The first exchange takes the first delivery, and the others what is left of the script.
    have hanswer := run_answer_of_tells hbase hplain hserver htells
      (hfetched exchange List.mem_cons_self) hcarries (hfits exchange List.mem_cons_self) script
      received
    obtain ⟨rest, hrest⟩ := ih
      (fun other hmem => hfetched other (List.mem_cons_of_mem _ hmem))
      (fun other hmem => hfits other (List.mem_cons_of_mem _ hmem))
      (received ++ [numbered (requestOf origin client exchange.1) 0])
    rw [List.append_assoc, List.singleton_append] at hrest
    exact ⟨rest, .cons hanswer hrest⟩

end Calls

/-! ### What is read in a run -/

section Read

variable {ε : Type} (table : KeywordTable) (kind : EventKind) (issue : Issue)

/-- The plan of labels is the same for the issue as it is read. -/
theorem plan_asRead :
    plan (eventCandidates table kind issue.asRead) issue.asRead
      = plan (eventCandidates table kind issue) issue :=
  plan_congr _ rfl issue.isPullRequest_asRead

/-- A pull request member that is null does not matter to a report. -/
theorem faultlessReport_asRead :
    faultlessReport table kind issue.asRead = faultlessReport table kind issue := by
  rw [faultlessReport, plan_asRead, issue.isPullRequest_asRead]
  rfl

/-- Labels are read as they are put up. -/
theorem map_asRead_labelExchanges (labels : List Label) :
    (labelExchanges issue labels : List (TrackerExchange ε)).map asRead
      = labelExchanges issue.asRead labels := by
  induction labels generalizing issue with
  | nil => rfl
  | cons label rest ih =>
    -- The next label goes to the issue with this one.
    rw [labelExchanges, List.map_cons, ih (issue.assign [label])]
    rfl

/-- A comment and the closing are read as they are made. -/
theorem map_asRead_closingExchanges :
    (closingExchanges kind issue : List (TrackerExchange ε)).map asRead
      = closingExchanges kind issue.asRead := by
  have hanswered : isAnswered kind issue.asRead = isAnswered kind issue := rfl
  rw [closingExchanges, closingExchanges, hanswered]
  split
  · rfl
  · rfl

/-- **A run without faults is read as such a run**, on the issue as it is read. -/
theorem map_asRead_faultlessExchanges :
    (faultlessExchanges table kind issue : List (TrackerExchange ε)).map asRead
      = faultlessExchanges table kind issue.asRead := by
  rw [faultlessExchanges, List.map_cons, List.map_append, map_asRead_labelExchanges,
    map_asRead_closingExchanges, faultlessExchanges, plan_asRead]
  rfl

/-- To label an issue does not fetch it. -/
theorem not_fetch_of_mem_labelExchanges {labels : List Label} {exchange : TrackerExchange ε}
    (h : exchange ∈ labelExchanges issue labels) (number : Nat) : exchange.1 ≠ .fetch number := by
  induction labels generalizing issue with
  | nil => exact absurd h List.not_mem_nil
  | cons label rest ih =>
    rcases List.mem_cons.1 h with rfl | h
    · exact TrackerCall.noConfusion
    · exact ih _ h

/-- To close an issue does not fetch it. -/
theorem not_fetch_of_mem_closingExchanges {exchange : TrackerExchange ε}
    (h : exchange ∈ closingExchanges kind issue) (number : Nat) : exchange.1 ≠ .fetch number := by
  unfold closingExchanges at h
  split at h
  · simp only [List.mem_cons, List.not_mem_nil, or_false] at h
    rcases h with rfl | rfl
    · exact TrackerCall.noConfusion
    · exact TrackerCall.noConfusion
  · exact absurd h List.not_mem_nil

/-- The issue is all that is fetched in such a run. -/
theorem fetchesProper_of_mem_faultlessExchanges (hproper : issue.IsProper)
    {exchange : TrackerExchange ε} (h : exchange ∈ faultlessExchanges table kind issue) :
    FetchesProper exchange := by
  rintro number fetched rfl
  rcases List.mem_cons.1 h with h | h
  · cases h
    exact hproper
  · rcases List.mem_append.1 h with h | h
    · exact absurd rfl (not_fetch_of_mem_labelExchanges _ h number)
    · exact absurd rfl (not_fetch_of_mem_closingExchanges _ _ h number)

end Read

/-! ### Runs -/

/-- Everything is checked, and the server is where the client is to ask. -/
structure IsReadyAt (origin : Origin) (config : Config) (surroundings : Surroundings)
    (repository : Repository) (scripts : Option (String × List String)) : Prop where
  isAt : ScriptedServer.isAt origin.url.host = true
  base : withoutSlashes config.apiBase = origin.text
  slug : config.repository = repository.slug
  plain : repository.IsPlain
  token : ∃ token, checkToken config.token = .ok token
  scripts : listScripts config surroundings = .ok scripts

section Runs

variable {origin : Origin} {config : Config} {surroundings : Surroundings}
  {repository : Repository} {scripts : Option (String × List String)}

/-- Repository and token pass their checks. -/
theorem IsReadyAt.makeClient_eq (h : IsReadyAt origin config surroundings repository scripts) :
    ∃ token, makeClient config = .ok (clientOf config repository token) := by
  obtain ⟨token, htoken⟩ := h.token
  have hrepository : checkRepository config.repository = .ok repository := by
    rw [checkRepository, h.slug, h.plain.parse?_slug]
  exact ⟨token, makeClient_eq_ok_iff.2 ⟨repository, token, hrepository, htoken, rfl⟩⟩

/-- The run is that of the event, at the client's tracker. -/
theorem IsReadyAt.exists_client (h : IsReadyAt origin config surroundings repository scripts) :
    ∃ client : Client, withoutSlashes client.base = origin.text ∧ client.repository = repository ∧
      ∀ server : ScriptedServer,
        let asked := (runEvent (keywordTable scripts) (.atPath config.eventPath)
          (surroundings.file config.eventPath)).run
            (Dialogue.answererOf client.answer ScriptedServer.answer) server
        let web := (runBot config surroundings).run ScriptedServer.answer server
        web.value = asked.value.mapError .run ∧ web.state = asked.state := by
  obtain ⟨token, hclient⟩ := h.makeClient_eq
  refine ⟨clientOf config repository token, h.base, rfl, fun server => ?_⟩
  obtain ⟨hvalue, hstate, -⟩ := run_runReady ScriptedServer.answer config surroundings
    (clientOf config repository token) scripts server
  obtain ⟨hvalue', hstate'⟩ := Dialogue.run_handle
    (clientOf config repository token).answer ScriptedServer.answer
    (runEvent (keywordTable scripts) (.atPath config.eventPath)
      (surroundings.file config.eventPath)) server
  rw [runBot_eq_runReady hclient h.scripts]
  exact ⟨hvalue.trans (congrArg _ hvalue'), hstate.trans hstate'⟩

/-- **A run that is answered as it expects** comes to the report that it expects, and the requests
denote the calls, each one once. -/
theorem IsReadyAt.run_faultless {ε : Type}
    (h : IsReadyAt origin config surroundings repository scripts) {payload : Payload} {issue : Issue}
    (hproper : issue.IsProper)
    (hevent : (EventLoader.atPath config.eventPath).subject (surroundings.file config.eventPath)
      = .ok (payload, issue.number))
    {exchanges : List (TrackerExchange ε)}
    (hexchanges : exchanges = faultlessExchanges (keywordTable scripts) payload.kind issue)
    {script : List Delivery} (hanswered : IsAnsweredBy exchanges script)
    (hfits : ∀ exchange ∈ exchanges,
      (written origin repository exchange.1).length ≤ maxAddress) :
    let web := (runBot config surroundings).run ScriptedServer.answer ⟨script, false, []⟩
    web.value = .ok (faultlessReport (keywordTable scripts) payload.kind issue) ∧
      web.state.received.map (calledBy? repository) = exchanges.map fun exchange =>
        some exchange.1 := by
  intro web
  obtain ⟨client, hbase, rfl, hrun⟩ := h.exists_client
  have hfetched : ∀ exchange ∈ exchanges, FetchesProper exchange := by
    intro exchange hmem
    rw [hexchanges] at hmem
    exact fetchesProper_of_mem_faultlessExchanges _ _ issue hproper hmem
  obtain ⟨rest, hfollows⟩ := follows_answers hbase h.plain h.isAt hanswered hfetched hfits []
  -- What the client reads are the answers that lead the run on the issue as it is read.
  have hread : (EventLoader.atPath config.eventPath).subject
      (surroundings.file config.eventPath) = .ok (payload, issue.asRead.number) := hevent
  have hled : exchanges.map asRead
      = faultlessExchanges (keywordTable scripts) payload.kind issue.asRead := by
    rw [hexchanges, map_asRead_faultlessExchanges]
  rw [hled] at hfollows
  obtain ⟨hasked, hserver, -⟩ := (leads_runEvent (keywordTable scripts) hread).run hfollows
  obtain ⟨hweb, hreceived⟩ := hrun ⟨script, false, []⟩
  rw [hasked, faultlessReport_asRead] at hweb
  rw [hserver] at hreceived
  refine ⟨hweb, ?_⟩
  rw [show web.state.received = _ from congrArg _ hreceived, List.nil_append, List.map_map]
  refine List.map_congr_left fun exchange _ => ?_
  rw [Function.comp_apply, calledBy?_numbered, calledBy?_requestOf origin h.plain]

/-- **The web interface refines the tracker.**  If the server answers each request like the tracker in
memory answers the call, then both runs come to the same report, and the requests denote the calls,
each one once. -/
theorem runBot_of_answers (hready : IsReadyAt origin config surroundings repository scripts)
    {payload : Payload} {issue : Issue} (hproper : issue.IsProper)
    (hevent : (EventLoader.atPath config.eventPath).subject (surroundings.file config.eventPath)
      = .ok (payload, issue.number))
    {script : List Delivery} :
    let memory := runInMemory (keywordTable scripts) (.atPath config.eventPath)
      (surroundings.file config.eventPath) ⟨issue, [], []⟩
    let web := (runBot config surroundings).run ScriptedServer.answer ⟨script, false, []⟩
    IsAnsweredBy memory.exchanges script →
      (∀ call ∈ memory.questions, (written origin repository call).length ≤ maxAddress) →
      (∃ report, memory.value = .ok report ∧ web.value = .ok report) ∧
        web.state.received.map (calledBy? repository) = memory.questions.map some := by
  intro memory web hanswered hfits
  -- The run in memory is the one without faults, whose exchanges are known.
  obtain ⟨hvalue, hexchanges⟩ := runEvent_faultless (keywordTable scripts) hevent
  have hquestions : memory.questions = memory.exchanges.map (·.1) :=
    Outcome.questions_eq_map_exchanges memory
  have hshort : ∀ exchange ∈ memory.exchanges,
      (written origin repository exchange.1).length ≤ maxAddress := by
    intro exchange hmem
    refine hfits exchange.1 ?_
    rw [hquestions]
    exact List.mem_map_of_mem hmem
  obtain ⟨hweb, hreceived⟩ := hready.run_faultless hproper hevent hexchanges hanswered hshort
  refine ⟨⟨_, hvalue, hweb⟩, hreceived.trans ?_⟩
  rw [hquestions, List.map_map]
  rfl

/-- **A run whose first address is too long** fails without a request. -/
theorem runBot_of_long_address (hready : IsReadyAt origin config surroundings repository scripts)
    {payload : Payload} {number : Nat}
    (hevent : (EventLoader.atPath config.eventPath).subject (surroundings.file config.eventPath)
      = .ok (payload, number))
    (hlong : maxAddress < (written origin repository (.fetch number)).length)
    (server : ScriptedServer) :
    let web := (runBot config surroundings).run ScriptedServer.answer server
    web.value = .error (.run (.tracker (.transport "fetch issue"))) ∧ web.state = server := by
  intro web
  obtain ⟨client, hbase, rfl, hrun⟩ := hready.exists_client
  have hrequest : client.request? (.fetch number) = none := by
    rw [request?_eq hbase hready.plain, if_pos hlong]
  -- The first call has no request, so it fails and the server is not asked.
  have hanswer : Dialogue.answererOf client.answer ScriptedServer.answer (.fetch number) server
      = (.error (.transport "fetch issue"), server) := by
    rw [Dialogue.answererOf, Client.answer, hrequest]
    rfl
  obtain ⟨hasked, hserver, -⟩ := (leads_runEvent_of_error (keywordTable scripts) hevent
    (CallError.transport "fetch issue")).run (.cons hanswer (.nil server))
  obtain ⟨hweb, hstate⟩ := hrun server
  rw [hasked] at hweb
  rw [hserver] at hstate
  exact ⟨hweb, hstate⟩

end Runs

/-! ### A run on one issue -/

/-- The configuration with three attempts, for another repository. -/
def patientConfigFor (repository : Repository) : Config :=
  { patientConfig with repository := repository.slug }

/-- An issue that is about one platform. -/
def linuxIssue : Issue where
  id := 1
  number := 7
  title := "linux"
  body := none
  state := "open"
  labels := []
  pullRequest := none

/-- The run on that issue at a tracker in memory. -/
def linuxRun : MemoryOutcome (Except (RunError MemoryError) Report) :=
  runInMemory (keywordTable none) (.atPath "event.json") (openedSurroundings.file "event.json")
    ⟨linuxIssue, [], []⟩

/-- The answers of that tracker, as a script. -/
def linuxScript : List Delivery :=
  [.answered 200 [] (Text.utf8 linuxIssue.toJson.render),
    .answered 200 [] (Text.utf8 (labelsJson ["linux"]).render)]

/-- The numbers of that issue have 64 bits, and it is no pull request. -/
theorem isProper_linuxIssue : linuxIssue.IsProper where
  id_le := by decide
  number_le := by decide
  pullRequest := by simp [linuxIssue]

/-- The event is that the issue was opened. -/
theorem subject_openedSurroundings :
    ∃ payload : Payload, payload.kind = .newIssue ∧
      (EventLoader.atPath "event.json").subject (openedSurroundings.file "event.json")
        = .ok (payload, linuxIssue.number) := by
  -- The event holds a document that is large in writing, so only its kind and number are evaluated.
  have hnamed : ((EventLoader.atPath "event.json").subject
      (openedSurroundings.file "event.json")).toOption.map (fun subject => (subject.1.kind, subject.2))
        = some (.newIssue, 7) := by
    decide +kernel
  cases hsubject : (EventLoader.atPath "event.json").subject
      (openedSurroundings.file "event.json") with
  | error cause =>
    rw [hsubject] at hnamed
    exact nomatch hnamed
  | ok subject =>
    rw [hsubject] at hnamed
    obtain ⟨payload, number⟩ := subject
    simp only [Except.toOption, Option.map_some, Option.some.injEq, Prod.mk.injEq] at hnamed
    obtain ⟨hkind, rfl⟩ := hnamed
    exact ⟨payload, hkind, rfl⟩

/-- The issue is fetched, and labelled once. -/
theorem exchanges_linuxRun :
    linuxRun.exchanges
      = [⟨.fetch 7, .ok linuxIssue⟩, ⟨.addLabel 7 "linux", .ok ["linux"]⟩] := by
  obtain ⟨payload, hkind, hsubject⟩ := subject_openedSurroundings
  have hplan : plan (eventCandidates (keywordTable none) .newIssue linuxIssue) linuxIssue
      = ["linux"] := by
    decide +kernel
  have hunanswered : isAnswered .newIssue linuxIssue = false := by decide +kernel
  -- The exchanges of a run without faults are known from its plan.
  rw [show linuxRun.exchanges = _ from (runEvent_faultless (keywordTable none) hsubject).2, hkind,
    faultlessExchanges, hplan, closingExchanges, hunanswered]
  rfl

/-- The script answers what is asked in memory. -/
theorem isAnsweredBy_linuxScript : IsAnsweredBy linuxRun.exchanges linuxScript := by
  rw [exchanges_linuxRun]
  exact .cons (.fetch 7 linuxIssue) (carries_answered _)
    (.cons (.addLabel 7 "linux" ["linux"]) (carries_answered _) (.nil []))

/-- A plain repository is ready to be asked for. -/
theorem isReadyAt_patientConfigFor {repository : Repository} (h : repository.IsPlain) :
    IsReadyAt .machine (patientConfigFor repository) openedSurroundings repository none where
  isAt := rfl
  base := by
    show withoutSlashes "http://127.0.0.1:8080" = Origin.machine.text
    decide
  slug := rfl
  plain := h
  token := by
    show ∃ token, checkToken "t" = .ok token
    exact ⟨"t", rfl⟩
  scripts := rfl

/-- The run on that issue at a server that answers like this, for a repository. -/
def linuxWebRun (repository : Repository) (script : List Delivery) :
    Outcome Note Sending (fun _ => Delivery) ScriptedServer (Except BotError Report) :=
  (runBot (patientConfigFor repository) openedSurroundings).run ScriptedServer.answer
    ⟨script, false, []⟩

/-- The issue is fetched, and labelled once. -/
theorem questions_linuxRun : linuxRun.questions = [.fetch 7, .addLabel 7 "linux"] := by
  rw [Outcome.questions_eq_map_exchanges, exchanges_linuxRun]
  rfl

/-- On a short repository, a label is asked for over the web as it is in memory. -/
theorem runBot_of_answers_of_linuxScript :
    IsAnsweredBy linuxRun.exchanges linuxScript ∧
      (∃ report, linuxRun.value = .ok report ∧
        (linuxWebRun ⟨"o", "r"⟩ linuxScript).value = .ok report) ∧
      (linuxWebRun ⟨"o", "r"⟩ linuxScript).state.received.map (calledBy? ⟨"o", "r"⟩)
        = [some (.fetch 7), some (.addLabel 7 "linux")] := by
  have hplain : Repository.IsPlain ⟨"o", "r"⟩ :=
    ⟨by decide, by decide, List.all_iff_forall_prop.1 (by decide),
      List.all_iff_forall_prop.1 (by decide)⟩
  obtain ⟨payload, -, hsubject⟩ := subject_openedSurroundings
  have hfits : ∀ call ∈ linuxRun.questions,
      (written .machine ⟨"o", "r"⟩ call).length ≤ maxAddress := by
    rw [questions_linuxRun]
    decide
  obtain ⟨hreport, hreceived⟩ := runBot_of_answers (isReadyAt_patientConfigFor hplain)
    isProper_linuxIssue hsubject isAnsweredBy_linuxScript hfits
  have hcalls : linuxRun.questions.map some = [some (.fetch 7), some (.addLabel 7 "linux")] := by
    rw [questions_linuxRun]
    rfl
  exact ⟨isAnsweredBy_linuxScript, hreport, hreceived.trans hcalls⟩

/-- A repository whose owner has a name of so many letters. -/
def repositoryOf (letters : Nat) : Repository := ⟨String.ofList (List.replicate letters 'a'), "r"⟩

theorem toList_owner_repositoryOf (letters : Nat) :
    (repositoryOf letters).owner.toList = List.replicate letters 'a' := String.toList_ofList

theorem isPlain_repositoryOf {letters : Nat} (h : letters ≠ 0) : (repositoryOf letters).IsPlain where
  owner_ne := by
    rw [toList_owner_repositoryOf, ne_eq, List.replicate_eq_nil_iff]
    exact h
  name_ne := by
    show "r".toList ≠ []
    decide
  owner := by
    intro c hmem
    rw [toList_owner_repositoryOf] at hmem
    rw [List.eq_of_mem_replicate hmem]
    decide
  name := by
    show ∀ c ∈ "r".toList, isPlainChar c = true
    exact List.all_iff_forall_prop.1 (by decide)

/-- An address holds the name of the owner. -/
theorem lt_length_written {letters : Nat} (h : maxAddress < letters) (origin : Origin)
    (call : TrackerCall) : maxAddress < (written origin (repositoryOf letters) call).length := by
  refine Nat.lt_of_lt_of_le h ?_
  -- The owner's name is a part of the address.
  simp only [written, segments, pathText, List.flatMap_cons, List.length_append, List.length_cons,
    toList_owner_repositoryOf, List.length_replicate]
  omega

/-- With an owner whose name alone is too long, nothing is sent. -/
theorem linuxWebRun_of_long_owner {letters : Nat} (h : maxAddress < letters)
    (script : List Delivery) :
    IsReadyAt .machine (patientConfigFor (repositoryOf letters)) openedSurroundings
        (repositoryOf letters) none ∧
      (linuxWebRun (repositoryOf letters) script).value
        = .error (.run (.tracker (.transport "fetch issue"))) ∧
      (linuxWebRun (repositoryOf letters) script).state.received = [] := by
  have hready := isReadyAt_patientConfigFor (isPlain_repositoryOf (Nat.ne_zero_of_lt h))
  obtain ⟨payload, -, hsubject⟩ := subject_openedSurroundings
  have hlong := lt_length_written h .machine (.fetch linuxIssue.number)
  obtain ⟨hvalue, hstate⟩ := runBot_of_long_address hready hsubject hlong ⟨script, false, []⟩
  unfold linuxWebRun
  rw [hvalue, hstate]
  exact ⟨hready, rfl, rfl⟩

/-- The answers of the tracker in memory, with a control character in a header of the first one. -/
def garbledScript : List Delivery :=
  .answered 200 [("x", [0x7F])] (Text.utf8 linuxIssue.toJson.render) :: linuxScript.drop 1

/-- **A plain repository may be too long.**  Then the same script is not asked for anything, and the
run fails where that in memory does not.  On a short one it fails if an answer cannot be understood. -/
theorem runBot_unasked_of_long_owner :
    linuxIssue.IsProper ∧ IsAnsweredBy linuxRun.exchanges linuxScript ∧
      (∃ report, linuxRun.value = .ok report) ∧
      linuxRun.questions = [.fetch 7, .addLabel 7 "linux"] ∧
      (IsReadyAt .machine (patientConfigFor (repositoryOf 70000)) openedSurroundings
          (repositoryOf 70000) none ∧
        (linuxWebRun (repositoryOf 70000) linuxScript).value
          = .error (.run (.tracker (.transport "fetch issue"))) ∧
        (linuxWebRun (repositoryOf 70000) linuxScript).state.received = []) ∧
      (linuxWebRun ⟨"o", "r"⟩ garbledScript).value.mapError BotError.message
        = .error "github api fetch issue request failed" := by
  obtain ⟨payload, -, hsubject⟩ := subject_openedSurroundings
  have hreport := (runEvent_faultless (keywordTable none) hsubject).1
  have hunasked := linuxWebRun_of_long_owner (show maxAddress < 70000 by decide) linuxScript
  have hgarbled : (linuxWebRun ⟨"o", "r"⟩ garbledScript).value.mapError BotError.message
      = .error "github api fetch issue request failed" := by
    decide +kernel
  refine ⟨isProper_linuxIssue, isAnsweredBy_linuxScript, ?_, questions_linuxRun, hunasked, hgarbled⟩
  unfold linuxRun
  exact ⟨_, hreport⟩

end Triage.GitHub
