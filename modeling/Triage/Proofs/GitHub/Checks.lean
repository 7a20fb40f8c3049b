import Triage.Proofs.GitHub.Acknowledgement
import Triage.Proofs.GitHub.Refinement

namespace Triage.GitHub

open Http Json

/-!
# Checks before anything is sent

A run first checks what it can without the server. The first check that fails is its error, and then
nothing is sent.

* `localChecks`, `firstFailure?` — the checks in their order, and the error of the first that fails.
* `firstFailure?_eq` — what the parts of a run find is what the checks say.
* `runBot_of_failure` — a run with a failed check; `runBot_of_checked` — one that goes on.
* `runBot_checks_first` — the two together.
-/

/-! ### The checks -/

/-- The cause, unless the check has passed. -/
def causeUnless (passed : Bool) (cause : BotError) : Option BotError :=
  if passed then none else some cause

/-- The token without white space around it. -/
def trimmedToken (config : Config) : String := String.ofList (Text.trim config.token.toList)

/-- The checks in their order, each with its error if it fails: the repository has an owner and a
name, the token holds something and can be sent, the directory of the scripts can be listed if there
is one, and so can each of its entries, the file of the event holds text, the text is JSON, and it has a
number. -/
def localChecks (config : Config) (surroundings : Surroundings) : List (Option BotError) :=
  let token := trimmedToken config
  let text? := (surroundings.file config.eventPath).text?
  let raw? := text?.bind Value.ofString?
  let number? := raw?.bind fun raw => (Payload.mk raw).number?
  [causeUnless (Repository.parse? config.repository).isSome (.repository config.repository),
    causeUnless (!token.toList.isEmpty) .noToken,
    causeUnless (("Bearer " ++ token).toList.all isHeaderChar) .badToken,
    config.scriptsDirectory.bind fun directory =>
      causeUnless (surroundings.entries? directory).isSome (.unlistable directory),
    config.scriptsDirectory.bind fun directory =>
      (surroundings.entryFault? directory).map (.entry directory),
    causeUnless text?.isSome (.run (.event (.unreadable config.eventPath))),
    causeUnless raw?.isSome (.run (.event (.malformed config.eventPath))),
    causeUnless number?.isSome (.run (.event .noNumber))]

/-- The error of the first check that fails. -/
def firstFailure? (config : Config) (surroundings : Surroundings) : Option BotError :=
  (localChecks config surroundings).findSome? id

/-- The cause of a failure. -/
def causeOf? {ε α : Type} : Except ε α → Option ε
  | .error cause => some cause
  | .ok _ => none

/-- The first of some results is the head, if there is one in it. -/
theorem findSome?_id_cons {α : Type} (first : Option α) (rest : List (Option α)) :
    (first :: rest).findSome? id = first.or (rest.findSome? id) := by
  cases first <;> rfl

/-- There is no cause exactly if there is a value. -/
theorem causeOf?_eq_none_iff {ε α : Type} {result : Except ε α} :
    causeOf? result = none ↔ ∃ value, result = .ok value := by
  cases result <;> simp [causeOf?]

/-- The event of a run, and its number. -/
def eventSubject (config : Config) (surroundings : Surroundings) :
    Except EventError (Payload × Nat) :=
  (EventLoader.atPath config.eventPath).subject (surroundings.file config.eventPath)

section Checks

variable (config : Config) (surroundings : Surroundings)

/-- Of the repository one check is made. -/
theorem causeOf?_checkRepository :
    causeOf? (checkRepository config.repository)
      = causeUnless (Repository.parse? config.repository).isSome (.repository config.repository) := by
  unfold checkRepository
  cases Repository.parse? config.repository <;> rfl

/-- Of the token two checks are made: whether there is one, and whether it can be sent. -/
theorem causeOf?_checkToken :
    causeOf? (checkToken config.token)
      = (causeUnless (!(trimmedToken config).toList.isEmpty) .noToken).or
          (causeUnless (("Bearer " ++ trimmedToken config).toList.all isHeaderChar) .badToken) := by
  have hscheme : "Bearer ".toList.all isHeaderChar = true := by decide
  have hbearer : ("Bearer " ++ trimmedToken config).toList.all isHeaderChar
      = (Text.trim config.token.toList).all isHeaderChar := by
    rw [String.toList_append, List.all_append, hscheme, Bool.true_and, trimmedToken,
      String.toList_ofList]
  -- The scheme in front can be sent, so it is the token that decides.
  rw [hbearer, trimmedToken, String.toList_ofList]
  simp only [checkToken]
  by_cases hempty : (Text.trim config.token.toList).isEmpty = true
  · simp [hempty, causeUnless, causeOf?]
  · by_cases hlegal : (Text.trim config.token.toList).all isHeaderChar = true
    · simp [hempty, hlegal, causeUnless, causeOf?]
    · simp [hempty, hlegal, causeUnless, causeOf?]

/-- A directory that cannot be listed counts before a fault among its entries. -/
theorem causeOf?_listScripts :
    causeOf? (listScripts config surroundings)
      = (config.scriptsDirectory.bind fun directory =>
          causeUnless (surroundings.entries? directory).isSome (.unlistable directory)).or
        (config.scriptsDirectory.bind fun directory =>
          (surroundings.entryFault? directory).map (.entry directory)) := by
  unfold listScripts
  cases config.scriptsDirectory with
  | none => rfl
  | some directory =>
    simp only [Option.bind_some]
    cases surroundings.entries? directory with
    | none => rfl
    | some entries => cases surroundings.entryFault? directory <;> rfl

/-- Of the event three checks are made, each of what the one before has found. -/
theorem causeOf?_eventSubject :
    (causeOf? (eventSubject config surroundings)).map (fun cause => BotError.run (.event cause))
      = let text? := (surroundings.file config.eventPath).text?
        let raw? := text?.bind Value.ofString?
        let number? := raw?.bind fun raw => (Payload.mk raw).number?
        (causeUnless text?.isSome (.run (.event (.unreadable config.eventPath)))).or
          ((causeUnless raw?.isSome (.run (.event (.malformed config.eventPath)))).or
            (causeUnless number?.isSome (.run (.event .noNumber)))) := by
  unfold eventSubject EventLoader.subject EventLoader.event EventLoader.atPath Payload.read
  -- Text, document and number, one after the other.
  cases (surroundings.file config.eventPath).text? with
  | none => rfl
  | some text =>
    cases hraw : Value.ofString? text with
    | none => simp [hraw, causeUnless, causeOf?, bind, Except.bind]
    | some raw =>
      cases hnumber : (Payload.mk raw).number? with
      | none => simp [hraw, hnumber, Payload.number, causeUnless, causeOf?, bind, Except.bind]
      | some number =>
        simp [hraw, hnumber, Payload.number, causeUnless, causeOf?, bind, Except.bind, pure,
          Except.pure]

/-- A client fails by its repository before it fails by its token. -/
theorem causeOf?_makeClient :
    causeOf? (makeClient config)
      = (causeOf? (checkRepository config.repository)).or (causeOf? (checkToken config.token)) := by
  unfold makeClient
  cases checkRepository config.repository with
  | error cause => rfl
  | ok repository =>
    cases checkToken config.token with
    | error cause => rfl
    | ok token => rfl

/-- **The checks say what the parts of a run find**, in the order in which it looks at them. -/
theorem firstFailure?_eq :
    firstFailure? config surroundings
      = (causeOf? (makeClient config)).or ((causeOf? (listScripts config surroundings)).or
          ((causeOf? (eventSubject config surroundings)).map fun cause => .run (.event cause))) := by
  rw [causeOf?_makeClient, causeOf?_checkRepository, causeOf?_checkToken, causeOf?_listScripts,
    causeOf?_eventSubject]
  simp only [firstFailure?, localChecks, findSome?_id_cons, List.findSome?_nil, Option.or_none,
    Option.or_assoc]

/-- No check fails exactly if each part of the run finds what it needs. -/
theorem firstFailure?_eq_none_iff :
    firstFailure? config surroundings = none ↔ (∃ client, makeClient config = .ok client) ∧
      (∃ scripts, listScripts config surroundings = .ok scripts) ∧
        ∃ subject, eventSubject config surroundings = .ok subject := by
  rw [firstFailure?_eq, Option.or_eq_none_iff, Option.or_eq_none_iff, Option.map_eq_none_iff,
    causeOf?_eq_none_iff, causeOf?_eq_none_iff, causeOf?_eq_none_iff]

/-- The repository and the token of a client are those that were checked. -/
theorem eq_clientOf_of_makeClient {client : Client} (h : makeClient config = .ok client) :
    ∃ repository, Repository.parse? config.repository = some repository ∧
      client = clientOf config repository (trimmedToken config) := by
  obtain ⟨repository, token, hrepository, htoken, rfl⟩ := makeClient_eq_ok_iff.1 h
  have hparse : Repository.parse? config.repository = some repository := by
    unfold checkRepository at hrepository
    split at hrepository
    · rename_i parsed hparsed
      rw [hparsed, Except.ok.inj hrepository]
    · cases hrepository
  have htrimmed : token = trimmedToken config := by
    simp only [checkToken] at htoken
    -- A token that is accepted is the one that was trimmed.
    split at htoken
    · cases htoken
    · split at htoken
      · exact (Except.ok.inj htoken).symm
      · cases htoken
  exact ⟨repository, hparse, by rw [htrimmed]⟩

end Checks

/-! ### The run -/

section Run

variable {σ : Type} {config : Config} {surroundings : Surroundings}
  (answerer : Answerer Sending (fun _ => Delivery) σ) (state : σ)

/-- The client's run of an event, in outline. -/
theorem run_runReady_outline (client : Client) (scripts : Option (String × List String)) :
    let ready := (runReady config surroundings client scripts).run answerer state
    let handled := ((outline (keywordTable scripts) (eventSubject config surroundings)).handle
      client.answer).run answerer state
    ready.value = handled.value.mapError .run ∧ ready.state = handled.state ∧
      ready.exchanges = handled.exchanges := by
  intro ready handled
  have hmute : ((outline (keywordTable scripts) (eventSubject config surroundings)).handle
      client.answer).mute = ((runEvent (keywordTable scripts) (.atPath config.eventPath)
        (surroundings.file config.eventPath)).handle client.answer).mute := by
    rw [← Dialogue.mute_handle client.answer (runEvent _ _ _), mute_runEvent]
    rfl
  obtain ⟨hvalue, hstate, hexchanges⟩ := Dialogue.run_congr_of_mute_eq answerer hmute state
  obtain ⟨hvalue', hstate', hexchanges'⟩ :=
    run_runReady answerer config surroundings client scripts state
  exact ⟨hvalue'.trans (congrArg _ hvalue.symm), hstate'.trans hstate.symm,
    hexchanges'.trans hexchanges.symm⟩

/-- **A run with a failed check** comes to the error of the first one, and sends nothing. -/
theorem runBot_of_failure {cause : BotError} (h : firstFailure? config surroundings = some cause) :
    let run := (runBot config surroundings).run answerer state
    run.value = .error cause ∧ run.exchanges = [] ∧ run.state = state := by
  intro run
  rw [firstFailure?_eq] at h
  cases hclient : makeClient config with
  | error first =>
    have hrun : runBot config surroundings = .done (.error first) := by
      simp only [runBot, hclient]
    rw [hclient] at h
    cases h
    simp only [run, hrun]
    exact ⟨rfl, rfl, rfl⟩
  | ok client =>
    cases hscripts : listScripts config surroundings with
    | error second =>
      have hrun : runBot config surroundings = .done (.error second) := by
        simp only [runBot, hclient, hscripts]
      rw [hclient, hscripts] at h
      cases h
      simp only [run, hrun]
      exact ⟨rfl, rfl, rfl⟩
    | ok scripts =>
      cases hsubject : eventSubject config surroundings with
      | error third =>
        rw [hclient, hscripts, hsubject] at h
        cases h
        -- The client and the scripts are there, so the event's run is what fails.
        obtain ⟨hvalue, hstate, hexchanges⟩ :=
          @run_runReady_outline _ config surroundings answerer state client scripts
        rw [← runBot_eq_runReady hclient hscripts, hsubject] at hvalue hstate hexchanges
        exact ⟨hvalue, hexchanges, hstate⟩
      | ok subject =>
        rw [hclient, hscripts, hsubject] at h
        cases h

/-- A run at a server: every request states the token, and the first one is to fetch the issue of the
event, if the names in its path stand for themselves and its address is not too long. -/
structure AsksFor (origin : Origin) (token : String) (repository : Repository) (number : Nat)
    (sent : List SentRequest) : Prop where
  authorized : ∀ exchange ∈ sent,
    exchange.1.request.headers.lookup "authorization" = some ("Bearer " ++ token)
  first : repository.IsSafe → (written origin repository (.fetch number)).length ≤ maxAddress →
    ∃ fetched rest, sent = fetched :: rest ∧ fetched.1.request.method = "GET" ∧
      fetched.1.request.url = { origin.url with
        target := "/repos/" ++ repository.slug ++ ("/issues/" ++ toString number) }

/-- The first request of a call with a request is that one. -/
theorem IsSentFor.exists_first {client : Client} {call : TrackerCall} {sent : List SentRequest}
    {request : Request} (h : IsSentFor client call sent) (hrequest : client.request? call = some request) :
    ∃ first rest, sent = first :: rest ∧ first.1.request = numbered request 0 := by
  cases h with
  | unsent hnone =>
    rw [hrequest] at hnone
    cases hnone
  | sent hsome hne hnumbered =>
    cases hrequest.symm.trans hsome
    cases sent with
    | nil => exact absurd rfl hne
    | cons first rest =>
      -- The numbers start at zero.
      rw [List.map_cons, List.length_cons, List.range_succ_eq_map, List.map_cons] at hnumbered
      exact ⟨first, rest, rfl, (List.cons.inj hnumbered).1⟩

/-- **A run that has passed its checks** asks the server for the issue of the event. -/
theorem runBot_of_checked (h : firstFailure? config surroundings = none) :
    ∃ repository payload number, Repository.parse? config.repository = some repository ∧
      eventSubject config surroundings = .ok (payload, number) ∧
      ∀ origin : Origin, withoutSlashes config.apiBase = origin.text →
        origin.url.credentials = none →
        AsksFor origin (trimmedToken config) repository number
          ((runBot config surroundings).run answerer state).exchanges := by
  obtain ⟨⟨client, hclient⟩, ⟨scripts, hscripts⟩, ⟨payload, number⟩, hsubject⟩ :=
    (firstFailure?_eq_none_iff config surroundings).1 h
  obtain ⟨repository, hrepository, hof⟩ := eq_clientOf_of_makeClient config hclient
  refine ⟨repository, payload, number, hrepository, hsubject, fun origin hbase hcredentials => ?_⟩
  have hbase : withoutSlashes client.base = origin.text := by
    rw [hof]
    exact hbase
  obtain ⟨-, -, hexchanges⟩ :=
    @run_runReady_outline _ config surroundings answerer state client scripts
  rw [runBot_eq_runReady hclient hscripts, hexchanges, hsubject]
  refine ⟨?_, fun hsafe hfits => ?_⟩
  · -- each request is that of a call, and states the token
    refine (answer_ensures client).forall_run_handle answerer state ?_ _
    rintro call sent reply ⟨hsent, -⟩ exchange hmem
    obtain ⟨request, earlier, hrequest, hnumbered⟩ := hsent.exists_request_of_mem hmem
    have hauthorized := lookup_authorization hbase hcredentials hrequest earlier
    rw [hnumbered, hauthorized, hof]
    rfl
  · have hrequest : client.request? (.fetch number)
        = some (requestOf origin client (.fetch number)) := by
      have hfits : ¬ maxAddress < (written origin client.repository (.fetch number)).length := by
        rw [hof]
        exact Nat.not_lt.2 hfits
      have hsafe : client.repository.IsSafe := by
        rw [hof]
        exact hsafe
      rw [request?_of_areSafe hbase (areSafe_segments hsafe _), if_neg hfits]
    -- The run starts with the call that fetches the issue.
    have hfetch := (answer_ensures client).run answerer state (.fetch number)
    obtain ⟨fetched, rest, hsent, hnumbered⟩ := hfetch.sentFor.exists_first hrequest
    rw [outline, Dialogue.handle_ask, Dialogue.exchanges_run_bind, hsent]
    refine ⟨fetched, _, List.cons_append .., ?_, ?_⟩
    · rw [hnumbered]
      rfl
    · have hpath := toList_path client.repository (.fetch number)
      rw [hnumbered]
      show origin.asked (pathText (segments client.repository (.fetch number))) = _
      rw [← hpath, Origin.asked, String.ofList_toList, hof]
      rfl

end Run

/-- **Everything local is checked first.** If a check fails, the run comes to the error of the first
one that does, and sends nothing. If none fails, it asks the server for the issue of the event, and
every request states the token without white space around it. -/
theorem runBot_checks_first (config : Config) (surroundings : Surroundings) {σ : Type}
    (answerer : Answerer Sending (fun _ => Delivery) σ) (state : σ) :
    let run := (runBot config surroundings).run answerer state
    (∀ cause, firstFailure? config surroundings = some cause →
      run.value = .error cause ∧ run.exchanges = [] ∧ run.state = state) ∧
    (firstFailure? config surroundings = none →
      ∃ repository payload number, Repository.parse? config.repository = some repository ∧
        eventSubject config surroundings = .ok (payload, number) ∧
        ∀ origin : Origin, withoutSlashes config.apiBase = origin.text →
          origin.url.credentials = none →
          AsksFor origin (trimmedToken config) repository number run.exchanges) :=
  ⟨fun _ h => runBot_of_failure answerer state h, fun h => runBot_of_checked answerer state h⟩

/-- What a run finds where there is nothing. -/
def emptySurroundings : Surroundings where
  file := fun _ => .absent
  entries? := fun _ => none

/-- The configuration with a token that is blank. -/
def tokenlessConfig : Config := { patientConfig with token := " " }

/-- With a blank token and without an event, the token is what is complained about. Where token and
event are in place, the issue is asked for first. -/
theorem runBot_checks_first_of_patientConfig :
    let failed := (runBot tokenlessConfig emptySurroundings).run ScriptedServer.answer ⟨[], false, []⟩
    failed.value = .error .noToken ∧ failed.exchanges = [] ∧
      ∃ fetched rest, (patientRun []).exchanges = fetched :: rest ∧
        fetched.1.request.method = "GET" ∧ fetched.1.request.url.target = "/repos/o/r/issues/7" ∧
        fetched.1.request.headers.lookup "authorization" = some "Bearer t" := by
  intro failed
  have hfailure : firstFailure? tokenlessConfig emptySurroundings = some .noToken := by rfl
  have hnone : firstFailure? patientConfig openedSurroundings = none :=
    Option.isNone_iff_eq_none.1 (by decide +kernel)
  obtain ⟨hvalue, hexchanges, -⟩ := (runBot_checks_first tokenlessConfig emptySurroundings
    ScriptedServer.answer ⟨[], false, []⟩).1 _ hfailure
  obtain ⟨repository, payload, number, hrepository, hsubject, hasks⟩ :=
    (runBot_checks_first patientConfig openedSurroundings ScriptedServer.answer
      ⟨[], false, []⟩).2 hnone
  -- The repository and the number are those that are written in the configuration and the event.
  have hparse : Repository.parse? patientConfig.repository = some ⟨"o", "r"⟩ := by decide +kernel
  obtain ⟨event, -, hevent⟩ := subject_openedSurroundings
  cases hrepository.symm.trans hparse
  cases hsubject.symm.trans hevent
  have hplain : Repository.IsPlain ⟨"o", "r"⟩ :=
    ⟨by decide, by decide, List.all_iff_forall_prop.1 (by decide),
      List.all_iff_forall_prop.1 (by decide)⟩
  have hbase : withoutSlashes patientConfig.apiBase = Origin.machine.text := by decide
  obtain ⟨hauthorized, hfirst⟩ := hasks .machine hbase rfl
  obtain ⟨fetched, rest, hsent, hmethod, hurl⟩ := hfirst hplain.isSafe (by decide)
  refine ⟨hvalue, hexchanges, fetched, rest, hsent, hmethod, ?_, ?_⟩
  · rw [hurl]
    rfl
  · exact hauthorized fetched (hsent ▸ List.mem_cons_self)

/-- Repositories that are plain pass all checks. -/
theorem firstFailure?_patientConfigFor {repository : Repository} (h : repository.IsPlain) :
    firstFailure? (patientConfigFor repository) openedSurroundings = none := by
  have hready := isReadyAt_patientConfigFor h
  obtain ⟨token, hclient⟩ := hready.makeClient_eq
  obtain ⟨payload, -, hsubject⟩ := subject_openedSurroundings
  exact (firstFailure?_eq_none_iff _ _).2 ⟨⟨_, hclient⟩, ⟨_, hready.scripts⟩, _, hsubject⟩

/-- The configurations for an owner with a long name, and for one that is a dot segment, pass all
checks. For the one nothing is sent, and for the other something else is asked for. -/
theorem runBot_checked_but_unasked :
    (firstFailure? (patientConfigFor (repositoryOf 70000)) openedSurroundings = none ∧
      (repositoryOf 70000).IsSafe ∧
      (linuxWebRun (repositoryOf 70000) [.answered 404 [] []]).state.received = []) ∧
    firstFailure? (patientConfigFor ⟨"..", "r"⟩) openedSurroundings = none ∧
      (linuxWebRun ⟨"..", "r"⟩ [.answered 404 [] []]).state.received.map (·.url.target)
        = ["/r/issues/7"] := by
  have hlong : maxAddress < 70000 := by decide
  have hplain := isPlain_repositoryOf (Nat.ne_zero_of_lt hlong)
  have hunasked := (linuxWebRun_of_long_owner hlong [.answered 404 [] []]).2.2
  have hdots : firstFailure? (patientConfigFor ⟨"..", "r"⟩) openedSurroundings = none :=
    Option.isNone_iff_eq_none.1 (by decide +kernel)
  have htarget : (linuxWebRun ⟨"..", "r"⟩ [.answered 404 [] []]).state.received.map (·.url.target)
      = ["/r/issues/7"] := by
    decide +kernel
  exact ⟨⟨firstFailure?_patientConfigFor hplain, hplain.isSafe, hunasked⟩, hdots, htarget⟩

end Triage.GitHub
