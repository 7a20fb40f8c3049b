import Triage.Bot
import Triage.Proofs.Dialogue.Exchanges

namespace Triage

/-!
# The bot

* `mute_runReady`, `run_runReady` — the run once everything is checked: the event's run, each call of
  which is answered by the client.
* `makeClient_eq_ok_iff` — what a client is made from.
* `runBot_eq_runReady` — the whole run is that one.
-/

/-- Notes put in front of a dialogue are notes of it. -/
@[simp] theorem Dialogue.mute_afterNotes {N Q : Type} {A : Q → Type} {α : Type} (notes : List N)
    (rest : Dialogue N Q A α) : (Dialogue.afterNotes notes rest).mute = rest.mute := by
  induction notes with
  | nil => rfl
  | cons entry notes ih => exact ih

/-- Without its notes, the run is that of the event with its error in place. -/
theorem mute_runReady (config : Config) (surroundings : Surroundings) (client : GitHub.Client)
    (scripts : Option (String × List String)) :
    (runReady config surroundings client scripts).mute
      = ((runEvent (keywordTable scripts) (.atPath config.eventPath)
          (surroundings.file config.eventPath)).handle client.answer
          >>= fun result => .done (result.mapError .run)).mute :=
  Dialogue.mute_afterNotes _ _

/-- **The run once everything is checked.** -/
theorem run_runReady {σ : Type} (answerer : Answerer Http.Sending (fun _ => Http.Delivery) σ)
    (config : Config) (surroundings : Surroundings) (client : GitHub.Client)
    (scripts : Option (String × List String)) (state : σ) :
    let ready := (runReady config surroundings client scripts).run answerer state
    let handled := ((runEvent (keywordTable scripts) (.atPath config.eventPath)
      (surroundings.file config.eventPath)).handle client.answer).run answerer state
    ready.value = handled.value.mapError .run ∧ ready.state = handled.state ∧
      ready.exchanges = handled.exchanges := by
  intro ready handled
  obtain ⟨hvalue, hstate, hexchanges⟩ :=
    Dialogue.run_congr_of_mute_eq answerer (mute_runReady config surroundings client scripts) state
  refine ⟨hvalue.trans (Dialogue.value_run_bind ..), hstate.trans (Dialogue.state_run_bind ..),
    hexchanges.trans ((Dialogue.exchanges_run_bind ..).trans ?_)⟩
  -- The error is put in place without a request.
  exact List.append_nil _

/-- The client for a configuration whose repository and token are these. -/
def clientOf (config : Config) (repository : Repository) (token : String) : GitHub.Client where
  base := config.apiBase
  repository := repository
  token := token
  manner := ⟨.of config.retryAttempts config.retryDelay, max config.requestTimeout 1⟩

/-- A client is made exactly from a repository and a token that pass their checks. -/
theorem makeClient_eq_ok_iff {config : Config} {client : GitHub.Client} :
    makeClient config = .ok client ↔
      ∃ repository token, checkRepository config.repository = .ok repository ∧
        checkToken config.token = .ok token ∧ client = clientOf config repository token := by
  -- The checks come in this order, and the first that fails ends it.
  cases hrepository : checkRepository config.repository with
  | error cause => simp [makeClient, hrepository, bind, Except.bind]
  | ok repository =>
    cases htoken : checkToken config.token with
    | error cause => simp [makeClient, hrepository, htoken, bind, Except.bind]
    | ok token =>
      simp [makeClient, clientOf, hrepository, htoken, bind, Except.bind, pure, Except.pure, eq_comm]

/-- Once everything is checked, the run is that of the client. -/
theorem runBot_eq_runReady {config : Config} {surroundings : Surroundings} {client : GitHub.Client}
    {scripts : Option (String × List String)} (hclient : makeClient config = .ok client)
    (hscripts : listScripts config surroundings = .ok scripts) :
    runBot config surroundings = runReady config surroundings client scripts := by
  simp only [runBot, hclient, hscripts]

end Triage
