import Triage.GitHub.Client
import Triage.Run
import Triage.ScriptNames

namespace Triage

/-!
# The bot

* `Config` — what a run is to know; `Surroundings` — the files that it finds.
* `BotError` — why a run failed.
* `makeClient`, `listScripts` — what is checked before anything is sent.
* `runBot` — the run, as a program that sends requests.
-/

/-- What a run is to know. Times are in milliseconds. -/
structure Config where
  repository : String
  apiBase : String
  token : String
  eventPath : String
  requestTimeout : Nat
  retryAttempts : Nat
  retryDelay : Nat
  scriptsDirectory : Option String
  scriptEnding : String
  deriving DecidableEq, Repr

/-- What the paths lead to: a file's content, and a directory's entries if they can be listed. A fault
is the first one among these entries, where the listing stops. -/
structure Surroundings where
  file : String → FileState
  entries? : String → Option (List DirectoryEntry)
  entryFault? : String → Option EntryFault := fun _ => none

/-- Why a run failed. -/
inductive BotError
  | repository (raw : String)
  | noToken
  | badToken
  | unlistable (directory : String)
  | entry (directory : String) (fault : EntryFault)
  | run (cause : RunError GitHub.CallError)

/-- The wording of each cause. -/
def BotError.message : BotError → String
  | .repository raw => "invalid github repository '" ++ raw ++ "', expected owner/repo"
  | .noToken => "github token is empty"
  | .badToken => "invalid github authorization header"
  | .unlistable directory => "failed to read scripts dir " ++ directory
  | .entry directory .unreadable => "failed to read entry in " ++ directory
  | .entry directory (.unknownKind name) => "failed to stat " ++ entryPath directory name
  | .run (.event cause) => cause.message
  | .run (.tracker cause) => cause.message

/-- The token without white space around it, if it can be sent. -/
def checkToken (token : String) : Except BotError String :=
  let trimmed := Text.trim token.toList
  if trimmed.isEmpty then .error .noToken
  else if trimmed.all Http.isHeaderChar then .ok (String.ofList trimmed)
  else .error .badToken

/-- The repository that a slug names. -/
def checkRepository (raw : String) : Except BotError Repository :=
  match Repository.parse? raw with
  | some repository => .ok repository
  | none => .error (.repository raw)

/-- The client for a configuration. -/
def makeClient (config : Config) : Except BotError GitHub.Client := do
  let repository ← checkRepository config.repository
  let token ← checkToken config.token
  return {
    base := config.apiBase
    repository := repository
    token := token
    manner := ⟨.of config.retryAttempts config.retryDelay, max config.requestTimeout 1⟩ }

/-- The names of the scripts, if a directory is configured. -/
def listScripts (config : Config) (surroundings : Surroundings) :
    Except BotError (Option (String × List String)) :=
  match config.scriptsDirectory with
  | none => .ok none
  | some directory =>
    match surroundings.entries? directory with
    | none => .error (.unlistable directory)
    | some entries =>
      match surroundings.entryFault? directory with
      | some fault => .error (.entry directory fault)
      | none => .ok (some (directory, scriptNames config.scriptEnding entries))

/-- The keyword table with the names of the scripts. -/
def keywordTable : Option (String × List String) → KeywordTable
  | none => .builtin
  | some (_, names) => KeywordTable.builtin.withScripts names

/-- The notes on a client that is ready. -/
def readyNotes (config : Config) (client : GitHub.Client) :
    Option (String × List String) → List Note
  | none => [.clientReady client.repository.slug config.apiBase]
  | some (directory, names) =>
    [.scriptsListed directory names.length, .clientReady client.repository.slug config.apiBase]

/-- Writes notes before a dialogue goes on. -/
def Dialogue.afterNotes {N Q : Type} {A : Q → Type} {α : Type} (notes : List N)
    (rest : Dialogue N Q A α) : Dialogue N Q A α :=
  notes.foldr .note rest

/-- The run, once the client is made and the scripts are listed. -/
def runReady (config : Config) (surroundings : Surroundings) (client : GitHub.Client)
    (scripts : Option (String × List String)) : Http.Conversation (Except BotError Report) :=
  Dialogue.afterNotes (readyNotes config client scripts) do
    let result ← (runEvent (keywordTable scripts) (.atPath config.eventPath)
      (surroundings.file config.eventPath)).handle client.answer
    return result.mapError .run

/-- The run. Repository, token and scripts are checked in this order, before the event is loaded and
before anything is sent. -/
def runBot (config : Config) (surroundings : Surroundings) :
    Http.Conversation (Except BotError Report) :=
  match makeClient config with
  | .error cause => .done (.error cause)
  | .ok client =>
    match listScripts config surroundings with
    | .error cause => .done (.error cause)
    | .ok scripts => runReady config surroundings client scripts

end Triage
