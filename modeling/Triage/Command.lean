import Triage.Program

/-!
# The command

Nothing is decided here. What a process has to offer comes with its host, so that one command runs on any.

* `Host` — what a process offers: variables, files, directories, and a connection to send requests by.
* `perform` — carries out a dialogue.
* `runCommand` — runs the program with the arguments of its process.
-/

namespace Triage

/-- What a process offers. -/
structure Host where
  variableValue : String → IO (Option String)
  state : String → IO FileState
  listing : String → IO (Option (List DirectoryEntry) × Option EntryFault)
  send : Http.Sending → IO Http.Delivery
  say : String → IO Unit
  complain : String → IO Unit

namespace Host

/-- What a path leads to, read as a file. -/
def readState (path : String) : IO FileState :=
  try return .file (← IO.FS.readBinFile path).toList
  catch _ => return .absent

/-- A host with the variables, the files and the output of this process, and with directories and a
connection from elsewhere. -/
def ofProcess (listing : String → IO (Option (List DirectoryEntry) × Option EntryFault))
    (send : Http.Sending → IO Http.Delivery) : Host where
  variableValue name := IO.getEnv name
  state := readState
  listing := listing
  send := send
  say := IO.println
  complain := IO.eprintln

/-- The variables that are set, among those that the program looks at. -/
def assignedVariables (host : Host) : IO (List (String × String)) :=
  Setting.all.filterMapM fun setting => do
    return (← host.variableValue setting.variableName).map (setting.variableName, ·)

/-- What the program finds: the event file and the directory of scripts that a configuration names. -/
def surroundings (host : Host) (config : Config) : IO Surroundings := do
  let state ← host.state config.eventPath
  let (entries, fault) ← match config.scriptsDirectory with
    | none => pure (none, none)
    | some directory => host.listing directory
  return { file := fun _ => state, entries? := fun _ => entries, entryFault? := fun _ => fault }

end Host

/-- Carries out a dialogue: notes are shown, and each request waits its time and is then sent. -/
def perform {α : Type} (host : Host) : Http.Conversation α → IO α
  | .done value => return value
  | .note entry rest => do
    for line in visibleLines [entry] do host.say line
    perform host rest
  | .ask sending next => do
    IO.sleep (min sending.delay 0xFFFFFFFF).toUInt32
    let delivery ← host.send sending
    perform host (next delivery)

/-- Runs the program, and ends with its exit code. -/
def runCommand (host : Host) (arguments : List String) : IO UInt32 := do
  let assigned ← host.assignedVariables
  let environment (name : String) : Option String := assigned.lookup name
  let surroundings ← match Config.ofCommandLine arguments environment with
    | .error _ => pure { file := fun _ => .absent, entries? := fun _ => none }
    | .ok config => host.surroundings config
  let finish ← perform host (runProgram arguments environment surroundings)
  if let some complaint := finish.complaint then host.complain ("Error: " ++ complaint)
  return finish.exitCode.toUInt32

end Triage
