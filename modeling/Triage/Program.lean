import Triage.CommandLine

namespace Triage

/-!
# The program

* `Finish` — how the program ends: its exit code, and the first line of its complaint.
* `runProgram` — the program from its command line to its end.
* `visibleLines` — the notes that the program shows.
-/

/-- How the program ends. -/
structure Finish where
  exitCode : Nat
  complaint : Option String
  deriving DecidableEq, Repr

/-- The first line of a text. A carriage return goes with the line break that follows it. -/
def firstLine (text : String) : String :=
  match Text.cutAt '\n' text.toList with
  | none => text
  | some (line, _) =>
    match line.reverse with
    | '\r' :: rest => String.ofList rest.reverse
    | _ => String.ofList line

/-- The complaint about a failed run, as its first line shows it. On a fault of the event file that
line goes on with what the system says of it; any other one ends with the message. -/
def BotError.complaint : BotError → String
  | .run (.event cause) => firstLine cause.message
  | cause => firstLine (cause.message ++ "\n")

/-- How the program ends when the command line leads to no run. -/
def UsageStop.finish : UsageStop → Finish
  | .help | .version => ⟨0, none⟩
  | _ => ⟨2, none⟩

/-- How the program ends after a run. -/
def finish : Except BotError Report → Http.Conversation Finish
  | .ok report => .note (.runFinished report) (.done ⟨0, none⟩)
  | .error cause => .done ⟨1, some cause.complaint⟩

/-- The program from its command line to its end. -/
def runProgram (arguments : List String) (environment : String → Option String)
    (surroundings : Surroundings) : Http.Conversation Finish :=
  match Config.ofCommandLine arguments environment with
  | .error stop => .done stop.finish
  | .ok config => (runBot config surroundings).bind finish

/-- The program shows a note unless it is of the lowest level. -/
def Note.isVisible (note : Note) : Bool := note.level != .debug

/-- The lines that the program shows for its notes. Of a note with line breaks in a title the first
line counts. -/
def visibleLines (notes : List Note) : List String :=
  (notes.filter (·.isVisible)).map fun note => firstLine (note.line ++ "\n")

end Triage
