import Triage.Keyword
import Triage.Report
import Triage.Json.Printer
import Triage.Template
import Triage.Text.Quoted

namespace Triage

/-!
# Notes

* `Note` — what a run writes down as it goes along.
* `Note.level`, `Note.message`, `Note.fields` — how much a note matters, and its wording.
* `Note.line` — the note on a line of its own.
-/

/-- How much a note matters. -/
inductive NoteLevel
  | debug
  | info
  | warn
  deriving DecidableEq, Repr

/-- The name at the start of a line. -/
def NoteLevel.name : NoteLevel → String
  | .debug => "DEBUG"
  | .info => "INFO"
  | .warn => "WARN"

/-- A value in a note, and whether a line has it in quotation marks. -/
structure NoteValue where
  text : String
  isQuoted : Bool
  deriving DecidableEq, Repr

namespace NoteValue

/-- Text as it is. -/
def plain (text : String) : NoteValue := ⟨text, false⟩

/-- Text that a line has in quotation marks. -/
def quoted (text : String) : NoteValue := ⟨text, true⟩

/-- A number. -/
def number (n : Nat) : NoteValue := ⟨toString n, false⟩

/-- How a line shows the value. -/
def shown (value : NoteValue) : String :=
  if value.isQuoted then Text.quoted value.text else value.text

end NoteValue

/-- What a run writes down as it goes along. -/
inductive Note
  | scriptsListed (directory : String) (count : Nat)
  | clientReady (repository apiBase : String)
  | eventLoaded (path : String) (payload : Json.Value)
  | runStarted (kind : String) (number : Nat) (title : String)
  | issueOpened (number : Nat)
  | pullRequestOpened (number : Nat)
  | eventUnhandled (action : Option String)
  | keywordMatched (hit : KeywordHit)
  | labelPresent (label : Label)
  | labelSuppressed (label conflict : Label)
  | labelDue (label : Label)
  | bodySearch
  | fieldSearch (field : Template.Field)
  | fieldFound
  | fieldMissing
  | platformUnknown (number : Nat)
  | headersSearch
  | headersMissing (signature : String)
  | pullRequestLeft (number : Nat)
  | statusRetried (operation : String) (status attempt delay : Nat)
  | transportRetried (operation : String) (attempt : Nat)
  | commentPosted (id : Nat) (url : Option String)
  | runFinished (report : Report)

namespace Note

/-- How much the note matters. -/
def level : Note → NoteLevel
  | .scriptsListed .. | .clientReady .. | .eventLoaded .. | .keywordMatched _ | .platformUnknown _
  | .pullRequestLeft _ | .commentPosted .. => .debug
  | .statusRetried .. | .transportRetried .. => .warn
  | _ => .info

/-- How the search for a line of the template is announced. -/
def searchMessage : Template.Field → String
  | .os => "search for 'OS: ...' line"
  | .bugFix => "search for 'Bug fix: y/n' line"
  | .type => "search for 'Type: ...' line"

/-- The wording of the note. -/
def message : Note → String
  | .scriptsListed .. => "loaded script keywords"
  | .clientReady .. => "github client ready"
  | .eventLoaded .. => "loaded event payload"
  | .runStarted .. => "running issue bot"
  | .issueOpened _ => "created new issue"
  | .pullRequestOpened _ => "created new PR"
  | .eventUnhandled _ => "unhandled event"
  | .keywordMatched _ => "keyword matched"
  | .labelPresent _ => "already has label"
  | .labelSuppressed .. => "should not add label"
  | .labelDue _ => "add label"
  | .bodySearch => "start searching for template lines in new issue/PR body"
  | .fieldSearch field => searchMessage field
  | .fieldFound => "found"
  | .fieldMissing => "not found"
  | .platformUnknown _ => "no platform label assigned"
  | .headersSearch => "searching for missing Python.h"
  | .headersMissing _ => "found"
  | .pullRequestLeft _ => "no pull request policies configured"
  | .statusRetried .. | .transportRetried .. => "retrying github api call"
  | .commentPosted .. => "posted issue comment"
  | .runFinished _ => "issue bot finished"

/-- The values of the note, by name, in the order in which a line has them. A delay is shown modulo
`2 ^ 64`. -/
def fields : Note → List (String × NoteValue)
  | .scriptsListed directory count => [("dir", .plain directory), ("count", .number count)]
  | .clientReady repository apiBase => [("repo", .plain repository), ("api_base", .plain apiBase)]
  | .eventLoaded path payload => [("path", .plain path), ("payload", .plain payload.text)]
  | .runStarted kind number title =>
    [("kind", .quoted kind), ("number", .number number), ("title", .plain title)]
  | .issueOpened number | .pullRequestOpened number | .platformUnknown number
  | .pullRequestLeft number => [("number", .number number)]
  | .eventUnhandled action => [("action", .quoted (action.getD "<missing>"))]
  | .keywordMatched hit => [("label", .plain hit.label), ("keyword", .plain hit.keyword)]
  | .labelPresent label | .labelDue label => [("label", .quoted label)]
  | .labelSuppressed label conflict => [("label", .quoted label), ("conflict", .quoted conflict)]
  | .bodySearch | .fieldSearch _ | .fieldFound | .fieldMissing | .headersSearch => []
  | .headersMissing signature => [("signature", .quoted signature)]
  | .statusRetried operation status attempt delay =>
    [("operation", .quoted operation), ("status", .number status), ("attempt", .number attempt),
      ("delay_ms", .number (delay % Nat.pow 2 64))]
  | .transportRetried operation attempt =>
    [("operation", .quoted operation), ("attempt", .number attempt)]
  | .commentPosted id url => [("comment_id", .number id), ("url", .quoted (url.getD ""))]
  | .runFinished report =>
    [("event", .quoted report.event.name), ("number", .number report.number),
      ("pull_request", .plain (toString report.isPullRequest)),
      ("added_labels", .plain (Text.quotedList report.addedLabels)),
      ("dispatch", .plain report.disposition.name)]

/-- The note on a line of its own. -/
def line (note : Note) : String :=
  " ".intercalate
    (note.level.name :: note.message :: note.fields.map fun (name, value) => name ++ "=" ++ value.shown)

end Note

end Triage
