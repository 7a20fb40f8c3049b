import Triage.FileTree
import Triage.Http.Script
import Triage.Command
import Triage.Session
import Triage.Proofs.Dialogue.Exchanges
import Triage.Proofs.Labelling.Candidates
import Triage.Proofs.Keyword.Built
import Triage.Proofs.Labelling.Admission
import Triage.Proofs.Run.Outline
import Triage.Proofs.Run.CallOrder
import Triage.Proofs.Labelling.Plan
import Triage.Proofs.Run.Memory
import Triage.Proofs.Run.Resumption
import Triage.Proofs.Bot
import Triage.Proofs.GitHub.Retries
import Triage.Proofs.Json.Numeral
import Triage.Proofs.Json.Scanning
import Triage.Proofs.Text.Utf8
import Triage.Proofs.Json.Reading
import Triage.Proofs.Issue.Json
import Triage.Proofs.Json.Record
import Triage.Proofs.Http.Address
import Triage.Proofs.GitHub.Requests
import Triage.Proofs.GitHub.Answers
import Triage.Proofs.GitHub.Refinement
import Triage.Proofs.Labelling.Decisions
import Triage.Proofs.Labelling.Steps
import Triage.Proofs.Labelling.Operations
import Triage.Proofs.Session.Agreement
import Triage.Proofs.Labelling.Passes
import Triage.Proofs.Run.LabelPlan
import Triage.Proofs.Run.Repetition
import Triage.Proofs.Dialogue.Handling
import Triage.Proofs.Run.Courses
import Triage.Proofs.GitHub.Acknowledgement
import Triage.Proofs.Labelling.ScriptCandidates
import Triage.Proofs.Run.ScriptNames
import Triage.Proofs.GitHub.Checks
import Triage.Proofs.Labelling.Outcomes
import Triage.Proofs.GitHub.Streams
import Triage.Proofs.Http.Header
import Triage.Proofs.GitHub.Delays
import Triage.Proofs.Text.Decimal
import Triage.Proofs.CommandLine.Reading
import Triage.Proofs.CommandLine.Layers
import Triage.Proofs.Http.Percent
import Triage.Proofs.Http.Paths
import Triage.Proofs.GitHub.Addressing
import Triage.Proofs.Labelling.Reordering
import Triage.Proofs.Labelling.BugFixLine
import Triage.Proofs.Event.Loading
import Triage.Proofs.Json.Spelling
import Triage.Proofs.Json.Lexing
import Triage.Proofs.Json.Texts
import Triage.Proofs.Json.Edits
import Triage.Proofs.Issue.Members
import Triage.Proofs.Text.Search
import Triage.Proofs.Template.Lines
import Triage.Proofs.Text.Lowercase
import Triage.Proofs.Keyword.Hits
import Triage.Proofs.Keyword.Surroundings
import Triage.Proofs.MissingHeaders
import Triage.Proofs.Keyword.LetterCase
import Triage.Proofs.Text.Trim
import Triage.Proofs.Repository
import Triage.Proofs.Template.Markers
import Triage.Proofs.Keyword.Extension
import Triage.Proofs.Text.ByteOrder
import Triage.Proofs.ScriptNames
