import Triage.GitHub.Call
import Triage.Issue.Json
import Triage.Repository

namespace Triage.GitHub

/-!
# The client

* `Client` — where the repository is, and who asks.
* `Client.request?` — the request of each call to the tracker.
* `Client.read` — what the answer to a call says.
* `Client.answer` — the tracker behind the web interface.
-/

open Json

/-- Where the repository is, who asks, and in what manner. -/
structure Client where
  base : String
  repository : Repository
  token : String
  manner : Manner

/-- The name of the operation of each call. -/
def operation : TrackerCall → Operation
  | .fetch _ => "fetch issue"
  | .addLabel .. => "add issue labels"
  | .comment .. => "create issue comment"
  | .close _ => "update issue state"

/-- The method of each call. -/
def method : TrackerCall → String
  | .fetch _ => "GET"
  | .addLabel .. | .comment .. => "POST"
  | .close _ => "PATCH"

/-- What is sent with each call. -/
def payload? : TrackerCall → Option Value
  | .fetch _ => none
  | .addLabel _ label => some (.object [("labels", .array [.string label])])
  | .comment _ body => some (.object [("body", .string body)])
  | .close _ => some (.object [("state", .string "closed")])

/-- The path of each call, below that of the repository. -/
def path : TrackerCall → String
  | .fetch number | .close number => "/issues/" ++ toString number
  | .addLabel number _ => "/issues/" ++ toString number ++ "/labels"
  | .comment number _ => "/issues/" ++ toString number ++ "/comments"

/-- The text without the slashes at its end. -/
def withoutSlashes (text : String) : String :=
  String.ofList ((text.toList.reverse.dropWhile (· == '/')).reverse)

namespace Client

/-- The address of a call. -/
def address (client : Client) (call : TrackerCall) : String :=
  withoutSlashes client.base ++ "/repos/" ++ client.repository.slug ++ path call

/-- Who asks, as a request states it: the credentials in its address count before the token. -/
def authorization (client : Client) (url : Http.Url) : String :=
  match url.credentials with
  | some credentials => credentials.header
  | none => "Bearer " ++ client.token

/-- The headers of every request to an address, and of one that carries something. -/
def headers (client : Client) (url : Http.Url) (carries : Bool) : List (String × String) :=
  [("accept", "application/vnd.github+json"), ("authorization", client.authorization url),
    ("user-agent", "issuebot"), ("x-github-api-version", "2022-11-28")]
    ++ if carries then [("content-type", "application/json")] else []

/-- The request of a call. There is none if its address is not one of the web. -/
def request? (client : Client) (call : TrackerCall) : Option Http.Request :=
  (Http.Url.parse? (client.address call)).map fun url =>
    { method := method call
      url := url
      headers := client.headers url (payload? call).isSome
      body := ((payload? call).map Value.text).getD "" }

end Client

/-! ### Answers -/

/-- What the answer to a new comment says. -/
structure Comment where
  id : Nat
  url : Option String
  deriving DecidableEq, Repr

/-- Reads the answer to a new comment. -/
def Comment.ofDocument? (document : Document) : Option Comment := do
  let field ← document.fields? ["id", "html_url"] 2
  let id ← (← field "id").natural?
  let url ← Document.optionalString? (field "html_url")
  some { id, url }

/-- The labels in the answer to a new label. -/
def labelsOfDocument? : Document → Option (List Label)
  | .array items => items.mapM Label.ofDocument?
  | _ => none

/-- The document of an answer. -/
def documentOf? (body : List UInt8) : Option Document :=
  Document.ofSymbols? (Text.decodeUtf8 body)

/-- What was read, or that it could not be. -/
def decoded {α : Type} (call : TrackerCall) : Option α → Except CallError α
  | some value => .ok value
  | none => .error (.undecodable (operation call))

/-- What the answer to a call says. The issue has to be closed after it was to be closed. -/
def read : (call : TrackerCall) → List UInt8 → Http.Conversation (TrackerReply CallError call)
  | .fetch number, body =>
    .done (decoded (.fetch number) ((documentOf? body).bind Issue.ofDocument?))
  | .addLabel number label, body =>
    .done (decoded (.addLabel number label) ((documentOf? body).bind labelsOfDocument?))
  | .comment number text, body =>
    match decoded (.comment number text) ((documentOf? body).bind Comment.ofDocument?) with
    | .error cause => .done (.error cause)
    | .ok comment => .note (.commentPosted comment.id comment.url) (.done (.ok ()))
  | .close number, body =>
    match decoded (.close number) ((documentOf? body).bind Issue.ofDocument?) with
    | .error cause => .done (.error cause)
    | .ok issue =>
      .done (if issue.state = "closed" then .ok () else .error (.notClosed number issue.state))

/-- The tracker behind the web interface. A call without a request fails like one that breaks off. -/
def Client.answer (client : Client) (call : TrackerCall) :
    Http.Conversation (TrackerReply CallError call) :=
  match client.request? call with
  | none => .done (.error (.transport (operation call)))
  | some request =>
    (exchange client.manner (operation call) request).bind fun
      | .error cause => .done (.error cause)
      | .ok body => read call body

end Triage.GitHub
