import Triage.Json.Value
import Triage.Label

namespace Triage

/-!
# Issues

* `Issue` — an issue or pull request as the tracker describes it.
* `Issue.isPullRequest`, `Issue.hasLabel`, `Issue.hasOsLabel` — what triage asks of it.
-/

/-- An issue or a pull request. -/
structure Issue where
  id : Nat
  number : Nat
  title : String
  body : Option String
  state : String
  labels : List Label
  pullRequest : Option Json.Value

namespace Issue

/-- A pull request is an issue with a pull request member that is not null. -/
def isPullRequest (issue : Issue) : Bool := issue.pullRequest.any (!·.isNull)

/-- What the issue is called in notes. -/
def kindName (issue : Issue) : String := if issue.isPullRequest then "PR" else "issue"

/-- The body, empty if there is none. -/
def bodyText (issue : Issue) : String := issue.body.getD ""

/-- The label is assigned, under exactly this name. -/
def hasLabel (issue : Issue) (label : Label) : Bool := issue.labels.contains label

/-- A label that names a platform is assigned. -/
def hasOsLabel (issue : Issue) : Bool := osLabels.any issue.hasLabel

end Issue

end Triage
