import Triage.Text.Blank
import Triage.Text.Search

namespace Triage

/-!
# Repositories

* `Repository` — an owner and a name.
* `Repository.parse?`, `Repository.slug` — reads and writes the form `owner/name`.
-/

/-- The coordinates of a repository. -/
structure Repository where
  owner : String
  name : String
  deriving DecidableEq, Repr

namespace Repository

/-- Reads `owner/name`. White space at the ends and around the slash is left out; both parts have to
hold something, and the name no further slash. -/
def parse? (raw : String) : Option Repository := do
  let (owner, name) ← Text.cutAt '/' (Text.trim raw.toList)
  let owner := Text.trim owner
  let name := Text.trim name
  if owner.isEmpty || name.isEmpty || name.contains '/' then none
  else some ⟨String.ofList owner, String.ofList name⟩

/-- Writes `owner/name`. -/
def slug (repository : Repository) : String := repository.owner ++ "/" ++ repository.name

end Repository

end Triage
