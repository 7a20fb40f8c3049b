namespace Triage.Text

/-!
# Excerpts

* `excerpt` — the start of a long text, with dots for the rest.
-/

/-- The text itself if it has `limit` characters at most, else that many of them and three dots. -/
def excerpt (limit : Nat) (text : String) : String :=
  if text.toList.length ≤ limit then text
  else String.ofList (text.toList.take limit ++ ['.', '.', '.'])

end Triage.Text
