namespace Triage.Text

/-!
# Patterns

* `Pattern` — what is sought: given characters, a run of a class that is kept short, and one after the
  other.
* `Pattern.fits` — the ways in which a pattern fits the start of a text, the preferred one first.
* `Pattern.find?` — the fit furthest to the left, and of several there the preferred one.

A pattern that finds no fit with the shortest run goes on with longer ones, and only then further to the
right.
-/

/-- What is sought in a text. -/
inductive Pattern
  | literal (needle : List Char)
  /-- As few characters of the class as possible. -/
  | lazily (ok : Char → Bool)
  | seq (first second : Pattern)

/-- A way in which a pattern fits the start of a text: what it takes up and what it leaves. -/
structure Fit where
  taken : List Char
  rest : List Char

/-- The runs of a class at the start of a text, the shortest one first. -/
def runs (ok : Char → Bool) : List Char → List Fit
  | [] => [⟨[], []⟩]
  | c :: rest =>
    ⟨[], c :: rest⟩
      :: if ok c then (runs ok rest).map fun run => { run with taken := c :: run.taken } else []

namespace Pattern

/-- The ways in which a pattern fits the start of a text, the preferred one first. -/
def fits : Pattern → List Char → List Fit
  | .literal needle, text =>
    if needle.isPrefixOf text then [⟨needle, text.drop needle.length⟩] else []
  | .lazily ok, text => runs ok text
  | .seq first second, text => (first.fits text).flatMap fun fit =>
      (second.fits fit.rest).map fun next => { next with taken := fit.taken ++ next.taken }

/-- What a pattern takes up at the very start of a text. -/
def atStart? (pattern : Pattern) (text : List Char) : Option (List Char) :=
  (pattern.fits text).head?.map (·.taken)

/-- What a pattern takes up at the first place where it fits. -/
def find? (pattern : Pattern) : List Char → Option (List Char)
  | [] => pattern.atStart? []
  | c :: rest => (pattern.atStart? (c :: rest)).or (pattern.find? rest)

end Pattern

end Triage.Text
