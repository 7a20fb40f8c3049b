namespace Triage

/-!
# Labels

* `osLabels` — the labels that name a platform.
* `illogicalPairs`, `conflict?` — a label is not added while the other one of its pair is assigned.
-/

/-- The name of a label. -/
abbrev Label := String

/-- The labels that name a platform. -/
def osLabels : List Label :=
  ["aix", "bsd", "cygwin", "freebsd", "linux", "macos", "netbsd", "openbsd", "sunos", "unix",
    "windows", "wsl"]

/-- Pairs of which the left label is not added while the right one is assigned. -/
def illogicalPairs : List (Label × Label) :=
  [("bug", "enhancement"), ("doc", "tests"), ("scripts", "doc"), ("scripts", "tests"),
    ("bsd", "freebsd"), ("bsd", "openbsd"), ("bsd", "netbsd")]

/-- The label of the first pair that keeps `label` from joining the assigned ones. -/
def conflict? (label : Label) (assigned : List Label) : Option Label :=
  (illogicalPairs.find? fun pair => pair.1 == label && assigned.contains pair.2).map (·.2)

/-- A label may join exactly if, of no pair it stands left in, the right one is assigned. -/
theorem conflict?_eq_none_iff {label : Label} {assigned : List Label} :
    conflict? label assigned = none ↔
      ∀ pair ∈ illogicalPairs, pair.1 = label → pair.2 ∉ assigned := by
  simp [conflict?, illogicalPairs]

end Triage
