import Triage.Proofs.Labelling.Candidates
import Mathlib.Data.List.Basic

namespace Triage

/-!
# What the label policy admits

The policy in terms of the known labels alone, apart from how a label is looked up.

* `Admits` — a label may join the known ones.
* `IsFirstConflict` — the pair that is named when a label may not.
* `admits_iff`, `conflict?_eq_some_iff` — the look-up of pairs decides by these.
* `isDue_eq_decide_admits` — a candidate that is always wanted is due if its label is admitted.
-/

variable {known : List Label} {label conflict : Label}

/-- The label is none of the known ones, and no pair speaks against it. -/
def Admits (known : List Label) (label : Label) : Prop :=
  label ∉ known ∧ ∀ pair ∈ illogicalPairs, pair.1 = label → pair.2 ∉ known

instance (known : List Label) (label : Label) : Decidable (Admits known label) :=
  inferInstanceAs (Decidable (_ ∧ _))

/-- The first of the pairs that speak against the label has `conflict` on its right. -/
def IsFirstConflict (known : List Label) (label conflict : Label) : Prop :=
  ∃ earlier later, illogicalPairs = earlier ++ (label, conflict) :: later ∧ conflict ∈ known ∧
    ∀ pair ∈ earlier, pair.1 = label → pair.2 ∉ known

/-- A label is admitted exactly if it is new and no conflict is found. -/
theorem admits_iff : Admits known label ↔ label ∉ known ∧ conflict? label known = none := by
  rw [Admits, conflict?_eq_none_iff]

/-- The conflict that is found is that of the first pair. -/
theorem conflict?_eq_some_iff :
    conflict? label known = some conflict ↔ IsFirstConflict known label conflict := by
  unfold conflict? IsFirstConflict
  rw [Option.map_eq_some_iff]
  constructor
  · rintro ⟨⟨left, right⟩, hfind, rfl⟩
    obtain ⟨hpair, earlier, later, hpairs, hearlier⟩ := List.find?_eq_some_iff_append.1 hfind
    simp only [Bool.and_eq_true, beq_iff_eq, List.contains_eq_mem, decide_eq_true_eq] at hpair
    obtain ⟨rfl, hright⟩ := hpair
    exact ⟨earlier, later, hpairs, hright, fun pair hmem hleft => by
      simpa [hleft] using hearlier pair hmem⟩
  · rintro ⟨earlier, later, hpairs, hright, hearlier⟩
    refine ⟨(label, conflict), List.find?_eq_some_iff_append.2 ⟨by simpa using hright, earlier, later,
      hpairs, fun pair hmem => ?_⟩, rfl⟩
    -- An earlier pair is about another label, or its right one is not known.
    by_cases hleft : pair.1 = label
    · simpa [hleft] using hearlier pair hmem hleft
    · simp [hleft]

/-- A candidate that is always wanted is due exactly if its label is admitted. -/
theorem isDue_eq_decide_admits (label : Label) (issue : Issue) :
    (Candidate.plain label).isDue issue = decide (Admits issue.labels label) := by
  rw [Bool.eq_iff_iff, decide_eq_true_iff, admits_iff]
  simp [Candidate.isDue, Candidate.plain, Issue.hasLabel]

end Triage
