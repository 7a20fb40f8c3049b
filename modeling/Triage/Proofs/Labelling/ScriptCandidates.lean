import Triage.Proofs.Labelling.Plan

namespace Triage

/-!
# What script names add to a labelling

Script names put up more candidates for `scripts`, anywhere among the others. No label waits for
`scripts` to be missing, so all other candidates come to the same.

* `JoinedByScripts` — candidates, and the same ones with more for `scripts` among them.
* `joined_candidates` — those of a table, and of the table with script names.
* `AgreeUpToScripts` — two issues that differ in `scripts` only, and that the second one may have.
* `assign_added`, `plan_joined` — one candidate keeps this, and so do whole plans, by induction on the
  candidates: they differ in `scripts` only.
-/

/-! ### Candidates -/

/-- The second candidates are the first ones with more for `scripts` among them. -/
inductive JoinedByScripts : List Candidate → List Candidate → Prop
  | nil : JoinedByScripts [] []
  | both (candidate : Candidate) {cs ds : List Candidate} (hrest : JoinedByScripts cs ds) :
      JoinedByScripts (candidate :: cs) (candidate :: ds)
  | joins {cs ds : List Candidate} (hrest : JoinedByScripts cs ds) :
      JoinedByScripts cs (.plain scriptsLabel :: ds)

namespace JoinedByScripts

/-- Nothing has to join. -/
theorem refl (cs : List Candidate) : JoinedByScripts cs cs := by
  induction cs with
  | nil => exact .nil
  | cons candidate rest ih => exact .both candidate ih

/-- What joins the first candidates and the second ones joins all of them. -/
theorem append {cs ds cs' ds' : List Candidate} (h : JoinedByScripts cs ds)
    (h' : JoinedByScripts cs' ds') : JoinedByScripts (cs ++ cs') (ds ++ ds') := by
  induction h with
  | nil => exact h'
  | both candidate _ ih => exact .both candidate ih
  | joins _ ih => exact .joins ih

/-- Any number of candidates for `scripts` may join. -/
theorem of_forall {ds : List Candidate} (h : ∀ candidate ∈ ds, candidate = .plain scriptsLabel) :
    JoinedByScripts [] ds := by
  induction ds with
  | nil => exact .nil
  | cons candidate rest ih =>
    obtain ⟨rfl, hrest⟩ := List.forall_mem_cons.1 h
    exact .joins (ih hrest)

end JoinedByScripts

/-- The candidates of the hits of an entry. -/
theorem joined_hits (lowered : List Char) (names : List String) {entry : KeywordEntry}
    (h : entry.label = scriptsLabel) :
    JoinedByScripts ((entry.hits lowered).map fun hit => .plain hit.label)
      ((({ entry with keywords := entry.keywords ++ names } : KeywordEntry).hits lowered).map
        fun hit => .plain hit.label) := by
  have hnew : ∀ candidate ∈ ((names.filter (mentions lowered)).map fun keyword =>
      (⟨entry.label, keyword⟩ : KeywordHit)).map (fun hit => Candidate.plain hit.label),
      candidate = .plain scriptsLabel := by
    intro candidate hmem
    obtain ⟨hit, hhit, rfl⟩ := List.mem_map.1 hmem
    obtain ⟨keyword, -, rfl⟩ := List.mem_map.1 hhit
    rw [h]
  have happend := (JoinedByScripts.refl ((entry.hits lowered).map fun hit =>
    Candidate.plain hit.label)).append (.of_forall hnew)
  simpa only [KeywordEntry.hits, List.filter_append, List.map_append, List.append_nil] using happend

/-- Names that are appended to `scripts` join the candidates of the entries. -/
theorem joined_extend (lowered : List Char) (names : List String) (entries : List KeywordEntry) :
    JoinedByScripts ((entries.flatMap (·.hits lowered)).map fun hit => .plain hit.label)
      (((KeywordEntry.extend scriptsLabel names entries).flatMap (·.hits lowered)).map
        fun hit => .plain hit.label) := by
  induction entries with
  | nil =>
    -- The table has no entry for `scripts`, so the names get one of their own.
    have hscripts : (⟨scriptsLabel, []⟩ : KeywordEntry).label = scriptsLabel := rfl
    simpa [KeywordEntry.extend, KeywordEntry.hits] using joined_hits lowered names hscripts
  | cons entry rest ih =>
    unfold KeywordEntry.extend
    by_cases h : entry.label = scriptsLabel
    · rw [if_pos h, List.flatMap_cons, List.flatMap_cons, List.map_append, List.map_append]
      exact (joined_hits lowered names h).append (.refl _)
    · rw [if_neg h, List.flatMap_cons, List.flatMap_cons, List.map_append, List.map_append]
      exact (JoinedByScripts.refl _).append ih

section Table

variable (table : KeywordTable) (names : List String)

/-- Script names join the candidates of a text. -/
theorem joined_textCandidates (text : String) :
    JoinedByScripts (textCandidates table text) (textCandidates (table.withScripts names) text) :=
  joined_extend _ _ table.entries

/-- **Script names join the candidates of a table.** -/
theorem joined_candidates (title body : String) :
    JoinedByScripts (candidates table title body)
      (candidates (table.withScripts names) title body) := by
  have hos : JoinedByScripts (fieldCandidates .os body (textCandidates table))
      (fieldCandidates .os body (textCandidates (table.withScripts names))) := by
    unfold fieldCandidates
    split
    · exact .nil
    · exact joined_textCandidates table names _
  unfold candidates bodyCandidates
  exact (joined_textCandidates table names title).append (hos.append (.refl _))

end Table

/-! ### Issues -/

/-- The issues are of the same kind and have the same labels, `scripts` aside, which the second one has
if the first one does. -/
structure AgreeUpToScripts (issue other : Issue) : Prop where
  isPullRequest : other.isPullRequest = issue.isPullRequest
  mem_iff : ∀ label, label ≠ scriptsLabel → (label ∈ other.labels ↔ label ∈ issue.labels)
  scripts : scriptsLabel ∈ issue.labels → scriptsLabel ∈ other.labels

namespace AgreeUpToScripts

variable {issue other : Issue}

/-- An issue agrees with itself. -/
theorem refl (issue : Issue) : AgreeUpToScripts issue issue := ⟨rfl, fun _ _ => Iff.rfl, id⟩

/-- Other labels are on both issues or on neither. -/
theorem hasLabel_eq (h : AgreeUpToScripts issue other) {label : Label} (hne : label ≠ scriptsLabel) :
    other.hasLabel label = issue.hasLabel label := by
  simp only [Issue.hasLabel, List.contains_eq_mem, h.mem_iff label hne]

/-- The same pairs speak against a label: `scripts` is the right label of none. -/
theorem isNone_conflict?_eq (h : AgreeUpToScripts issue other) (label : Label) :
    (conflict? label other.labels).isNone = (conflict? label issue.labels).isNone := by
  have hright : ∀ pair ∈ illogicalPairs, pair.2 ≠ scriptsLabel := by decide
  rw [Bool.eq_iff_iff, Option.isNone_iff_eq_none, Option.isNone_iff_eq_none, conflict?_eq_none_iff,
    conflict?_eq_none_iff]
  refine forall₃_congr fun pair hpair _ => ?_
  rw [h.mem_iff pair.2 (hright pair hpair)]

/-- The kind of change is a matter of other labels. -/
theorem wantsKind_eq (h : AgreeUpToScripts issue other) : wantsKind other = wantsKind issue := by
  unfold wantsKind
  rw [h.isPullRequest, h.hasLabel_eq (by decide), h.hasLabel_eq (by decide)]

/-- Other candidates are due on both issues or on none. -/
theorem isDue_eq (h : AgreeUpToScripts issue other) {candidate : Candidate}
    (hne : candidate.label ≠ scriptsLabel) : candidate.isDue other = candidate.isDue issue := by
  unfold Candidate.isDue
  rw [h.wantsKind_eq, h.hasLabel_eq hne, h.isNone_conflict?_eq]

/-- A candidate for `scripts` that is due on the first issue is due on the second one, unless it has
the label already. -/
theorem isDue_or_mem (h : AgreeUpToScripts issue other) {candidate : Candidate}
    (hscripts : candidate.label = scriptsLabel) (hdue : candidate.isDue issue = true) :
    candidate.isDue other = true ∨ scriptsLabel ∈ other.labels := by
  by_cases hmem : scriptsLabel ∈ other.labels
  · exact .inr hmem
  · left
    unfold Candidate.isDue at hdue ⊢
    rw [h.wantsKind_eq, h.isNone_conflict?_eq]
    simp only [Bool.and_eq_true] at hdue ⊢
    -- Only that the label is new is left to show.
    refine ⟨⟨hdue.1.1, ?_⟩, hdue.2⟩
    simpa [Issue.hasLabel, hscripts] using hmem

/-- The same labels may be put on both issues. -/
theorem assign_both (h : AgreeUpToScripts issue other) (labels : List Label) :
    AgreeUpToScripts (issue.assign labels) (other.assign labels) where
  isPullRequest := h.isPullRequest
  mem_iff label hne := by
    simp only [Issue.assign, List.mem_append, h.mem_iff label hne]
  scripts hmem := by
    rw [Issue.assign, List.mem_append] at hmem ⊢
    exact hmem.imp_left h.scripts

/-- The second issue may be given `scripts` alone. -/
theorem assign_right (h : AgreeUpToScripts issue other) :
    AgreeUpToScripts issue (other.assign [scriptsLabel]) where
  isPullRequest := h.isPullRequest
  mem_iff label hne := by
    simp only [Issue.assign, List.mem_append, List.mem_singleton, hne, or_false, h.mem_iff label hne]
  scripts hmem := List.mem_append_left _ (h.scripts hmem)

/-- The first issue may be given `scripts` where the second one has it. -/
theorem assign_left (h : AgreeUpToScripts issue other) (hmem : scriptsLabel ∈ other.labels) :
    AgreeUpToScripts (issue.assign [scriptsLabel]) other where
  isPullRequest := h.isPullRequest
  mem_iff label hne := by
    simp only [Issue.assign, List.mem_append, List.mem_singleton, hne, or_false, h.mem_iff label hne]
  scripts _ := hmem

end AgreeUpToScripts

/-! ### Plans -/

/-- The labels without `scripts`. -/
def withoutScripts (labels : List Label) : List Label := labels.filter (· != scriptsLabel)

/-- Each label is left out by itself. -/
theorem withoutScripts_append (labels more : List Label) :
    withoutScripts (labels ++ more) = withoutScripts labels ++ withoutScripts more :=
  List.filter_append labels more

/-- What one candidate adds to an issue. -/
def Candidate.added (candidate : Candidate) (issue : Issue) : List Label :=
  if candidate.isDue issue then [candidate.label] else []

/-- A plan goes on where its first candidate has left the issue. -/
theorem plan_cons (candidate : Candidate) (rest : List Candidate) (issue : Issue) :
    plan (candidate :: rest) issue
      = candidate.added issue ++ plan rest (issue.assign (candidate.added issue)) := by
  unfold Candidate.added
  by_cases hdue : candidate.isDue issue = true
  · rw [plan, if_pos hdue, if_pos hdue, List.singleton_append]
  · rw [plan, if_neg hdue, if_neg hdue, Issue.assign_nil, List.nil_append]

namespace AgreeUpToScripts

variable {issue other : Issue}

/-- A candidate adds the same to both issues, `scripts` aside. -/
theorem withoutScripts_added (h : AgreeUpToScripts issue other) (candidate : Candidate) :
    withoutScripts (candidate.added other) = withoutScripts (candidate.added issue) := by
  by_cases hscripts : candidate.label = scriptsLabel
  · have hnone : ∀ issue, withoutScripts (candidate.added issue) = [] := by
      intro issue
      unfold Candidate.added
      rw [hscripts]
      split
      · rfl
      · rfl
    rw [hnone, hnone]
  · rw [Candidate.added, Candidate.added, h.isDue_eq hscripts]

/-- **One candidate.** The issues still agree once each was given what the candidate adds to it. -/
theorem assign_added (h : AgreeUpToScripts issue other) (candidate : Candidate) :
    AgreeUpToScripts (issue.assign (candidate.added issue))
      (other.assign (candidate.added other)) := by
  unfold Candidate.added
  by_cases hscripts : candidate.label = scriptsLabel
  · -- A candidate for `scripts` may be due on either issue alone, on the first one if the second has it.
    rw [hscripts]
    by_cases hdue : candidate.isDue issue = true
    · by_cases hother : candidate.isDue other = true
      · rw [if_pos hdue, if_pos hother]
        exact h.assign_both [scriptsLabel]
      · have hmem := (h.isDue_or_mem hscripts hdue).resolve_left hother
        rw [if_pos hdue, if_neg hother, Issue.assign_nil]
        exact h.assign_left hmem
    · by_cases hother : candidate.isDue other = true
      · rw [if_neg hdue, if_pos hother, Issue.assign_nil]
        exact h.assign_right
      · rw [if_neg hdue, if_neg hother, Issue.assign_nil, Issue.assign_nil]
        exact h
  · rw [h.isDue_eq hscripts]
    exact h.assign_both _

/-- A candidate for `scripts` that joins adds nothing else. -/
theorem assign_joined (h : AgreeUpToScripts issue other) :
    AgreeUpToScripts issue (other.assign ((Candidate.plain scriptsLabel).added other)) := by
  unfold Candidate.added
  split
  · exact h.assign_right
  · rw [Issue.assign_nil]
    exact h

end AgreeUpToScripts

/-- **Plans that differ in `scripts` only.** Between issues that agree up to `scripts`, more candidates
for `scripts` change nothing else, and the issues agree like this after the plans too. -/
theorem plan_joined {cs ds : List Candidate} (hjoined : JoinedByScripts cs ds) {issue other : Issue}
    (h : AgreeUpToScripts issue other) :
    withoutScripts (plan ds other) = withoutScripts (plan cs issue) ∧
      AgreeUpToScripts (issue.assign (plan cs issue)) (other.assign (plan ds other)) := by
  induction hjoined generalizing issue other with
  | nil =>
    rw [plan, plan, Issue.assign_nil, Issue.assign_nil]
    exact ⟨rfl, h⟩
  | both candidate _ ih =>
    -- The candidate is on both lists, and is due on both issues unless it is for `scripts`.
    obtain ⟨hplan, hagree⟩ := ih (h.assign_added candidate)
    rw [plan_cons, plan_cons, withoutScripts_append, withoutScripts_append,
      h.withoutScripts_added candidate, hplan, ← Issue.assign_assign, ← Issue.assign_assign]
    exact ⟨rfl, hagree⟩
  | @joins cs ds _ ih =>
    -- The candidate is on the second list alone.
    obtain ⟨hplan, hagree⟩ := ih h.assign_joined
    have hnone : withoutScripts ((Candidate.plain scriptsLabel).added other) = [] := by
      unfold Candidate.added
      split
      · rfl
      · rfl
    rw [plan_cons _ ds, withoutScripts_append, hnone, List.nil_append, ← Issue.assign_assign]
    exact ⟨hplan, hagree⟩

end Triage
