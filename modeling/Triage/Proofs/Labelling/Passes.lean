import Triage.Proofs.Keyword.Built
import Triage.Proofs.Keyword.Hits
import Triage.Proofs.Labelling.Admission
import Triage.Proofs.Labelling.Plan
import Mathlib.Data.List.Nodup

namespace Triage

/-!
# The plan, pass by pass

A keyword that is found puts up its label, found once more it puts it up again. The same labels are
assigned if each pass over the texts puts up each of its labels once.

* `admitted` — of labels that are put up in turn, those that come to be assigned.
* `KeywordTable.hitLabels` — the labels of the table that a text calls for.
* `labelPasses`, `admittedBy`, `labelPlan` — four passes in turn, and what they assign.
* `plan_candidates` — the plan of an issue is that of its passes.
-/

/-- Of the labels that are put up in turn, those that come to be assigned: each one that the known
labels and the ones assigned before it admit. -/
def admitted : List Label → List Label → List Label
  | _, [] => []
  | known, label :: rest =>
    if Admits known label then label :: admitted (known ++ [label]) rest else admitted known rest

/-- Labels that are put up later see those that have come to be assigned. -/
theorem admitted_append (known labels more : List Label) :
    admitted known (labels ++ more)
      = admitted known labels ++ admitted (known ++ admitted known labels) more := by
  induction labels generalizing known with
  | nil => rw [List.nil_append, admitted, List.append_nil, List.nil_append]
  | cons label rest ih =>
    rw [List.cons_append, admitted, admitted]
    by_cases h : Admits known label
    · rw [if_pos h, if_pos h, ih, List.append_assoc, List.singleton_append, List.cons_append]
    · rw [if_neg h, if_neg h, ih]

/-- **A label that is put up again is not assigned again**: it is assigned by then, or what speaks
against it still does. -/
theorem admitted_replicate (known : List Label) (label : Label) (n : Nat) :
    admitted known (List.replicate (n + 1) label) = admitted known [label] := by
  induction n generalizing known with
  | zero => rfl
  | succ n ih =>
    rw [List.replicate_succ, admitted, ih, ih]
    by_cases h : Admits known label
    · -- it is known by now
      have hagain : ¬ Admits (known ++ [label]) label :=
        fun hagain => hagain.1 (List.mem_append_right _ (List.mem_singleton.2 rfl))
      simp only [admitted, if_pos h, if_neg hagain]
    · rw [if_neg h]

/-- Labels that are put up several times in a row might as well be put up once. -/
theorem admitted_flatMap_replicate {ι : Type} (count : ι → Nat) (label : ι → Label)
    (items : List ι) (known : List Label) :
    admitted known (items.flatMap fun item => List.replicate (count item) (label item))
      = admitted known ((items.filter fun item => 0 < count item).map label) := by
  induction items generalizing known with
  | nil => rfl
  | cons item rest ih =>
    rw [List.flatMap_cons, admitted_append]
    -- an item that is not put up at all is left out on the right
    cases hcount : count item with
    | zero =>
      rw [List.filter_cons_of_neg (by simp [hcount]), ← ih]
      simp [admitted]
    | succ n =>
      rw [List.filter_cons_of_pos (by simp [hcount]), admitted_replicate, List.map_cons, ih,
        ← admitted_append, List.singleton_append]

/-- A plan on candidates that are always wanted assigns the labels that are admitted. -/
theorem plan_map_plain (labels : List Label) (issue : Issue) :
    plan (labels.map .plain) issue = admitted issue.labels labels := by
  induction labels generalizing issue with
  | nil => rfl
  | cons label rest ih =>
    rw [List.map_cons, plan, isDue_eq_decide_admits, admitted, ih, ih]
    simp only [decide_eq_true_eq]
    rfl

/-! ### The labels of a text -/

namespace KeywordTable

variable {table : KeywordTable} (text : String)

/-- The labels of the table with a keyword that the text mentions, in table order. -/
def hitLabels (table : KeywordTable) (text : String) : List Label :=
  table.labels.filter fun label => (table.classify text).any (·.label == label)

/-- Where no two entries have the same label, the labels of a text are those of the entries that are
found. -/
theorem hitLabels_eq (h : table.labels.Nodup) :
    table.hitLabels text
      = (table.entries.filter fun entry => 0 < hitCount text entry).map (·.label) := by
  rw [hitLabels, labels, List.filter_map]
  congr 1
  refine List.filter_congr fun entry hentry => ?_
  -- another entry that is found and has this label would be this one
  have hfound : entry.label ∈ (table.classify text).map (·.label) ↔ 0 < hitCount text entry := by
    rw [map_label_classify, List.mem_flatMap]
    constructor
    · rintro ⟨other, hother, hlabel⟩
      obtain ⟨hcount, hlabel⟩ := List.mem_replicate.1 hlabel
      rw [List.inj_on_of_nodup_map h hentry hother hlabel]
      exact Nat.pos_of_ne_zero hcount
    · intro hcount
      exact ⟨entry, hentry, List.mem_replicate.2 ⟨Nat.ne_of_gt hcount, rfl⟩⟩
  rw [Bool.eq_iff_iff, decide_eq_true_iff, ← hfound]
  simp

end KeywordTable

/-- **Each label of a text might as well be put up once.** -/
theorem plan_textCandidates {table : KeywordTable} (h : table.labels.Nodup) (text : String)
    (issue : Issue) :
    plan (textCandidates table text) issue = admitted issue.labels (table.hitLabels text) := by
  have hmap : textCandidates table text = ((table.classify text).map (·.label)).map .plain := by
    rw [textCandidates, List.map_map]
    rfl
  rw [hmap, plan_map_plain, KeywordTable.map_label_classify, admitted_flatMap_replicate,
    KeywordTable.hitLabels_eq text h]

/-! ### Passes in turn -/

/-- The labels that passes in turn assign. Each pass puts up its labels in view of those that are known
by then. -/
def admittedBy : List (List Label → List Label) → List Label → List Label
  | [], _ => []
  | pass :: rest, known =>
    let added := admitted known (pass known)
    added ++ admittedBy rest (known ++ added)

/-- The labels of a line of the template, none if the line is missing. -/
def fieldLabels (field : Template.Field) (body : String) (read : String → List Label) : List Label :=
  match Template.find? field body with
  | none => []
  | some line => read line

/-- The passes over an opened issue: the title, then three lines of the template. The second line counts
for a pull request that is neither a bug nor an enhancement by then. -/
def labelPasses (table : KeywordTable) (issue : Issue) : List (List Label → List Label) :=
  [fun _ => table.hitLabels issue.title,
   fun _ => fieldLabels .os issue.bodyText table.hitLabels,
   fun known =>
    if issue.isPullRequest ∧ "bug" ∉ known ∧ "enhancement" ∉ known then
      fieldLabels .bugFix issue.bodyText fun line => [Template.bugFixLabel line]
    else [],
   fun _ => fieldLabels .type issue.bodyText Template.typeLabels]

/-- The labels that triage assigns to an opened issue. -/
def labelPlan (table : KeywordTable) (issue : Issue) : List Label :=
  admittedBy (labelPasses table issue) issue.labels

/-- A line of the template assigns what its candidates do. -/
theorem plan_fieldCandidates (field : Template.Field) (body : String)
    {toCandidates : String → List Candidate} {toLabels : String → List Label} {issue : Issue}
    (h : ∀ line, plan (toCandidates line) issue = admitted issue.labels (toLabels line)) :
    plan (fieldCandidates field body toCandidates) issue
      = admitted issue.labels (fieldLabels field body toLabels) := by
  unfold fieldCandidates fieldLabels
  cases Template.find? field body with
  | none => rfl
  | some line => exact h line

/-- The line on bug fixes puts up its label while the kind is open. -/
theorem plan_bugFix (body : String) (issue : Issue) :
    plan (fieldCandidates .bugFix body fun line => [⟨Template.bugFixLabel line, true⟩]) issue
      = admitted issue.labels
          (if issue.isPullRequest ∧ "bug" ∉ issue.labels ∧ "enhancement" ∉ issue.labels then
            fieldLabels .bugFix body fun line => [Template.bugFixLabel line]
          else []) := by
  have hwants : wantsKind issue = true ↔
      issue.isPullRequest ∧ "bug" ∉ issue.labels ∧ "enhancement" ∉ issue.labels := by
    simp [wantsKind, Issue.hasLabel, and_assoc]
  by_cases h : wantsKind issue = true
  · rw [if_pos (hwants.1 h)]
    refine plan_fieldCandidates .bugFix body fun line => ?_
    -- a candidate whose kind is open is like one that is always wanted
    have hdue : Candidate.isDue ⟨Template.bugFixLabel line, true⟩ issue
        = (Candidate.plain (Template.bugFixLabel line)).isDue issue := by
      simp [Candidate.isDue, Candidate.plain, h]
    rw [← plan_map_plain, List.map_singleton, plan, plan, hdue]
    rfl
  · -- the kind is settled, and so a label of the line would not be due
    rw [if_neg (mt hwants.2 h), fieldCandidates]
    cases Template.find? .bugFix body with
    | none => rfl
    | some line => simp [plan, Candidate.isDue, h, admitted]

/-- **The plan of an issue is that of its passes.** -/
theorem plan_candidates {table : KeywordTable} (h : table.labels.Nodup) (issue : Issue) :
    plan (candidates table issue.title issue.bodyText) issue = labelPlan table issue := by
  -- what a pass leaves behind is the same issue with more labels, and only these matter to the next one
  simp only [candidates, bodyCandidates, plan_append, plan_bugFix, plan_textCandidates h,
    plan_fieldCandidates .os _ (plan_textCandidates h · _),
    plan_fieldCandidates .type _ (fun line => plan_map_plain (Template.typeLabels line) _),
    labelPlan, labelPasses, admittedBy, List.append_nil]
  rfl

end Triage
