import Triage.Proofs.Labelling.Candidates
import Mathlib.Data.List.Basic
import Mathlib.Tactic.Common

namespace Triage

/-!
# The plan of a labelling

Where a tracker just appends what it is asked for, the labels that a list of candidates leads to are
known beforehand.

* `Issue.assign` — the issue with more labels at the end.
* `plan`, `plan_append` — the labels that candidates add to an issue, in order.
* `isDue_of_isDue_assign` — a candidate that is not due stays so, whatever is assigned.
* `plan_assign` — a plan that is taken up after a part of it was carried out is the rest of it.
-/

/-- The issue with more labels at the end. -/
def Issue.assign (issue : Issue) (labels : List Label) : Issue :=
  { issue with labels := issue.labels ++ labels }

/-- With no more labels the issue is as before. -/
@[simp] theorem Issue.assign_nil (issue : Issue) : issue.assign [] = issue := by
  simp [Issue.assign]

/-- Labels may be put at the end in two goes. -/
@[simp] theorem Issue.assign_assign (issue : Issue) (labels more : List Label) :
    (issue.assign labels).assign more = issue.assign (labels ++ more) := by
  simp [Issue.assign]

/-- Labels do not change the number. -/
@[simp] theorem Issue.number_assign (issue : Issue) (labels : List Label) :
    (issue.assign labels).number = issue.number := rfl

/-- An issue is known to have the labels that the tracker answers with, here all and the new one. -/
theorem Issue.learn_eq_assign (issue : Issue) (label : Label) :
    ({ issue with labels := withLabel label (issue.labels ++ [label]) } : Issue)
      = issue.assign [label] := by
  simp [withLabel, Issue.assign]

/-- The labels that candidates add to an issue, in order. -/
def plan : List Candidate → Issue → List Label
  | [], _ => []
  | candidate :: rest, issue =>
    if candidate.isDue issue then candidate.label :: plan rest (issue.assign [candidate.label])
    else plan rest issue

/-- A plan takes up the later candidates where the earlier ones have left the issue. -/
theorem plan_append (cs ds : List Candidate) (issue : Issue) :
    plan (cs ++ ds) issue = plan cs issue ++ plan ds (issue.assign (plan cs issue)) := by
  induction cs generalizing issue with
  | nil => rw [List.nil_append, plan, Issue.assign_nil, List.nil_append]
  | cons candidate rest ih =>
    rw [List.cons_append, plan, plan]
    by_cases hdue : candidate.isDue issue = true
    · rw [if_pos hdue, if_pos hdue, ih, Issue.assign_assign, List.singleton_append,
        List.cons_append]
    · rw [if_neg hdue, if_neg hdue, ih]

/-- **What is not due stays so.** A label that is assigned remains so, and with it every pair that
speaks against a candidate and every kind that is settled. -/
theorem isDue_of_isDue_assign {candidate : Candidate} {issue : Issue} {labels : List Label}
    (h : candidate.isDue (issue.assign labels) = true) : candidate.isDue issue = true := by
  simp only [Candidate.isDue, Bool.and_eq_true, Bool.or_eq_true, Bool.not_eq_true',
    Option.isNone_iff_eq_none, conflict?_eq_none_iff, wantsKind, Issue.hasLabel, Issue.assign,
    Issue.isPullRequest, List.contains_eq_mem, decide_eq_false_iff_not, List.mem_append,
    not_or] at h ⊢
  -- Each part of being due says that some labels are missing, which holds of fewer ones too.
  obtain ⟨⟨hwanted, hnew⟩, hpairs⟩ := h
  refine ⟨⟨?_, hnew.1⟩, fun pair hpair hleft => (hpairs pair hpair hleft).1⟩
  rcases hwanted with hplain | ⟨⟨hrequest, hbug⟩, henhancement⟩
  · exact .inl hplain
  · exact .inr ⟨⟨hrequest, hbug.1⟩, henhancement.1⟩

/-- A candidate whose label is assigned is not due. -/
theorem isDue_eq_false_of_mem {candidate : Candidate} {issue : Issue}
    (h : candidate.label ∈ issue.labels) : candidate.isDue issue = false := by
  simp [Candidate.isDue, Issue.hasLabel, h]

/-- A candidate that is due has a label that is not assigned. -/
theorem not_mem_labels_of_isDue {candidate : Candidate} {issue : Issue}
    (h : candidate.isDue issue = true) : candidate.label ∉ issue.labels := by
  intro hmem
  rw [isDue_eq_false_of_mem hmem] at h
  exact absurd h (by decide)

/-- **A plan can be taken up anywhere.** Once its first labels are assigned, the same candidates add
just the others. -/
theorem plan_assign {cs : List Candidate} {issue : Issue} {done left : List Label}
    (h : plan cs issue = done ++ left) : plan cs (issue.assign done) = left := by
  induction cs generalizing issue done with
  | nil =>
    rw [plan, eq_comm, List.append_eq_nil_iff] at h
    rw [plan, h.2]
  | cons candidate rest ih =>
    unfold plan at h
    by_cases hdue : candidate.isDue issue = true
    · rw [if_pos hdue] at h
      cases done with
      | nil =>
        rw [Issue.assign_nil, plan, if_pos hdue]
        exact h
      | cons label done =>
        rw [List.cons_append, List.cons.injEq] at h
        obtain ⟨rfl, hrest⟩ := h
        -- the label of this candidate is among those that are done
        have hassigned : candidate.isDue (issue.assign (candidate.label :: done)) = false :=
          isDue_eq_false_of_mem (by simp [Issue.assign])
        have hcons : (issue.assign [candidate.label]).assign done
            = issue.assign (candidate.label :: done) := by
          rw [Issue.assign_assign, List.singleton_append]
        rw [plan, hassigned, if_neg (by simp), ← hcons]
        exact ih hrest
    · rw [if_neg hdue] at h
      have hlater : ¬ candidate.isDue (issue.assign done) = true :=
        fun hlater => hdue (isDue_of_isDue_assign hlater)
      rw [plan, if_neg hlater]
      exact ih h

/-- The labels of a plan are new to the issue. -/
theorem not_mem_labels_of_mem_plan {cs : List Candidate} {issue : Issue} {label : Label}
    (h : label ∈ plan cs issue) : label ∉ issue.labels := by
  induction cs generalizing issue with
  | nil => simp [plan] at h
  | cons candidate rest ih =>
    unfold plan at h
    by_cases hdue : candidate.isDue issue = true
    · rw [if_pos hdue, List.mem_cons] at h
      rcases h with rfl | h
      · exact not_mem_labels_of_isDue hdue
      · intro hmem
        exact ih h (List.mem_append_left _ hmem)
    · rw [if_neg hdue] at h
      exact ih h

/-- A plan has no label twice. -/
theorem nodup_plan (cs : List Candidate) (issue : Issue) : (plan cs issue).Nodup := by
  induction cs generalizing issue with
  | nil => exact List.nodup_nil
  | cons candidate rest ih =>
    unfold plan
    split
    · -- Once assigned, a label is new no more.
      refine List.nodup_cons.2 ⟨fun hmem => ?_, ih _⟩
      exact not_mem_labels_of_mem_plan hmem (by simp [Issue.assign])
    · exact ih issue

/-- A plan is a matter of the labels and of whether the issue is a pull request. -/
theorem plan_congr (cs : List Candidate) {issue other : Issue} (hlabels : other.labels = issue.labels)
    (hkind : other.isPullRequest = issue.isPullRequest) : plan cs other = plan cs issue := by
  induction cs generalizing issue other with
  | nil => rfl
  | cons candidate rest ih =>
    -- A candidate is due by the labels and the kind of the issue alone.
    have hdue : candidate.isDue other = candidate.isDue issue := by
      simp only [Candidate.isDue, wantsKind, Issue.hasLabel, hlabels, hkind]
    have hassigned : plan rest (other.assign [candidate.label])
        = plan rest (issue.assign [candidate.label]) :=
      ih (congrArg (· ++ [candidate.label]) hlabels) hkind
    rw [plan, plan, hdue, hassigned, ih hlabels hkind]

end Triage
