import Triage.Proofs.Labelling.Outcomes
import Triage.Proofs.Session.Agreement

namespace Triage

/-!
# Labels in another order

A label that is put up may be kept off by one that goes ill with it, and that one in turn by a third.
Still, which labels come to be assigned depends on the order within each pair alone, for no label keeps
itself off through others.

* `inPair`, `ComesFirst` — the occurrences of the labels of a pair, and that the right one is the first
  of them.
* `mem_admitted_append_cons` — a label is assigned where it is put up first, or not at all.
* `mem_admitted_iff` — which labels come to be assigned, by the pairs that speak against them.
* `IsReordering`, `mem_admitted_of_reordering` — another order that keeps the one within each pair.
* `Session.run_addLabels`, `addLabels_reordered` — labels put up one by one in a session.
-/

variable {known labels more : List Label} {label : Label}

/-! ### Where a label comes to be assigned -/

/-- A label that more labels admit is admitted by fewer. -/
theorem Admits.of_append (h : Admits (known ++ more) label) : Admits known label := by
  obtain ⟨hnew, hpairs⟩ := h
  simp only [List.mem_append, not_or] at hnew hpairs
  exact ⟨hnew.1, fun pair hpair hleft => (hpairs pair hpair hleft).1⟩

/-- A label that comes to be assigned was admitted at the start. -/
theorem admits_of_mem_admitted (h : label ∈ admitted known labels) : Admits known label := by
  obtain ⟨earlier, later, hsplit⟩ := List.append_of_mem h
  exact (admits_of_admitted_eq hsplit).of_append

/-- **A label is assigned where it is put up first, or not at all**: what speaks against it there still
does later. -/
theorem mem_admitted_append_cons {before later : List Label} (hbefore : label ∉ before) :
    label ∈ admitted known (before ++ label :: later) ↔
      Admits (known ++ admitted known before) label := by
  have hnone : label ∉ admitted known before :=
    fun hmem => hbefore ((admitted_sublist known before).subset hmem)
  rw [admitted_append, List.mem_append, or_iff_right hnone, admitted]
  by_cases hadmits : Admits (known ++ admitted known before) label
  · rw [if_pos hadmits]
    exact iff_of_true List.mem_cons_self hadmits
  · rw [if_neg hadmits]
    exact iff_of_false (fun hmem => hadmits (admits_of_mem_admitted hmem)) hadmits

/-- Labels that are put up later do not change what becomes of one that has been put up. -/
theorem mem_admitted_append_of_mem (hmem : label ∈ labels) :
    label ∈ admitted known (labels ++ more) ↔ label ∈ admitted known labels := by
  obtain ⟨before, later, rfl, hbefore⟩ := List.eq_append_cons_of_mem hmem
  rw [List.append_assoc, List.cons_append, mem_admitted_append_cons hbefore,
    mem_admitted_append_cons hbefore]

/-! ### The order within a pair -/

/-- The occurrences of the two labels of a pair, in order. -/
def inPair (pair : Label × Label) (labels : List Label) : List Label :=
  labels.filter fun label => label = pair.1 ∨ label = pair.2

/-- Of the labels of a pair, the right one is put up first. -/
def ComesFirst (pair : Label × Label) (labels : List Label) : Prop :=
  (inPair pair labels).head? = some pair.2

instance (pair : Label × Label) (labels : List Label) : Decidable (ComesFirst pair labels) :=
  inferInstanceAs (Decidable (_ = _))

/-- At the first place of the left label, the right one came first if it has been put up by then. -/
theorem comesFirst_append_cons {pair : Label × Label} {before later : List Label}
    (hne : pair.1 ≠ pair.2) (hbefore : pair.1 ∉ before) :
    ComesFirst pair (before ++ pair.1 :: later) ↔ pair.2 ∈ before := by
  -- before that place, all occurrences are of the right label
  have hright : ∀ other ∈ inPair pair before, other = pair.2 := by
    intro other hother
    obtain ⟨hmem, hother⟩ := List.mem_filter.1 hother
    rw [decide_eq_true_iff] at hother
    refine hother.resolve_left ?_
    rintro rfl
    exact hbefore hmem
  have hsplit : inPair pair (before ++ pair.1 :: later)
      = inPair pair before ++ pair.1 :: inPair pair later := by
    simp [inPair]
  rw [ComesFirst, hsplit]
  cases hpair : inPair pair before with
  | nil =>
    have hnone : pair.2 ∉ before := by
      intro hmem
      have hin : pair.2 ∈ inPair pair before := List.mem_filter.2 ⟨hmem, by simp⟩
      rw [hpair] at hin
      exact List.not_mem_nil hin
    exact iff_of_false (by simpa using hne) hnone
  | cons first rest =>
    have hin : first ∈ inPair pair before := hpair ▸ List.mem_cons_self
    have hfirst : first = pair.2 := hright first hin
    refine iff_of_true (by simp [hfirst]) ?_
    exact hfirst ▸ (List.mem_filter.1 hin).1

/-- The labels of a pair differ. -/
theorem ne_of_mem_illogicalPairs : ∀ pair ∈ illogicalPairs, pair.1 ≠ pair.2 := by decide

/-- **Which labels come to be assigned.** A label that is put up and not known does, unless the right
label of one of its pairs is known, or comes to be assigned itself and was put up first. -/
theorem mem_admitted_iff :
    label ∈ admitted known labels ↔
      label ∈ labels ∧ label ∉ known ∧ ∀ pair ∈ illogicalPairs, pair.1 = label →
        pair.2 ∉ known ∧ ¬ (pair.2 ∈ admitted known labels ∧ ComesFirst pair labels) := by
  by_cases hmem : label ∈ labels
  · obtain ⟨before, later, rfl, hbefore⟩ := List.eq_append_cons_of_mem hmem
    have hnone : label ∉ admitted known before :=
      fun hadded => hbefore ((admitted_sublist known before).subset hadded)
    rw [mem_admitted_append_cons hbefore, Admits, List.mem_append, or_iff_left hnone,
      and_iff_right hmem]
    refine and_congr_right fun _ => forall₃_congr fun pair hpair hleft => ?_
    subst hleft
    -- the right label is assigned by then exactly if it is assigned at all and came first
    have hby : pair.2 ∈ admitted known before ↔
        pair.2 ∈ admitted known (before ++ pair.1 :: later) ∧
          ComesFirst pair (before ++ pair.1 :: later) := by
      rw [comesFirst_append_cons (ne_of_mem_illogicalPairs pair hpair) hbefore]
      constructor
      · intro hadded
        have hput := (admitted_sublist known before).subset hadded
        exact ⟨(mem_admitted_append_of_mem hput).2 hadded, hput⟩
      · rintro ⟨hadded, hput⟩
        exact (mem_admitted_append_of_mem hput).1 hadded
    rw [List.mem_append, hby, not_or]
  · -- a label that is not put up is not assigned
    have hnone : label ∉ admitted known labels :=
      fun hadded => hmem ((admitted_sublist known labels).subset hadded)
    exact iff_of_false hnone fun h => hmem h.1

/-! ### Another order -/

/-- The same labels in another order, which keeps that of the occurrences of the two labels of each
pair. -/
structure IsReordering (labels more : List Label) : Prop where
  perm : labels.Perm more
  inPairs : ∀ pair ∈ illogicalPairs, inPair pair labels = inPair pair more

/-- In how many pairs a label is the left one. -/
def pairsOn (label : Label) : Nat := illogicalPairs.countP (·.1 == label)

/-- The pairs run in no circle: the right label of a pair is on the left of fewer pairs. -/
theorem pairsOn_lt : ∀ pair ∈ illogicalPairs, pairsOn pair.2 < pairsOn pair.1 := by decide

/-- **Another order assigns the same labels.** The induction is along the pairs: what becomes of a label
depends on what becomes of the right labels of its pairs. -/
theorem mem_admitted_of_reordering (h : IsReordering labels more) (known : List Label)
    (label : Label) : label ∈ admitted known labels ↔ label ∈ admitted known more := by
  induction hcount : pairsOn label using Nat.strongRecOn generalizing label with
  | ind n ih =>
    rw [mem_admitted_iff, mem_admitted_iff, h.perm.mem_iff]
    refine and_congr_right fun _ => and_congr_right fun _ =>
      forall₃_congr fun pair hpair hleft => and_congr_right fun _ => ?_
    have hlt : pairsOn pair.2 < n := by
      rw [← hcount, ← hleft]
      exact pairsOn_lt pair hpair
    -- What becomes of the right label is the same in both orders, by induction.
    have hright := ih _ hlt pair.2 rfl
    have hfirst : ComesFirst pair labels ↔ ComesFirst pair more := by
      rw [ComesFirst, ComesFirst, h.inPairs pair hpair]
    rw [hright, hfirst]

/-! ### Sessions -/

/-- Labels put up one by one come to be assigned as far as they are admitted, here and at the tracker. -/
theorem Session.run_addLabels (table : KeywordTable) (labels : List Label) (issue : Issue) :
    (Session.run table ⟨issue, ⟨issue, [], []⟩⟩ (labels.map .addLabel)).2
      = ⟨issue.assign (admitted issue.labels labels),
          ⟨issue.assign (admitted issue.labels labels), [], []⟩⟩ := by
  induction labels generalizing issue with
  | nil => simp [Session.run, admitted]
  | cons label rest ih =>
    obtain ⟨hvalue, hstate, -⟩ := run_addLabel_inMemory label issue
    have hact : (SessionStep.act table (.addLabel label)).run issue
        = (addLabel label).run issue >>= TriageStep.onward fun outcome => pure (.outcome outcome) :=
      rfl
    -- the later labels find the issue as this one leaves it, here and at the tracker
    have hstep : (Session.step table ⟨issue, ⟨issue, [], []⟩⟩ (.addLabel label)).state
        = ⟨issue.assign (admitted issue.labels [label]),
            ⟨issue.assign (admitted issue.labels [label]), [], []⟩⟩ := by
      simp only [Session.step, Session.trackerFor, hact, Dialogue.value_run_bind,
        Dialogue.state_run_bind, hvalue, hstate]
      rfl
    have hlater := ih (issue.assign (admitted issue.labels [label]))
    rw [List.map_cons, Session.run, hstep, hlater, admitted_cons issue.labels label rest,
      ← Issue.assign_assign]
    rfl

/-- These labels are the ones posted. -/
theorem Session.postedLabels_addLabels (table : KeywordTable) (labels : List Label) (issue : Issue) :
    postedLabels (Session.run table ⟨issue, ⟨issue, [], []⟩⟩ (labels.map .addLabel)).1
      = admitted issue.labels labels := by
  have hlocal : ∀ step ∈ labels.map SessionStep.addLabel, ∀ remote, step ≠ .remoteLabels remote := by
    simp
  have hstart : Mirrors issue.labels [] issue.labels ⟨issue, [], []⟩ :=
    ⟨rfl, rfl, (List.append_nil _).symm, List.nodup_nil, List.forall_mem_nil _⟩
  -- The labels known at the end are those at the start and those posted, and they are known already.
  have hmirrors := (isKept_mirrors issue.labels).steps table hlocal [] ⟨issue, ⟨issue, [], []⟩⟩ hstart
  have hknown := hmirrors.known
  rw [Session.run_addLabels] at hknown
  exact (List.append_cancel_left hknown).symm

/-- **Only the order within the pairs matters.** Labels are put up one by one on an issue at the tracker
that holds it. In any other order that keeps the one within each pair, the same labels are posted, and
the issue ends up with the same ones. Namely, those are posted that are put up and new, unless the right
label of one of their pairs was there, or is posted too and was put up first. -/
theorem addLabels_reordered (table : KeywordTable) (issue : Issue) {labels more : List Label}
    (h : IsReordering labels more) :
    let first := Session.run table ⟨issue, ⟨issue, [], []⟩⟩ (labels.map .addLabel)
    let second := Session.run table ⟨issue, ⟨issue, [], []⟩⟩ (more.map .addLabel)
    (postedLabels first.1).Perm (postedLabels second.1) ∧
      first.2.issue.labels.Perm second.2.issue.labels ∧
      first.2.tracker.issue.labels.Perm second.2.tracker.issue.labels ∧
      first.2.issue.labels = issue.labels ++ postedLabels first.1 ∧
      ∀ label, label ∈ postedLabels first.1 ↔
        label ∈ labels ∧ label ∉ issue.labels ∧ ∀ pair ∈ illogicalPairs, pair.1 = label →
          pair.2 ∉ issue.labels ∧
            ¬ (pair.2 ∈ postedLabels first.1 ∧ ComesFirst pair labels) := by
  intro first second
  have hnodup : ∀ labels, (admitted issue.labels labels).Nodup := fun labels =>
    plan_map_plain labels issue ▸ nodup_plan _ _
  -- Without repetitions, the same labels are the same up to order.
  have hperm : (admitted issue.labels labels).Perm (admitted issue.labels more) :=
    (List.perm_ext_iff_of_nodup (hnodup labels) (hnodup more)).2
      (mem_admitted_of_reordering h issue.labels)
  have hlabels : (issue.labels ++ admitted issue.labels labels).Perm
      (issue.labels ++ admitted issue.labels more) := hperm.append_left issue.labels
  simp only [first, second, Session.run_addLabels, Session.postedLabels_addLabels]
  exact ⟨hperm, hlabels, hlabels, rfl, fun _ => mem_admitted_iff⟩

/-- Seven labels, of which `doc` is put up twice: before and after `tests`, and around `scripts`. -/
def mixedLabels : List Label :=
  ["doc", "linux", "scripts", "tests", "bug", "doc", "enhancement"]

/-- The same labels, with `bug` still before `enhancement`. -/
def mixedLabelsReordered : List Label :=
  ["bug", "doc", "scripts", "enhancement", "tests", "doc", "linux"]

/-- In both orders `scripts` is kept off by `doc`, and `tests` and `enhancement` come too late to keep off
`doc` and `bug`. -/
theorem addLabels_reordered_of_mixedLabels :
    let first := Session.run .builtin ⟨headersReport, ⟨headersReport, [], []⟩⟩
      (mixedLabels.map .addLabel)
    let second := Session.run .builtin ⟨headersReport, ⟨headersReport, [], []⟩⟩
      (mixedLabelsReordered.map .addLabel)
    IsReordering mixedLabels mixedLabelsReordered ∧
      (postedLabels first.1).Perm (postedLabels second.1) ∧
      postedLabels first.1 = ["doc", "linux", "tests", "bug", "enhancement"] ∧
      postedLabels second.1 = ["bug", "doc", "enhancement", "tests", "linux"] := by
  intro first second
  have hreordering : IsReordering mixedLabels mixedLabelsReordered := ⟨by decide, by decide⟩
  have hsame := addLabels_reordered .builtin headersReport hreordering
  exact ⟨hreordering, hsame.1, by decide +kernel, by decide +kernel⟩

/-- With `enhancement` first, `bug` would be kept off. -/
example : admitted [] ["bug", "enhancement"] = ["bug", "enhancement"] ∧
    admitted [] ["enhancement", "bug"] = ["enhancement"] := by decide

end Triage
