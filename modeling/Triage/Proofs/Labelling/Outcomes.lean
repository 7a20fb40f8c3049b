import Triage.Proofs.Labelling.Passes
import Triage.Proofs.Run.Memory

namespace Triage

/-!
# Outcomes of the keywords in a text

A text puts up a label once for each of its keywords that is found. At the tracker that holds the
issue, what becomes of them is known beforehand.

* `outcomeOf`, `outcomesOf` — what becomes of a label, and of labels that are put up in turn.
* `run_addLabel_inMemory`, `run_addHits_inMemory` — one label at the tracker, then any number of them
  by induction.
* `hitOutcomes` — what becomes of the hits of one label, by what the issue had and what the text has
  posted before.
* `outcomesOf_groups` — labels that are put up in groups, each label in one of them.
* `IsLabelledBy`, `addLabelsFromText_inMemory` — a whole text.
-/

/-! ### Labels in turn -/

/-- What becomes of a label that is put up where the known ones are assigned. -/
def outcomeOf (known : List Label) (label : Label) : LabelOutcome :=
  if label ∈ known then .alreadyPresent
  else
    match conflict? label known with
    | some conflict => .conflicting conflict
    | none => .added

/-- What becomes of labels that are put up in turn. Those that are added count as known for the later
ones. -/
def outcomesOf : List Label → List Label → List LabelOutcome
  | _, [] => []
  | known, label :: rest =>
    outcomeOf known label :: outcomesOf (known ++ admitted known [label]) rest

/-- A label is added exactly if it is admitted. -/
theorem outcomeOf_eq_added_iff {known : List Label} {label : Label} :
    outcomeOf known label = .added ↔ Admits known label := by
  rw [admits_iff, outcomeOf]
  by_cases hmem : label ∈ known
  · simp [hmem]
  · cases hconflict : conflict? label known with
    | some conflict => simp [hmem]
    | none => simp [hmem]

/-- A label alone comes to be assigned if it is admitted. -/
theorem admitted_singleton (known : List Label) (label : Label) :
    admitted known [label] = if Admits known label then [label] else [] := rfl

/-- The later labels see the first one if it has come to be assigned. -/
theorem admitted_cons (known : List Label) (label : Label) (rest : List Label) :
    admitted known (label :: rest)
      = admitted known [label] ++ admitted (known ++ admitted known [label]) rest := by
  rw [← admitted_append, List.singleton_append]

/-- Labels that are put up later come to what those before them leave. -/
theorem outcomesOf_append (known labels more : List Label) :
    outcomesOf known (labels ++ more)
      = outcomesOf known labels ++ outcomesOf (known ++ admitted known labels) more := by
  induction labels generalizing known with
  | nil => rw [List.nil_append, outcomesOf, admitted, List.append_nil, List.nil_append]
  | cons label rest ih =>
    rw [List.cons_append, outcomesOf, outcomesOf, ih, admitted_cons known label rest,
      List.append_assoc, List.cons_append]

/-- Each label has an outcome. -/
theorem length_outcomesOf (known labels : List Label) :
    (outcomesOf known labels).length = labels.length := by
  induction labels generalizing known with
  | nil => rfl
  | cons label rest ih => rw [outcomesOf, List.length_cons, List.length_cons, ih]

/-- The labels that come to be assigned are those whose outcome says so. -/
theorem filter_added_outcomesOf (known labels : List Label) :
    ((labels.zip (outcomesOf known labels)).filter (·.2 = .added)).map (·.1)
      = admitted known labels := by
  induction labels generalizing known with
  | nil => rfl
  | cons label rest ih =>
    rw [outcomesOf, List.zip_cons_cons, admitted_cons known label rest, ← ih, admitted_singleton]
    by_cases hadmits : Admits known label
    · have hadded : outcomeOf known label = .added := outcomeOf_eq_added_iff.2 hadmits
      simp [hadmits, hadded]
    · have hother : ¬ outcomeOf known label = .added := mt outcomeOf_eq_added_iff.1 hadmits
      simp [hadmits, hother]

/-- The labels that come to be assigned are among those put up, in order. -/
theorem admitted_sublist (known labels : List Label) : (admitted known labels).Sublist labels := by
  induction labels generalizing known with
  | nil => exact List.Sublist.refl _
  | cons label rest ih =>
    unfold admitted
    split
    · exact (ih _).cons_cons label
    · exact (ih _).cons label

/-- Each label that comes to be assigned is admitted by the known ones and those assigned before. -/
theorem admits_of_admitted_eq {known labels earlier later : List Label} {label : Label}
    (h : admitted known labels = earlier ++ label :: later) : Admits (known ++ earlier) label := by
  induction labels generalizing known earlier with
  | nil => simp [admitted] at h
  | cons first rest ih =>
    unfold admitted at h
    by_cases hadmits : Admits known first
    · rw [if_pos hadmits] at h
      cases earlier with
      | nil =>
        obtain ⟨rfl, -⟩ := List.cons.inj h
        rw [List.append_nil]
        exact hadmits
      | cons other earlier =>
        obtain ⟨rfl, hrest⟩ := List.cons.inj h
        have hlater := ih hrest
        rw [List.append_assoc, List.singleton_append] at hlater
        exact hlater
    · rw [if_neg hadmits] at h
      exact ih h

/-! ### At the tracker that holds the issue -/

/-- Labels were put up in turn at the tracker that holds the issue. The step has succeeded with their
outcomes, the tracker was asked for those that come to be assigned, and they are on the issue, as it is
known and as the tracker has it. -/
structure PutUpAt (labels : List Label) (issue : Issue)
    (outcome : MemoryOutcome (Except MemoryError (List LabelOutcome) × Issue)) : Prop where
  value : outcome.value
    = (.ok (outcomesOf issue.labels labels), issue.assign (admitted issue.labels labels))
  state : outcome.state = ⟨issue.assign (admitted issue.labels labels), [], []⟩
  calls : outcome.exchanges.map (·.1)
    = (admitted issue.labels labels).map (.addLabel issue.number)

/-- One label at the tracker that holds the issue. -/
theorem run_addLabel_inMemory (label : Label) (issue : Issue) :
    let run := ((addLabel label).run issue).run MemoryTracker.answer ⟨issue, [], []⟩
    let posted := admitted issue.labels [label]
    run.value = (.ok (outcomeOf issue.labels label), issue.assign posted) ∧
      run.state = ⟨issue.assign posted, [], []⟩ ∧
      run.exchanges.map (·.1) = posted.map (.addLabel issue.number) := by
  intro run posted
  by_cases hmem : label ∈ issue.labels
  · have hrun : (addLabel label : TriageStep MemoryError LabelOutcome).run issue
        = .note (.labelPresent label) (.done (.ok .alreadyPresent, issue)) := by
      simp [run_addLabel, Issue.hasLabel, hmem]
    -- A label that is there is found, and nothing is sent.
    have hposted : posted = [] := if_neg fun hadmits => hadmits.1 hmem
    have houtcome : outcomeOf issue.labels label = .alreadyPresent := if_pos hmem
    rw [hposted, houtcome, Issue.assign_nil]
    simp only [run, hrun]
    exact ⟨rfl, rfl, rfl⟩
  · cases hconflict : conflict? label issue.labels with
    | some conflict =>
      have hrun : (addLabel label : TriageStep MemoryError LabelOutcome).run issue
          = .note (.labelSuppressed label conflict) (.done (.ok (.conflicting conflict), issue)) := by
        simp [run_addLabel, Issue.hasLabel, hmem, hconflict]
      have hposted : posted = [] := if_neg fun hadmits => by
        simp [admits_iff, hconflict] at hadmits
      have houtcome : outcomeOf issue.labels label = .conflicting conflict := by
        simp [outcomeOf, hmem, hconflict]
      rw [hposted, houtcome, Issue.assign_nil]
      simp only [run, hrun]
      exact ⟨rfl, rfl, rfl⟩
    | none =>
      have hposted : posted = [label] := if_pos (admits_iff.2 ⟨hmem, hconflict⟩)
      have houtcome : outcomeOf issue.labels label = .added := by
        simp [outcomeOf, hmem, hconflict]
      -- The tracker holds the issue and has no faults, so it answers with all labels and the new one.
      have hfault : Fault.label label ∉ ([] : List Fault) := List.not_mem_nil
      have hanswer := answer_addLabel_new hfault hmem issue.number
      have hlearned := issue.learn_eq_assign label
      rw [hposted, houtcome]
      simp only [run, run_addLabel, Issue.hasLabel, List.contains_eq_mem, hmem, decide_false, hconflict,
        Bool.false_eq_true, if_false, Dialogue.run_note, Dialogue.run_ask, Outcome.after_value,
        Outcome.after_state, hanswer, hlearned]
      exact ⟨rfl, rfl, rfl⟩

/-- **Hits in turn**, at the tracker that holds the issue. -/
theorem run_addHits_inMemory (hits : List KeywordHit) (issue : Issue) :
    PutUpAt (hits.map (·.label)) issue
      (((hits.mapM addHit).run issue).run MemoryTracker.answer ⟨issue, [], []⟩) := by
  induction hits generalizing issue with
  | nil =>
    refine ⟨?_, ?_, rfl⟩
    · simp [outcomesOf, admitted]
    · simp [admitted]
  | cons hit rest ih =>
    obtain ⟨hvalue, hstate, hcalls⟩ := run_addLabel_inMemory hit.label issue
    -- the later hits find the issue as this one leaves it, here and at the tracker
    obtain ⟨hlaterValue, hlaterState, hlaterCalls⟩ :=
      ih (issue.assign (admitted issue.labels [hit.label]))
    have hrun : ((hit :: rest).mapM addHit : TriageStep MemoryError (List LabelOutcome)).run issue
        = .note (.keywordMatched hit) ((addLabel hit.label).run issue
            >>= TriageStep.onward fun outcome => do return outcome :: (← rest.mapM addHit)) := by
      rw [List.mapM_cons]
      rfl
    have hrest : ∀ outcome : LabelOutcome, ∀ issue,
        (do return outcome :: (← rest.mapM addHit) :
          TriageStep MemoryError (List LabelOutcome)).run issue
        = (rest.mapM addHit).run issue
            >>= TriageStep.onward fun outcomes => pure (outcome :: outcomes) := fun _ _ => rfl
    have hposted := admitted_cons issue.labels hit.label (rest.map (·.label))
    have hassigned : (issue.assign (admitted issue.labels [hit.label])).labels
        = issue.labels ++ admitted issue.labels [hit.label] := rfl
    rw [hassigned] at hlaterValue hlaterState hlaterCalls
    rw [hrun, List.map_cons]
    refine ⟨?_, ?_, ?_⟩
    · rw [Dialogue.run_note, Outcome.after_value, Dialogue.value_run_bind, hvalue, hstate,
        TriageStep.onward_ok, hrest, Dialogue.value_run_bind, hlaterValue, hposted,
        ← Issue.assign_assign]
      rfl
    · rw [Dialogue.run_note, Outcome.after_state, Dialogue.state_run_bind, hvalue, hstate,
        TriageStep.onward_ok, hrest, Dialogue.state_run_bind, hlaterValue, hlaterState, hposted,
        ← Issue.assign_assign]
      rfl
    · rw [Dialogue.exchanges_run_note, Dialogue.exchanges_run_bind, List.map_append, hcalls, hvalue,
        hstate, TriageStep.onward_ok, hrest, Dialogue.exchanges_run_bind, List.map_append, hlaterCalls,
        hlaterValue, hposted, List.map_append]
      exact congrArg _ (List.append_nil _)

/-! ### Hits of one label -/

/-- What becomes of the hits of one label, so many of them, in a text that has posted the labels
`earlier` before, on an issue that had the labels `assigned`: each finds the label present if the issue
had it; else each names the first pair that speaks against it, if there is one; else the first adds the
label, and the others find it present. -/
def hitOutcomes (assigned earlier : List Label) (label : Label) : Nat → List LabelOutcome
  | 0 => []
  | count + 1 =>
    if label ∈ assigned then List.replicate (count + 1) .alreadyPresent
    else
      match illogicalPairs.find? fun pair =>
        pair.1 = label ∧ (pair.2 ∈ assigned ∨ pair.2 ∈ earlier) with
      | some (_, conflict) => List.replicate (count + 1) (.conflicting conflict)
      | none => .added :: List.replicate count .alreadyPresent

/-- A conflict is found with what the issue had or with what was posted before. -/
theorem conflict?_append (label : Label) (assigned earlier : List Label) :
    conflict? label (assigned ++ earlier)
      = (illogicalPairs.find? fun pair =>
          pair.1 = label ∧ (pair.2 ∈ assigned ∨ pair.2 ∈ earlier)).map (·.2) := by
  have hsame : (fun pair : Label × Label => pair.1 == label && (assigned ++ earlier).contains pair.2)
      = fun pair => decide (pair.1 = label ∧ (pair.2 ∈ assigned ∨ pair.2 ∈ earlier)) := by
    funext pair
    rw [Bool.eq_iff_iff]
    simp
  rw [conflict?, hsame]

/-- A label that is not added stays so, and comes to the same each time. -/
theorem outcomesOf_replicate_of_ne {known : List Label} {label : Label}
    (h : outcomeOf known label ≠ .added) (count : Nat) :
    outcomesOf known (List.replicate count label)
      = List.replicate count (outcomeOf known label) := by
  have hnone : admitted known [label] = [] := if_neg (mt outcomeOf_eq_added_iff.2 h)
  induction count with
  | zero => rfl
  | succ count ih =>
    rw [List.replicate_succ, outcomesOf, hnone, List.append_nil, ih, List.replicate_succ]

/-- **The hits of one label**, all in a row. -/
theorem outcomesOf_replicate (assigned : List Label) {earlier : List Label} {label : Label}
    (hearlier : label ∉ earlier) (count : Nat) :
    outcomesOf (assigned ++ earlier) (List.replicate count label)
      = hitOutcomes assigned earlier label count := by
  cases count with
  | zero => rfl
  | succ count =>
    by_cases hmem : label ∈ assigned
    · -- The issue had the label, so each hit finds it.
      have hpresent : outcomeOf (assigned ++ earlier) label = .alreadyPresent :=
        if_pos (List.mem_append_left _ hmem)
      rw [outcomesOf_replicate_of_ne (by simp [hpresent]), hpresent, hitOutcomes, if_pos hmem]
    · have hnew : label ∉ assigned ++ earlier := by simp [hmem, hearlier]
      have houtcome : outcomeOf (assigned ++ earlier) label
          = match conflict? label (assigned ++ earlier) with
            | some conflict => .conflicting conflict
            | none => .added := if_neg hnew
      rw [hitOutcomes, if_neg hmem]
      rw [conflict?_append] at houtcome
      cases hpair : illogicalPairs.find? fun pair =>
          pair.1 = label ∧ (pair.2 ∈ assigned ∨ pair.2 ∈ earlier) with
      | some pair =>
        -- The pair that speaks against the label does so each time.
        rw [hpair] at houtcome
        rw [outcomesOf_replicate_of_ne (by simp [houtcome]), houtcome]
        rfl
      | none =>
        rw [hpair] at houtcome
        have hadmits : Admits (assigned ++ earlier) label := outcomeOf_eq_added_iff.1 houtcome
        -- the first hit adds the label, and the others find it
        have hagain : outcomeOf (assigned ++ earlier ++ [label]) label = .alreadyPresent :=
          if_pos (by simp)
        rw [List.replicate_succ, outcomesOf, houtcome, admitted_singleton, if_pos hadmits,
          outcomesOf_replicate_of_ne (by rw [hagain]; simp), hagain]
        rfl

/-! ### Groups of hits -/

section Groups

variable (assigned : List Label) (count : Label → Nat)

/-- Each label as often as is counted for it. -/
def inGroups (labels : List Label) : List Label :=
  labels.flatMap fun label => List.replicate (count label) label

/-- In the groups of some labels there are no others. -/
theorem mem_of_mem_inGroups {labels : List Label} {label : Label} (h : label ∈ inGroups count labels) :
    label ∈ labels := by
  obtain ⟨other, hother, hlabel⟩ := List.mem_flatMap.1 h
  exact (List.mem_replicate.1 hlabel).2 ▸ hother

/-- The groups of more labels come after those of the first ones. -/
theorem inGroups_append (labels more : List Label) :
    inGroups count (labels ++ more) = inGroups count labels ++ inGroups count more :=
  List.flatMap_append

/-- The labels that are assigned before a label has its turn are those that stand before it. -/
theorem filter_admitted_inGroups {before later : List Label} {label : Label}
    (hnodup : (before ++ label :: later).Nodup) :
    (admitted assigned (inGroups count (before ++ label :: later))).filter
        (· ∈ (before ++ label :: later).takeWhile (· != label))
      = admitted assigned (inGroups count before) := by
  obtain ⟨-, -, hdisjoint⟩ := List.nodup_append.1 hnodup
  have hbefore : (before ++ label :: later).takeWhile (· != label) = before := by
    have hne : ∀ other ∈ before, (other != label) = true := by
      intro other hother
      simpa using hdisjoint other hother label List.mem_cons_self
    rw [List.takeWhile_append_of_pos hne]
    simp
  have hfirst : ∀ other ∈ admitted assigned (inGroups count before),
      decide (other ∈ before) = true := by
    intro other hother
    have hmem := mem_of_mem_inGroups count ((admitted_sublist _ _).subset hother)
    simpa using hmem
  -- What is assigned later belongs to other groups.
  have hrest : ∀ other ∈ admitted (assigned ++ admitted assigned (inGroups count before))
      (inGroups count (label :: later)), ¬ decide (other ∈ before) = true := by
    intro other hother hmem
    have hlater := mem_of_mem_inGroups count ((admitted_sublist _ _).subset hother)
    exact hdisjoint other (by simpa using hmem) other hlater rfl
  rw [hbefore, inGroups_append, admitted_append, List.filter_append, List.filter_eq_self.2 hfirst,
    List.filter_eq_nil_iff.2 hrest, List.append_nil]

/-- **Labels in groups.** Where no label has two groups, each group comes to what the labels posted by
the groups before it make of it. By induction on the groups that are left. -/
theorem outcomesOf_groups {before labels : List Label} (hnodup : (before ++ labels).Nodup) :
    outcomesOf (assigned ++ admitted assigned (inGroups count before)) (inGroups count labels)
      = labels.flatMap fun label =>
          hitOutcomes assigned
            ((admitted assigned (inGroups count (before ++ labels))).filter
              (· ∈ (before ++ labels).takeWhile (· != label)))
            label (count label) := by
  induction labels generalizing before with
  | nil => rfl
  | cons label later ih =>
    have hposted := filter_admitted_inGroups assigned count hnodup
    have hnew : label ∉ admitted assigned (inGroups count before) := by
      intro hmem
      have hbefore := mem_of_mem_inGroups count ((admitted_sublist _ _).subset hmem)
      exact (List.nodup_append.1 hnodup).2.2 label hbefore label List.mem_cons_self rfl
    have hsplit : inGroups count (before ++ [label])
        = inGroups count before ++ List.replicate (count label) label := by
      rw [inGroups_append]
      simp [inGroups]
    -- the groups that are left start where this one ends
    rw [List.append_cons] at hnodup
    have hlater := ih hnodup
    rw [hsplit, admitted_append, ← List.append_assoc, ← List.append_cons] at hlater
    have hcons : inGroups count (label :: later)
        = List.replicate (count label) label ++ inGroups count later := List.flatMap_cons
    rw [hcons, outcomesOf_append, hlater, List.flatMap_cons, hposted,
      outcomesOf_replicate assigned hnew]

end Groups

/-- A label that is added has not been put up before. -/
theorem not_mem_of_admits_after {known before : List Label} {label : Label}
    (h : Admits (known ++ admitted known before) label) : label ∉ before := by
  intro hmem
  obtain ⟨first, later, rfl⟩ := List.append_of_mem hmem
  -- what was known at the first time is known still, so the label was admitted then
  rw [admitted_append] at h
  have hfirst : Admits (known ++ admitted known first) label := by
    refine ⟨fun hknown => h.1 ?_, fun pair hpair hleft hright => h.2 pair hpair hleft ?_⟩
    · rw [← List.append_assoc]
      exact List.mem_append_left _ hknown
    · rw [← List.append_assoc]
      exact List.mem_append_left _ hright
  have hposted : label ∈ admitted (known ++ admitted known first) (label :: later) := by
    rw [admitted, if_pos hfirst]
    exact List.mem_cons_self
  exact h.1 (by simp [hposted])

/-! ### A whole text -/

/-- Items whose labels differ are counted by their labels. -/
theorem count_flatMap_replicate {ι : Type} {label : ι → Label} (count : ι → Nat) {items : List ι}
    (hnodup : (items.map label).Nodup) {item : ι} (hmem : item ∈ items) :
    (items.flatMap fun other => List.replicate (count other) (label other)).count (label item)
      = count item := by
  induction items with
  | nil => exact absurd hmem List.not_mem_nil
  | cons first rest ih =>
    obtain ⟨hfirst, hrest⟩ := List.nodup_cons.1 hnodup
    rw [List.flatMap_cons, List.count_append]
    rcases List.mem_cons.1 hmem with rfl | hmem
    · -- The label of the first item does not come up again.
      have hnone : (rest.flatMap fun other => List.replicate (count other) (label other)).count
          (label item) = 0 := by
        refine List.count_eq_zero.2 fun hlater => hfirst ?_
        obtain ⟨other, hother, hlabel⟩ := List.mem_flatMap.1 hlater
        rw [(List.mem_replicate.1 hlabel).2]
        exact List.mem_map_of_mem hother
      rw [hnone, List.count_replicate_self, Nat.add_zero]
    · have hne : label first ≠ label item := by
        intro hsame
        exact hfirst (hsame ▸ List.mem_map_of_mem hmem)
      rw [ih hrest hmem, List.count_replicate, if_neg (by simpa using hne), Nat.zero_add]

namespace KeywordTable

/-- How many keywords of a label a text mentions. -/
def countHits (table : KeywordTable) (text : String) (label : Label) : Nat :=
  (table.classify text).countP (·.label == label)

/-- Where no two entries have the same label, the hits of a label stand in a row, in table order. -/
theorem map_label_classify_eq_inGroups {table : KeywordTable} (h : table.labels.Nodup)
    (text : String) :
    (table.classify text).map (·.label) = inGroups (table.countHits text) table.labels := by
  rw [map_label_classify, inGroups, labels, List.flatMap_map]
  refine List.flatMap_congr fun entry hentry => ?_
  have hcount := count_flatMap_replicate (hitCount text) h hentry
  rw [← map_label_classify, List.count, List.countP_map] at hcount
  rw [countHits, ← hcount]
  rfl

end KeywordTable

/-- What becomes of the keywords in a text, on an issue that had the labels `assigned`: their outcomes in
turn, and the labels that are posted. -/
structure IsLabelledBy (table : KeywordTable) (text : String) (assigned : List Label)
    (outcomes : List LabelOutcome) (posted : List Label) : Prop where
  /-- Each hit has an outcome. -/
  length : outcomes.length = (table.classify text).length
  /-- The hits of a label stand in a row, in table order. -/
  grouped : (table.classify text).map (·.label) = inGroups (table.countHits text) table.labels
  /-- The hits of a label come to what the issue had, and what was posted for labels before it, make of
  them. -/
  outcomes_eq : outcomes = table.labels.flatMap fun label =>
    hitOutcomes assigned (posted.filter (· ∈ table.labels.takeWhile (· != label))) label
      (table.countHits text label)
  /-- The labels posted are those of the hits that added theirs. -/
  posted_eq : (((table.classify text).zip outcomes).filter (·.2 = .added)).map (·.1.label) = posted
  /-- A hit that adds its label is the first one of it. -/
  first : ∀ before hit later, table.classify text = before ++ hit :: later →
    outcomes[before.length]? = some .added → ∀ earlier ∈ before, earlier.label ≠ hit.label
  /-- No label is posted twice, nor one that the issue had. -/
  nodup : posted.Nodup ∧ ∀ label ∈ posted, label ∉ assigned
  /-- An issue that was no bug does not become one that is an enhancement too. -/
  exclusive : "bug" ∉ assigned →
    ¬ ("bug" ∈ assigned ++ posted ∧ "enhancement" ∈ assigned ++ posted)

/-- In a built table, `enhancement` comes before `bug` and keeps it off. -/
theorem not_bug_and_enhancement {assigned labels : List Label}
    (hsub : (admitted assigned labels).Sublist KeywordTable.builtin.labels)
    (hbug : "bug" ∉ assigned) :
    ¬ ("bug" ∈ assigned ++ admitted assigned labels ∧
      "enhancement" ∈ assigned ++ admitted assigned labels) := by
  rintro ⟨hmem, henhancement⟩
  have hposted : "bug" ∈ admitted assigned labels := (List.mem_append.1 hmem).resolve_left hbug
  obtain ⟨earlier, later, hsplit⟩ := List.append_of_mem hposted
  have hadmits := admits_of_admitted_eq hsplit
  have hnone : "enhancement" ∉ assigned ++ earlier :=
    hadmits.2 ("bug", "enhancement") (by decide) rfl
  -- so it would have been posted after `bug`, against the order of the table
  have hafter : "enhancement" ∈ later := by
    rw [hsplit] at henhancement
    simp only [List.mem_append, List.mem_cons] at henhancement hnone
    have hother : "enhancement" ≠ "bug" := by decide
    tauto
  have hpair : ["bug", "enhancement"].Sublist (admitted assigned labels) := by
    rw [hsplit]
    have htail : ["enhancement"].Sublist later := List.singleton_sublist.2 hafter
    exact (htail.cons_cons "bug").trans (List.sublist_append_right _ _)
  exact absurd (hpair.trans hsub) (by decide)

/-- **A text at the tracker that holds the issue.** With a table that is built, each hit has an outcome,
in groups by label and in table order; each label is posted at its first hit or not at all; and what is
posted ends up after the labels that the issue had, as it is known and as the tracker has it. -/
theorem addLabelsFromText_inMemory {table : KeywordTable} (built : table.IsBuilt) (text : String)
    (issue : Issue) :
    let run := ((addLabelsFromText table text).run issue).run MemoryTracker.answer ⟨issue, [], []⟩
    ∃ outcomes posted, run.value = (.ok outcomes, issue.assign posted) ∧
      run.state = ⟨issue.assign posted, [], []⟩ ∧
      run.questions = posted.map (.addLabel issue.number) ∧
      IsLabelledBy table text issue.labels outcomes posted := by
  intro run
  have hnodup := built.nodup_labels
  have hgroups := KeywordTable.map_label_classify_eq_inGroups hnodup text
  obtain ⟨hvalue, hstate, hcalls⟩ := run_addHits_inMemory (table.classify text) issue
  refine ⟨_, _, hvalue, hstate, (run.questions_eq_map_exchanges).trans hcalls, ?_⟩
  have hplan := plan_map_plain ((table.classify text).map (·.label)) issue
  have hnothing : ([] ++ table.labels).Nodup := hnodup
  have houtcomes := outcomesOf_groups issue.labels (table.countHits text) hnothing
  constructor
  case length => rw [length_outcomesOf, List.length_map]
  case grouped => exact hgroups
  case outcomes_eq =>
    simpa only [inGroups, List.flatMap_nil, admitted, List.append_nil, List.nil_append, hgroups]
      using houtcomes
  case posted_eq =>
    rw [← filter_added_outcomesOf, List.zip_map_left, List.filter_map, List.map_map]
    rfl
  case first =>
    intro before hit later hsplit hadded earlier hmem hsame
    rw [hsplit, List.map_append, List.map_cons, outcomesOf_append, outcomesOf] at hadded
    have hlength : (outcomesOf issue.labels (before.map (·.label))).length = before.length := by
      rw [length_outcomesOf, List.length_map]
    rw [← hlength, List.getElem?_append_right (Nat.le_refl _), Nat.sub_self] at hadded
    have hadmits := outcomeOf_eq_added_iff.1 (Option.some.inj hadded)
    exact not_mem_of_admits_after hadmits (hsame ▸ List.mem_map_of_mem hmem)
  case nodup =>
    rw [← hplan]
    exact ⟨nodup_plan _ _, fun _ => not_mem_labels_of_mem_plan⟩
  case exclusive =>
    refine not_bug_and_enhancement ?_
    have honce : admitted issue.labels ((table.classify text).map (·.label))
        = admitted issue.labels
            ((table.labels.filter fun label => 0 < table.countHits text label).map id) := by
      rw [hgroups]
      exact admitted_flatMap_replicate (table.countHits text) id table.labels issue.labels
    rw [honce, List.map_id, ← built.labels_eq]
    exact (admitted_sublist _ _).trans List.filter_sublist

/-- An issue about documentation, with a title that mentions keywords of six labels. -/
def busyReport : Issue where
  id := 92
  number := 9
  title := "Ubuntu Linux: no README, scripts/ and tests fail (enhancement)"
  body := none
  state := "open"
  labels := ["doc"]
  pullRequest := none

/-- Of its title, the second keyword of `linux` finds the label present, `scripts` goes ill with what the
issue had, and `bug` with what the title has posted before. -/
theorem addLabelsFromText_inMemory_of_busyReport :
    let run := ((addLabelsFromText .builtin busyReport.title).run busyReport).run
      MemoryTracker.answer ⟨busyReport, [], []⟩
    KeywordTable.builtin.IsBuilt ∧
      (∃ outcomes posted,
        run.value = (.ok outcomes, busyReport.assign posted) ∧
          IsLabelledBy .builtin busyReport.title ["doc"] outcomes posted) ∧
      run.value.1.toOption = some [.added, .alreadyPresent, .added, .conflicting "doc",
        .conflicting "enhancement", .alreadyPresent, .added] ∧
      run.questions = ["linux", "enhancement", "tests"].map (.addLabel 9) := by
  intro run
  obtain ⟨outcomes, posted, hvalue, -, -, hlabelled⟩ :=
    addLabelsFromText_inMemory .builtin busyReport.title busyReport
  have hhits : (KeywordTable.builtin.classify busyReport.title).map (·.label)
      = ["linux", "linux", "enhancement", "scripts", "bug", "doc", "tests"] := by decide +kernel
  have houtcomes : outcomesOf ["doc"]
        ["linux", "linux", "enhancement", "scripts", "bug", "doc", "tests"]
      = [.added, .alreadyPresent, .added, .conflicting "doc", .conflicting "enhancement",
          .alreadyPresent, .added] := by decide +kernel
  have hadded : admitted ["doc"] ["linux", "linux", "enhancement", "scripts", "bug", "doc", "tests"]
      = ["linux", "enhancement", "tests"] := by decide +kernel
  have hrun := run_addHits_inMemory (KeywordTable.builtin.classify busyReport.title) busyReport
  rw [hhits] at hrun
  refine ⟨.builtin, ⟨outcomes, posted, hvalue, hlabelled⟩, ?_, ?_⟩
  · exact (congrArg (·.1.toOption) hrun.value).trans (congrArg some houtcomes)
  · rw [run.questions_eq_map_exchanges]
    exact hrun.calls.trans (congrArg (List.map (TrackerCall.addLabel 9)) hadded)

end Triage
