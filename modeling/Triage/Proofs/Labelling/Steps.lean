import Triage.Proofs.Labelling.Decisions
import Triage.Run

namespace Triage

/-!
# The label policy in every step

All ways by which a label is put up go through the policy, whatever the tracker answers.

* `Takes.eq_of_plain`, `Takes.none` — which candidates a step takes.
* `Settles.addLabel`, `Settles.addLabelsFromText`, `Settles.addLabelsFromBody` — each of them decides
  soundly on its candidates, and reports that.
* `labelByTexts`, `Settles.labelByTexts` — so does labelling by a title and a body.
* `Settles.answerNewIssue`, `Settles.answerNewPullRequest` — answering decides on no label.
-/

variable {ε α β γ σ : Type}

/-! ### Candidates that are taken -/

/-- Candidates that are always wanted are all taken. -/
theorem Takes.eq_of_plain {cs : List Candidate} {labels : List Label} (h : Takes cs labels)
    (hplain : ∀ candidate ∈ cs, candidate.settlesKind = false) : labels = cs.map (·.label) := by
  obtain ⟨taken, hsub, hwanted, rfl⟩ := h
  have hall : cs.filter (!·.settlesKind) = cs := by
    rw [List.filter_eq_self]
    intro candidate hmem
    simp [hplain candidate hmem]
  rw [hall] at hwanted
  rw [hsub.antisymm hwanted]

/-- Candidates that are not always wanted may be passed over. -/
theorem Takes.none {cs : List Candidate} (h : ∀ candidate ∈ cs, candidate.settlesKind = true) :
    Takes cs [] := by
  have hplain : cs.filter (!·.settlesKind) = [] := by
    rw [List.filter_eq_nil_iff]
    intro candidate hmem
    simp [h candidate hmem]
  exact ⟨[], List.nil_sublist cs, hplain ▸ .slnil, rfl⟩

/-- Labelling by a title and a body, as an opened issue with these is labelled. -/
def labelByTexts (table : KeywordTable) (title body : String) : TriageStep ε Unit := do
  let _ ← addLabelsFromText table title
  addLabelsFromBody table body
  let last ← TriageStep.known
  if last.hasOsLabel then return ()
  else TriageStep.write (.platformUnknown last.number)

/-- The texts are read at the start. -/
theorem run_labelOpened (table : KeywordTable) (issue : Issue) :
    (labelOpened table : TriageStep ε Unit).run issue
      = (labelByTexts table issue.title issue.bodyText).run issue := rfl

namespace TriageStep.Settles

variable {x : TriageStep ε α} {f : α → TriageStep ε β} {cs ds : List Candidate}
  {stands : α → List LabelOutcome → Prop}

/-- The value stands for no outcome. -/
abbrev Silent : α → List LabelOutcome → Prop := fun _ outcomes => outcomes = []

/-! ### Rules for steps -/

/-- Other candidates may be named in place of those that are decided on, if they are taken alike. -/
theorem of_takes (h : x.Settles cs stands) (htakes : ∀ labels, Takes cs labels → Takes ds labels) :
    x.Settles ds stands := by
  intro σ tracker issue state
  obtain ⟨hsound, hlearned, hunchanged, labels, hlabels, hreported⟩ := h σ tracker issue state
  exact ⟨hsound, hlearned, hunchanged, labels, htakes labels hlabels, hreported⟩

/-- A step that decides on nothing may come before. -/
theorem after_silent {stands' : β → List LabelOutcome → Prop} (hx : x.Settles [] Silent)
    (hf : ∀ value, (f value).Settles cs stands') : (x >>= f).Settles cs stands' := by
  refine hx.bind hf ?_
  rintro value other first second rfl hother
  exact hother

/-- One step after another, where it does not matter what is reported. -/
theorem then_untold {stands' : α → β → List LabelOutcome → Prop} (hx : x.Settles cs stands)
    (hf : ∀ value, (f value).Settles ds (stands' value)) :
    (x >>= f).Settles (cs ++ ds) fun _ _ => True :=
  hx.bind hf fun _ _ _ _ _ _ => trivial

/-- To do nothing decides on nothing. -/
protected theorem pure {value : α} (h : stands value []) :
    (Pure.pure value : TriageStep ε α).Settles [] stands := by
  intro σ tracker issue state
  refine .of_quiet rfl rfl ?_
  rintro other ⟨⟩
  exact h

/-- To look at the issue decides on nothing. -/
protected theorem known : (known : TriageStep ε Issue).Settles [] Silent :=
  fun _ _ _ _ => .of_quiet rfl rfl fun _ _ => rfl

/-- A note that tells nothing of a label that was put up. -/
protected theorem write {entry : Note}
    (h : ∀ known, (Spoken.note entry : TrackerSpoken ε).decision? known = none) :
    (write entry : TriageStep ε Unit).Settles [] Silent := by
  intro σ tracker issue state
  have hnone : decisions issue.labels [(Spoken.note entry : TrackerSpoken ε)] = [] := by
    rw [decisions, h]
    rfl
  exact .of_quiet hnone rfl fun _ _ => rfl

/-- The value of a step may be put into other words. -/
theorem map {stands' : β → List LabelOutcome → Prop} (hx : x.Settles cs stands) {g : α → β}
    (h : ∀ value outcomes, stands value outcomes → stands' (g value) outcomes) :
    (do return g (← x)).Settles cs stands' := by
  have hpure : ∀ value, (Pure.pure (g value) : TriageStep ε β).Settles []
      fun other outcomes => other = g value ∧ outcomes = [] := fun _ => .pure ⟨rfl, rfl⟩
  have hbind : (do return g (← x)).Settles (cs ++ []) stands' := by
    refine hx.bind hpure ?_
    rintro value other first second hvalue ⟨rfl, rfl⟩
    rw [List.append_nil]
    exact h value first hvalue
  rwa [List.append_nil] at hbind

/-! ### Labels that are put up -/

/-- **A label that is put up is decided on once**, and its outcome is the answer. -/
protected theorem addLabel (label : Label) :
    (addLabel label : TriageStep ε LabelOutcome).Settles [.plain label]
      fun outcome outcomes => outcomes = [outcome] := by
  intro σ tracker issue state
  rw [run_addLabel]
  by_cases hassigned : issue.hasLabel label
  · have hmem : label ∈ issue.labels := by simpa [Issue.hasLabel] using hassigned
    rw [if_pos hassigned]
    exact .of_decision ⟨label, issue.labels, .present⟩ rfl (isSound_present hmem) rfl
      (by simp) ⟨rfl, [.alreadyPresent], rfl, rfl⟩
  · have hnew : label ∉ issue.labels := by simpa [Issue.hasLabel] using hassigned
    rw [if_neg hassigned]
    cases hconflict : conflict? label issue.labels with
    | some conflict =>
      exact .of_decision ⟨label, issue.labels, .conflicting conflict⟩ rfl
        (isSound_conflicting hnew hconflict) rfl (by simp)
        ⟨rfl, [.conflicting conflict], rfl, rfl⟩
    | none =>
      have hadmits : Admits issue.labels label := admits_iff.2 ⟨hnew, hconflict⟩
      dsimp only [Dialogue.run_note, Dialogue.run_ask, Outcome.after_said, Outcome.after_value]
      cases hreply : (tracker (.addLabel issue.number label) state).1 with
      | error cause =>
        -- the call failed, and the labels stay as they were
        exact .of_decision ⟨label, issue.labels, .asked (.error cause)⟩ rfl
          (isSound_asked hadmits _) rfl (fun _ _ => rfl) ⟨List.prefix_rfl, by simp⟩
      | ok labels =>
        have hlearned : withLabel label labels = knownAfter issue.labels
            ([.note (.labelDue label), .asked (.addLabel issue.number label) (.ok labels)] :
              List (TrackerSpoken ε)) := withLabel_eq label labels
        exact .of_decision ⟨label, issue.labels, .asked (.ok labels)⟩ rfl
          (isSound_asked hadmits _) hlearned (by simp) ⟨rfl, [.added], rfl, rfl⟩

/-- The label of a keyword is decided on once. -/
protected theorem addHit (hit : KeywordHit) :
    (addHit hit : TriageStep ε LabelOutcome).Settles [.plain hit.label]
      fun outcome outcomes => outcomes = [outcome] :=
  .after_silent (.write fun _ => rfl) fun _ => .addLabel hit.label

/-- Steps that decide on one candidate each, one after another, decide on all of them in turn. -/
protected theorem mapM {g : γ → TriageStep ε LabelOutcome} {toCandidate : γ → Candidate}
    (h : ∀ a, (g a).Settles [toCandidate a] fun outcome outcomes => outcomes = [outcome])
    (items : List γ) :
    (items.mapM g).Settles (items.map toCandidate) fun reported outcomes => outcomes = reported := by
  induction items with
  | nil =>
    rw [List.mapM_nil]
    exact .pure rfl
  | cons a rest ih =>
    rw [List.mapM_cons]
    have hrest : ∀ outcome, (do return outcome :: (← rest.mapM g) :
        TriageStep ε (List LabelOutcome)).Settles (rest.map toCandidate)
        fun reported outcomes => reported = outcome :: outcomes :=
      fun outcome => ih.map fun reported outcomes heq => by rw [heq]
    refine (h a).bind hrest ?_
    rintro outcome reported first second rfl rfl
    rfl

/-- A text decides on the labels of its keywords in turn. -/
protected theorem addLabelsFromText (table : KeywordTable) (text : String) :
    (addLabelsFromText table text : TriageStep ε (List LabelOutcome)).Settles
      (textCandidates table text) fun reported outcomes => outcomes = reported :=
  .mapM .addHit _

/-! ### Lines of the template -/

/-- A line of the template decides on its candidates where it is wanted, and passes them over else. -/
theorem withField {field : Template.Field} {body : String} {wanted : Issue → Bool}
    {act : String → TriageStep ε (List LabelOutcome)} {read : String → List Candidate}
    (hact : ∀ line, (act line).Settles (read line) fun reported outcomes => outcomes = reported)
    (hpassed : ∀ line issue, wanted issue = false → Takes (read line) []) :
    (withField field body wanted act).Settles (fieldCandidates field body read)
      fun _ _ => True := by
  unfold Triage.withField fieldCandidates
  refine .after_silent (.write fun _ => rfl) fun _ => ?_
  cases Template.find? field body with
  | none =>
    intro σ tracker issue state
    exact .of_quiet rfl rfl fun _ _ => trivial
  | some line =>
    refine .after_silent .known fun issue => ?_
    cases h : wanted issue with
    | true =>
      refine .after_silent (.write fun _ => rfl) fun _ => ?_
      exact (hact line).map fun _ _ _ => trivial
    | false =>
      -- The line counts as missing, and its candidates are passed over.
      have hquiet : (write .fieldMissing : TriageStep ε Unit).Settles [] fun _ _ => True :=
        fun _ _ _ _ => .of_quiet rfl rfl fun _ _ => trivial
      refine hquiet.of_takes fun labels hlabels => ?_
      have hnil : labels = [] := hlabels.eq_of_plain (List.forall_mem_nil _)
      rw [hnil]
      exact hpassed line issue h

/-- **The lines of the template** put up their labels through the policy. -/
protected theorem addLabelsFromBody (table : KeywordTable) (body : String) :
    (addLabelsFromBody table body : TriageStep ε Unit).Settles (bodyCandidates table body)
      fun _ _ => True := by
  unfold Triage.addLabelsFromBody bodyCandidates
  refine .after_silent (.write fun _ => rfl) fun _ => ?_
  have hos : (Triage.withField .os body (fun _ => true) fun line => Triage.addLabelsFromText table line :
      TriageStep ε Unit).Settles (fieldCandidates .os body (textCandidates table)) fun _ _ => True :=
    withField (.addLabelsFromText table) fun _ _ h => absurd h (by simp)
  have hfix : (Triage.withField .bugFix body wantsKind fun line =>
      [Template.bugFixLabel line].mapM Triage.addLabel : TriageStep ε Unit).Settles
        (fieldCandidates .bugFix body fun line => [⟨Template.bugFixLabel line, true⟩])
        fun _ _ => True := by
    -- The label of the line may be passed over; if not, it is put up like any other.
    refine withField (fun line => ?_) fun line issue _ => .none (by simp)
    refine (Settles.mapM Settles.addLabel [Template.bugFixLabel line]).of_takes fun labels hlabels => ?_
    rw [hlabels.eq_of_plain (by simp [Candidate.plain])]
    exact .all [⟨Template.bugFixLabel line, true⟩]
  have htype : (Triage.withField .type body (fun _ => true) fun line =>
      (Template.typeLabels line).mapM Triage.addLabel : TriageStep ε Unit).Settles
        (fieldCandidates .type body fun line => (Template.typeLabels line).map .plain)
        fun _ _ => True :=
    withField (fun line => .mapM .addLabel _) fun _ _ h => absurd h (by simp)
  exact hos.then_untold fun _ => hfix.then_untold fun _ => htype

/-! ### Answering, and labelling by texts -/

/-- Answering an issue puts up no label. -/
protected theorem answerNewIssue :
    (answerNewIssue : TriageStep ε Disposition).Settles [] Silent := by
  unfold Triage.answerNewIssue
  refine .after_silent .known fun issue => .after_silent (.write fun _ => rfl) fun _ => ?_
  cases MissingHeaders.detect? issue.title issue.bodyText with
  | none => exact .pure rfl
  | some signature =>
    refine .after_silent (.write fun _ => rfl) fun _ => ?_
    -- Neither call is one for a label.
    have hcomment : (call (.comment issue.number MissingHeaders.reply) :
        TriageStep ε Unit).Settles [] Silent := fun _ _ _ _ => .of_quiet rfl rfl fun _ _ => rfl
    have hclose : (call (.close issue.number) : TriageStep ε Unit).Settles [] Silent :=
      fun _ _ _ _ => .of_quiet rfl rfl fun _ _ => rfl
    exact .after_silent hcomment fun _ => .after_silent hclose fun _ => .pure rfl

/-- Nor does leaving a pull request as it is. -/
protected theorem answerNewPullRequest :
    (answerNewPullRequest : TriageStep ε Disposition).Settles [] Silent :=
  .after_silent .known fun _ => .after_silent (.write fun _ => rfl) fun _ => .pure rfl

/-- **Labelling by a title and a body** decides on their candidates. -/
theorem labelByTexts (table : KeywordTable) (title body : String) :
    (Triage.labelByTexts table title body : TriageStep ε Unit).Settles
      (candidates table title body) fun _ _ => True := by
  have hafter : (do
      let last ← TriageStep.known
      if last.hasOsLabel then return ()
      else TriageStep.write (.platformUnknown last.number) : TriageStep ε Unit).Settles [] Silent := by
    refine .after_silent .known fun last => ?_
    by_cases h : last.hasOsLabel
    · rw [if_pos h]
      exact .pure rfl
    · rw [if_neg h]
      exact .write fun _ => rfl
  have hbody := (Settles.addLabelsFromBody table body).then_untold fun _ => hafter
  rw [List.append_nil] at hbody
  exact (Settles.addLabelsFromText table title).then_untold fun _ => hbody

end TriageStep.Settles

end Triage
