import Triage.Labelling
import Triage.Proofs.Dialogue.Exchanges

namespace Triage

/-!
# Labelling as a list of candidates

The four passes over title and template lines put up one label after another. Notes aside, all of
them together are one walk over a list that is known from the texts alone.

* `Candidate`, `candidates` — the labels that title and body call for, in the order in which they are
  put up.
* `Candidate.isDue` — the candidate is asked for: it is new, wanted, and goes with what is assigned.
* `offer` — puts up the candidates in turn.
* `mute_labelOpened` — labelling an opened issue is offering its candidates.
-/

variable {ε α β : Type}

/-! ### Steps without notes -/

namespace TriageStep

/-- The step without its notes. -/
def mute (x : TriageStep ε α) : TriageStep ε α := ⟨fun issue => (x.run issue).mute⟩

/-- The notes of a step are those of its run. -/
@[simp] theorem run_mute (x : TriageStep ε α) (issue : Issue) :
    x.mute.run issue = (x.run issue).mute := rfl

@[simp] theorem mute_pure (value : α) : (pure value : TriageStep ε α).mute = pure value := rfl
@[simp] theorem mute_known : (known : TriageStep ε Issue).mute = known := rfl
@[simp] theorem mute_write (entry : Note) : (write entry : TriageStep ε Unit).mute = pure () := rfl
@[simp] theorem mute_call (c : TrackerCall) : (call c : TriageStep ε c.Answer).mute = call c := rfl

/-- What goes on after a step without notes has none either. -/
theorem mute_onward (f : α → TriageStep ε β) (result : Except ε α × Issue) :
    (onward f result).mute = onward (fun value => (f value).mute) result := by
  obtain ⟨settled, issue⟩ := result
  cases settled with
  | ok value => rfl
  | error cause => rfl

/-- Notes are left out of each step by itself. -/
@[simp] theorem mute_bind (x : TriageStep ε α) (f : α → TriageStep ε β) :
    (x >>= f).mute = x.mute >>= fun value => (f value).mute := by
  ext issue
  simp only [run_mute, run_bind, Dialogue.mute_bind, mute_onward]

/-- The step without its result. -/
def forget (x : TriageStep ε α) : TriageStep ε Unit := do
  let _ ← x
  return ()

/-- A result that is forgotten does not matter to what follows. -/
theorem forget_bind (x : TriageStep ε α) (y : TriageStep ε β) :
    (x.forget >>= fun _ => y) = x >>= fun _ => y := by
  simp only [forget, bind_assoc, pure_bind]

/-- A step for each item is one for the first and one for each of the others. -/
theorem forget_mapM_cons {γ : Type} (f : γ → TriageStep ε α) (a : γ) (rest : List γ) :
    ((a :: rest).mapM f).forget = (f a).forget >>= fun _ => (rest.mapM f).forget := by
  simp only [forget, List.mapM_cons, bind_assoc, pure_bind]

end TriageStep

/-! ### Candidates -/

/-- A label that is put up, and whether it is to settle the kind of a pull request. -/
structure Candidate where
  label : Label
  settlesKind : Bool
  deriving DecidableEq, Repr

namespace Candidate

/-- A candidate that is wanted whatever is assigned. -/
def plain (label : Label) : Candidate := ⟨label, false⟩

/-- The candidate is asked for: it is wanted, not assigned, and no pair speaks against it. -/
def isDue (candidate : Candidate) (issue : Issue) : Bool :=
  (!candidate.settlesKind || wantsKind issue) && !issue.hasLabel candidate.label
    && (conflict? candidate.label issue.labels).isNone

end Candidate

/-- The candidates of the keywords in a text. -/
def textCandidates (table : KeywordTable) (text : String) : List Candidate :=
  (table.classify text).map fun hit => .plain hit.label

/-- The candidates of a line of the template, none if the line is missing. -/
def fieldCandidates (field : Template.Field) (body : String) (read : String → List Candidate) :
    List Candidate :=
  match Template.find? field body with
  | none => []
  | some line => read line

/-- The candidates of the lines of the template. -/
def bodyCandidates (table : KeywordTable) (body : String) : List Candidate :=
  fieldCandidates .os body (textCandidates table)
    ++ (fieldCandidates .bugFix body (fun line => [⟨Template.bugFixLabel line, true⟩])
      ++ fieldCandidates .type body fun line => (Template.typeLabels line).map .plain)

/-- The candidates of a title and a body, in order. -/
def candidates (table : KeywordTable) (title body : String) : List Candidate :=
  textCandidates table title ++ bodyCandidates table body

/-- Puts up candidates in turn. What the tracker answers counts as assigned from then on, and so does
the label; the first call that fails ends it. -/
def offer : List Candidate → Issue → TrackerDialogue ε (Except ε Unit × Issue)
  | [], issue => .done (.ok (), issue)
  | candidate :: rest, issue =>
    if candidate.isDue issue then
      .ask (.addLabel issue.number candidate.label) fun
        | .error cause => .done (.error cause, issue)
        | .ok labels => offer rest { issue with labels := withLabel candidate.label labels }
    else offer rest issue

/-- Offering as a step of triage. -/
def offers (cs : List Candidate) : TriageStep ε Unit := ⟨offer cs⟩

@[simp] theorem run_offers (cs : List Candidate) (issue : Issue) :
    (offers cs : TriageStep ε Unit).run issue = offer cs issue := rfl

/-- To offer nothing is to do nothing. -/
theorem offers_nil : (offers [] : TriageStep ε Unit) = pure () := rfl

/-- Candidates are offered one after the other. -/
theorem offers_cons (candidate : Candidate) (rest : List Candidate) :
    (offers (candidate :: rest) : TriageStep ε Unit)
      = offers [candidate] >>= fun _ => offers rest := by
  ext issue
  by_cases h : candidate.isDue issue
  · simp only [run_offers, offer, if_pos h, TriageStep.run_bind, Dialogue.ask_bind]
    -- One call on both sides, which go on alike with its reply.
    congr 1
    funext reply
    cases reply <;> rfl
  · simp only [run_offers, offer, if_neg h, TriageStep.run_bind, Dialogue.done_bind,
      TriageStep.onward_ok]

/-- More candidates are offered after the first ones. -/
theorem offers_append (cs ds : List Candidate) :
    (offers (cs ++ ds) : TriageStep ε Unit) = offers cs >>= fun _ => offers ds := by
  induction cs with
  | nil => simp only [List.nil_append, offers_nil, pure_bind]
  | cons c cs ih =>
    rw [List.cons_append, offers_cons, ih, offers_cons c cs, bind_assoc]

/-! ### Labelling offers the candidates -/

/-- Adding a label, if it is wanted, is offering one candidate. -/
theorem mute_addLabel_of_wanted (candidate : Candidate) (issue : Issue)
    (h : (!candidate.settlesKind || wantsKind issue) = true) :
    (addLabel candidate.label : TriageStep ε LabelOutcome).forget.mute.run issue
      = offer [candidate] issue := by
  simp only [TriageStep.forget, TriageStep.mute_bind, TriageStep.run_bind, TriageStep.run_mute,
    run_addLabel, offer, Candidate.isDue, h, Bool.true_and]
  by_cases hassigned : issue.hasLabel candidate.label
  · -- the label is there
    simp [hassigned]
  · cases hconflict : conflict? candidate.label issue.labels with
    | some conflict => simp [hassigned]
    | none =>
      -- one call is left on both sides, which go on alike with its reply
      simp only [hassigned, Bool.not_false, Option.isNone_none, Bool.and_self, if_true, Bool.false_eq_true,
        if_false, Dialogue.mute_ask, Dialogue.mute_note, Dialogue.ask_bind]
      congr 1
      funext reply
      cases reply <;> rfl

/-- Notes aside, to put up a label is to offer it. -/
theorem mute_addLabel (label : Label) :
    (addLabel label : TriageStep ε LabelOutcome).forget.mute = offers [.plain label] := by
  ext issue
  exact mute_addLabel_of_wanted (.plain label) issue rfl

/-- Notes aside, to put up the label of a keyword is to offer it. -/
theorem mute_addHit (hit : KeywordHit) :
    (addHit hit : TriageStep ε LabelOutcome).forget.mute = offers [.plain hit.label] := by
  rw [← mute_addLabel]
  simp only [TriageStep.forget, addHit, TriageStep.mute_bind, TriageStep.mute_write, pure_bind]

/-- Steps that offer one candidate each, one after another, offer all of them. -/
theorem mute_mapM {γ : Type} (f : γ → TriageStep ε α) (toCandidate : γ → Candidate)
    (h : ∀ a, (f a).forget.mute = offers [toCandidate a]) (items : List γ) :
    (items.mapM f).forget.mute = offers (items.map toCandidate) := by
  induction items with
  | nil => rfl
  | cons a rest ih =>
    rw [TriageStep.forget_mapM_cons, TriageStep.mute_bind, h, ih]
    exact (offers_cons _ _).symm

/-- Notes aside, a text offers the candidates of its keywords. -/
theorem mute_addLabelsFromText (table : KeywordTable) (text : String) :
    (addLabelsFromText table text : TriageStep ε (List LabelOutcome)).forget.mute
      = offers (textCandidates table text) :=
  mute_mapM addHit (fun hit => .plain hit.label) mute_addHit _

/-- A line of the template offers its candidates, if what it does with a line offers them where it is
wanted, and they are not due where it is not. -/
theorem mute_withField (field : Template.Field) (body : String) (wanted : Issue → Bool)
    (act : String → TriageStep ε (List LabelOutcome)) (read : String → List Candidate)
    (hwanted : ∀ line issue, wanted issue = true →
      (act line).forget.mute.run issue = offer (read line) issue)
    (hunwanted : ∀ line issue, wanted issue = false →
      (offer (read line) issue : TrackerDialogue ε (Except ε Unit × Issue))
        = .done (.ok (), issue)) :
    (withField field body wanted act).mute = offers (fieldCandidates field body read) := by
  ext issue
  unfold withField fieldCandidates
  cases Template.find? field body with
  | none => rfl
  | some line =>
    simp only [TriageStep.mute_bind, TriageStep.mute_write, pure_bind, TriageStep.mute_known,
      TriageStep.run_bind, TriageStep.run_known, Dialogue.done_bind, TriageStep.onward_ok,
      run_offers]
    -- What a line that is not wanted would offer is not due.
    cases h : wanted issue with
    | true =>
      rw [← hwanted line issue h]
      simp only [if_true, TriageStep.forget, TriageStep.mute_bind, TriageStep.mute_write, pure_bind]
    | false =>
      rw [hunwanted line issue h]
      rfl

/-- A line that is always wanted offers what it puts up. -/
theorem mute_withField_always (field : Template.Field) (body : String)
    (act : String → TriageStep ε (List LabelOutcome)) (read : String → List Candidate)
    (h : ∀ line, (act line).forget.mute = offers (read line)) :
    (withField field body (fun _ => true) act).mute
      = offers (fieldCandidates field body read) :=
  mute_withField field body _ act read
    (fun line issue _ => by rw [h line, run_offers]) (fun _ _ h => absurd h (by simp))

/-- The line on bug fixes offers its label where the kind is still open. -/
theorem mute_withField_bugFix (body : String) :
    (withField .bugFix body wantsKind fun line => [Template.bugFixLabel line].mapM addLabel :
        TriageStep ε Unit).mute
      = offers (fieldCandidates .bugFix body fun line => [⟨Template.bugFixLabel line, true⟩]) := by
  refine mute_withField .bugFix body wantsKind _ _ (fun line issue h => ?_) (fun line issue h => ?_)
  · rw [← mute_addLabel_of_wanted ⟨Template.bugFixLabel line, true⟩ issue (by simp [h])]
    simp only [TriageStep.forget, List.mapM_cons, List.mapM_nil, bind_assoc, pure_bind]
  · simp [offer, Candidate.isDue, h]

/-- Notes aside, a body offers the candidates of its lines. -/
theorem mute_addLabelsFromBody (table : KeywordTable) (body : String) :
    (addLabelsFromBody table body : TriageStep ε Unit).mute
      = offers (bodyCandidates table body) := by
  unfold addLabelsFromBody bodyCandidates
  rw [offers_append, offers_append]
  simp only [TriageStep.mute_bind, TriageStep.mute_write, pure_bind]
  rw [mute_withField_always .os body _ _ (mute_addLabelsFromText table), mute_withField_bugFix,
    mute_withField_always .type body _ (fun line => (Template.typeLabels line).map .plain)
      (fun line => mute_mapM addLabel .plain mute_addLabel _)]

/-- **Labelling is offering.** Notes aside, labelling an opened issue puts up the candidates of its
title and body in turn. -/
theorem mute_labelOpened (table : KeywordTable) (issue : Issue) :
    ((labelOpened table : TriageStep ε Unit).run issue).mute
      = offer (candidates table issue.title issue.bodyText) issue := by
  -- The look at the platform at the end writes a note at most.
  have hafter : ∀ x : TriageStep ε Unit,
      (x >>= fun _ => do
        let last ← TriageStep.known
        if last.hasOsLabel then return ()
        else TriageStep.write (.platformUnknown last.number)).mute = x.mute := by
    intro x
    rw [TriageStep.mute_bind]
    conv_rhs => rw [← bind_pure x.mute]
    congr 1
    funext _
    ext last
    by_cases h : last.hasOsLabel <;> simp [h]
  have hoffers : (labelOpened table : TriageStep ε Unit).mute
      = TriageStep.known >>= fun issue =>
        offers (candidates table issue.title issue.bodyText) := by
    unfold labelOpened
    rw [TriageStep.mute_bind, TriageStep.mute_known]
    congr 1
    funext issue
    -- The outcomes of the title are not looked at.
    rw [← TriageStep.forget_bind, ← bind_assoc, hafter, TriageStep.mute_bind,
      mute_addLabelsFromText, mute_addLabelsFromBody, candidates, offers_append]
  rw [← TriageStep.run_mute, hoffers]
  rfl

end Triage
