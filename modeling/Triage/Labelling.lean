import Triage.Tracker

namespace Triage

/-!
# Labelling

* `LabelOutcome` — what became of a label that was up for an issue.
* `addLabel` — the label policy: no label twice, and none that goes ill with an assigned one.
* `addLabelsFromText`, `addLabelsFromBody` — the labels that a text, or a filled-in template, calls
  for.
* `labelOpened` — the labels that a newly opened issue calls for.
-/

variable {ε : Type}

/-- What became of a label that was up for an issue. -/
inductive LabelOutcome
  | added
  | alreadyPresent
  | conflicting (conflict : Label)
  deriving DecidableEq, Repr

/-- The labels with one of them put at the end if it is not among them. -/
def withLabel (label : Label) (labels : List Label) : List Label :=
  if labels.contains label then labels else labels ++ [label]

/-- Adds a label, unless it is assigned or goes ill with an assigned one. What the tracker answers
counts as assigned from then on, and so does the label. -/
def addLabel (label : Label) : TriageStep ε LabelOutcome := do
  let issue ← TriageStep.known
  if issue.hasLabel label then
    TriageStep.write (.labelPresent label)
    return .alreadyPresent
  else
    match conflict? label issue.labels with
    | some conflict =>
      TriageStep.write (.labelSuppressed label conflict)
      return .conflicting conflict
    | none =>
      TriageStep.write (.labelDue label)
      let labels ← TriageStep.call (.addLabel issue.number label)
      TriageStep.learn { issue with labels := withLabel label labels }
      return .added

/-- The step on a label, with the issue it starts from: one of three courses, of which only the last one
calls the tracker. -/
theorem run_addLabel (label : Label) (issue : Issue) :
    (addLabel label : TriageStep ε LabelOutcome).run issue =
      if issue.hasLabel label then
        .note (.labelPresent label) (.done (.ok .alreadyPresent, issue))
      else match conflict? label issue.labels with
        | some conflict =>
          .note (.labelSuppressed label conflict) (.done (.ok (.conflicting conflict), issue))
        | none => .note (.labelDue label) (.ask (.addLabel issue.number label) fun
          | .error cause => .done (.error cause, issue)
          | .ok labels =>
            .done (.ok .added, { issue with labels := withLabel label labels })) := by
  unfold addLabel
  by_cases h : issue.hasLabel label
  · -- The label is there.
    simp [h]
  · cases hc : conflict? label issue.labels with
    | some conflict => simp [h, hc]
    | none =>
      simp only [TriageStep.run_bind, TriageStep.run_known, Dialogue.done_bind,
        TriageStep.onward_ok, h, hc]
      simp
      funext reply
      cases reply <;> simp

/-- Puts up the label of a keyword that was found. -/
def addHit (hit : KeywordHit) : TriageStep ε LabelOutcome := do
  TriageStep.write (.keywordMatched hit)
  addLabel hit.label

/-- Puts up the label of every keyword that the text mentions. -/
def addLabelsFromText (table : KeywordTable) (text : String) : TriageStep ε (List LabelOutcome) :=
  (table.classify text).mapM addHit

/-- Looks for a line of the template, and goes on with it if it is there and wanted. -/
def withField (field : Template.Field) (body : String) (wanted : Issue → Bool)
    (act : String → TriageStep ε (List LabelOutcome)) : TriageStep ε Unit := do
  TriageStep.write (.fieldSearch field)
  match Template.find? field body with
  | none => TriageStep.write .fieldMissing
  | some line =>
    let issue ← TriageStep.known
    if wanted issue then
      TriageStep.write .fieldFound
      let _ ← act line
      return ()
    else TriageStep.write .fieldMissing

/-- The kind of change is still open: it is a pull request, neither a bug nor an enhancement so
far. -/
def wantsKind (issue : Issue) : Bool :=
  issue.isPullRequest && !issue.hasLabel "bug" && !issue.hasLabel "enhancement"

/-- Puts up the labels that the lines of the template call for. -/
def addLabelsFromBody (table : KeywordTable) (body : String) : TriageStep ε Unit := do
  TriageStep.write .bodySearch
  withField .os body (fun _ => true) fun line => addLabelsFromText table line
  withField .bugFix body wantsKind fun line => [Template.bugFixLabel line].mapM addLabel
  withField .type body (fun _ => true) fun line => (Template.typeLabels line).mapM addLabel

/-- Labels a newly opened issue or pull request by its title and its body. -/
def labelOpened (table : KeywordTable) : TriageStep ε Unit := do
  let issue ← TriageStep.known
  let _ ← addLabelsFromText table issue.title
  addLabelsFromBody table issue.bodyText
  let issue ← TriageStep.known
  if issue.hasOsLabel then return ()
  else TriageStep.write (.platformUnknown issue.number)

end Triage
