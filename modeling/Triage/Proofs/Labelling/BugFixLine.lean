import Triage.Proofs.Labelling.Passes
import Triage.Proofs.Run.Memory
import Mathlib.Data.List.Infix

namespace Triage

/-!
# The line on bug fixes

Three lines of a body put up labels, one after another. The second one settles whether a pull request is
a bug or an enhancement, exactly if nothing has settled that before.

* `osPart`, `bugFixPart`, `typePart` — the three lines; `run_addLabelsFromBody` — a body in its parts.
* `run_offers_inMemory` — what offering candidates comes to at the tracker that holds the issue.
* `plan_bugFixCandidates` — what the second line adds to a pull request.
* `SettlesKindBy`, `addLabelsFromBody_settlesKind` — the kind of a pull request after its body.
-/

/-! ### The parts of a body -/

section Parts

variable {ε : Type} (table : KeywordTable) (body : String)

/-- The line on the platform puts up the labels of its keywords. -/
def osPart : TriageStep ε Unit :=
  withField .os body (fun _ => true) fun line => addLabelsFromText table line

/-- The line on bug fixes puts up its label where the kind of change is still open. -/
def bugFixPart : TriageStep ε Unit :=
  withField .bugFix body wantsKind fun line => [Template.bugFixLabel line].mapM addLabel

/-- The line on the type puts up the labels that it names. -/
def typePart : TriageStep ε Unit :=
  withField .type body (fun _ => true) fun line => (Template.typeLabels line).mapM addLabel

/-- The parts of a body follow each other. -/
theorem addLabelsFromBody_eq :
    (addLabelsFromBody table body : TriageStep ε Unit)
      = TriageStep.write .bodySearch >>= fun _ =>
          osPart table body >>= fun _ => bugFixPart body >>= fun _ => typePart body := rfl

/-- The candidates of the line on the platform. -/
def osCandidates : List Candidate := fieldCandidates .os body (textCandidates table)

/-- The candidate of the line on bug fixes. -/
def bugFixCandidates : List Candidate :=
  fieldCandidates .bugFix body fun line => [⟨Template.bugFixLabel line, true⟩]

/-- The candidates of the line on the type. -/
def typeCandidates : List Candidate :=
  fieldCandidates .type body fun line => (Template.typeLabels line).map .plain

/-- Notes aside, the line on the platform offers its candidates. -/
theorem mute_osPart : (osPart table body : TriageStep ε Unit).mute = offers (osCandidates table body) :=
  mute_withField_always .os body _ _ (mute_addLabelsFromText table)

/-- Notes aside, the line on bug fixes offers its candidate. -/
theorem mute_bugFixPart : (bugFixPart body : TriageStep ε Unit).mute = offers (bugFixCandidates body) :=
  mute_withField_bugFix body

/-- Notes aside, the line on the type offers its candidates. -/
theorem mute_typePart : (typePart body : TriageStep ε Unit).mute = offers (typeCandidates body) :=
  mute_withField_always .type body _ _ fun line =>
    mute_mapM addLabel .plain mute_addLabel (Template.typeLabels line)

end Parts

/-! ### Parts at the tracker that holds the issue -/

/-- The labels of these exchanges are the ones posted. -/
theorem postedLabels_labelExchanges {ε : Type} (issue : Issue) (labels : List Label) :
    postedLabels (labelExchanges issue labels : List (Exchange TrackerCall (TrackerReply ε)))
      = labels := by
  induction labels generalizing issue with
  | nil => rfl
  | cons label rest ih => exact congrArg (label :: ·) (ih (issue.assign [label]))

/-- **A step that offers candidates carries out their plan**, at the tracker that holds the issue. -/
theorem run_offers_inMemory {x : TriageStep MemoryError Unit} {cs : List Candidate}
    (h : x.mute = offers cs) (issue : Issue) :
    let run := (x.run issue).run MemoryTracker.answer ⟨issue, [], []⟩
    run.value = (.ok (), issue.assign (plan cs issue)) ∧
      run.state = ⟨issue.assign (plan cs issue), [], []⟩ ∧
      postedLabels run.exchanges = plan cs issue := by
  intro run
  -- Notes aside the step is the offer of its candidates, and what leads one to an end leads the other.
  have hmute : (x.run issue).mute = offer cs issue := by
    rw [← TriageStep.run_mute, h, run_offers]
  have hleads : (x.run issue).Leads (labelExchanges issue (plan cs issue))
      (.ok (), issue.assign (plan cs issue)) := by
    rw [← Dialogue.leads_mute, hmute]
    exact leads_offer cs issue
  have hfollows := follows_labelExchanges issue (nodup_plan cs issue) fun _ =>
    not_mem_labels_of_mem_plan
  obtain ⟨hvalue, hstate, hexchanges⟩ := hleads.run hfollows
  exact ⟨hvalue, hstate, hexchanges ▸ postedLabels_labelExchanges issue _⟩

/-- Every label of a plan is that of one of the candidates. -/
theorem exists_candidate_of_mem_plan {cs : List Candidate} {issue : Issue} {label : Label}
    (h : label ∈ plan cs issue) : ∃ candidate ∈ cs, candidate.label = label := by
  induction cs generalizing issue with
  | nil => simp [plan] at h
  | cons candidate rest ih =>
    unfold plan at h
    split at h
    · rcases List.mem_cons.1 h with rfl | h
      · exact ⟨candidate, List.mem_cons_self, rfl⟩
      · obtain ⟨other, hother, hlabel⟩ := ih h
        exact ⟨other, List.mem_cons_of_mem _ hother, hlabel⟩
    · obtain ⟨other, hother, hlabel⟩ := ih h
      exact ⟨other, List.mem_cons_of_mem _ hother, hlabel⟩

/-- A step that succeeds hands on to the next one. -/
theorem TriageStep.run_bind_of_ok {ε σ α β : Type}
    {tracker : Answerer TrackerCall (TrackerReply ε) σ} {x : TriageStep ε α} (f : α → TriageStep ε β)
    {issue : Issue} {value : α} {state : σ}
    (h : ((x.run issue).run tracker state).value.1 = .ok value) :
    let first := (x.run issue).run tracker state
    let second := ((f value).run first.value.2).run tracker first.state
    ((x >>= f).run issue).run tracker state
      = ⟨second.value, second.state, first.said ++ second.said⟩ := by
  rw [TriageStep.run_bind, Dialogue.run_bind]
  generalize (x.run issue).run tracker state = first at h ⊢
  obtain ⟨⟨result, last⟩, next, said⟩ := first
  obtain rfl : result = .ok value := h
  rfl

/-- A body comes to what its three parts come to, each of which finds the issue as the one before leaves
it. -/
theorem run_addLabelsFromBody (table : KeywordTable) (body : String) (issue : Issue) :
    let os := ((osPart table body).run issue).run MemoryTracker.answer ⟨issue, [], []⟩
    let fix := ((bugFixPart body).run os.value.2).run MemoryTracker.answer os.state
    let type := ((typePart body).run fix.value.2).run MemoryTracker.answer fix.state
    ((addLabelsFromBody table body).run issue).run MemoryTracker.answer ⟨issue, [], []⟩
      = ⟨type.value, type.state, .note .bodySearch :: (os.said ++ (fix.said ++ type.said))⟩ := by
  intro os fix type
  obtain ⟨hos, hosState, -⟩ := run_offers_inMemory (mute_osPart table body) issue
  obtain ⟨hfix, -, -⟩ := run_offers_inMemory (mute_bugFixPart body)
    (issue.assign (plan (osCandidates table body) issue))
  -- No part fails at this tracker, so each hands on to the next.
  have hosOk : os.value.1 = .ok () := congrArg (·.1) hos
  have hfixOk : fix.value.1 = .ok () := by
    simp only [fix, os, hos, hosState, hfix]
  have hrun : (addLabelsFromBody table body : TriageStep MemoryError Unit).run issue
      = .note .bodySearch
          ((osPart table body >>= fun _ => bugFixPart body >>= fun _ => typePart body).run issue) := by
    rw [addLabelsFromBody_eq]
    rfl
  rw [hrun, Dialogue.run_note, TriageStep.run_bind_of_ok _ hosOk, TriageStep.run_bind_of_ok _ hfixOk]
  rfl

/-- What the parts of a body leave and post, each from the issue as the one before leaves it. -/
theorem run_bodyParts (table : KeywordTable) (body : String) (issue : Issue) :
    let os := ((osPart table body).run issue).run MemoryTracker.answer ⟨issue, [], []⟩
    let fix := ((bugFixPart body).run os.value.2).run MemoryTracker.answer os.state
    let type := ((typePart body).run fix.value.2).run MemoryTracker.answer fix.state
    let second := issue.assign (plan (osCandidates table body) issue)
    let third := second.assign (plan (bugFixCandidates body) second)
    let last := third.assign (plan (typeCandidates body) third)
    os.value = (.ok (), second) ∧ postedLabels os.exchanges = plan (osCandidates table body) issue ∧
      fix = ((bugFixPart body).run second).run MemoryTracker.answer ⟨second, [], []⟩ ∧
      postedLabels fix.exchanges = plan (bugFixCandidates body) second ∧
      type.value = (.ok (), last) ∧ type.state = ⟨last, [], []⟩ ∧
      postedLabels type.exchanges = plan (typeCandidates body) third := by
  intro os fix type second third last
  obtain ⟨hos, hosState, hosPosted⟩ := run_offers_inMemory (mute_osPart table body) issue
  -- Each part starts from the issue and the tracker as they are left by then.
  have hfixRun : fix = ((bugFixPart body).run second).run MemoryTracker.answer ⟨second, [], []⟩ := by
    simp only [fix, os, hos, hosState, second]
  obtain ⟨hfix, hfixState, hfixPosted⟩ := run_offers_inMemory (mute_bugFixPart body) second
  rw [← hfixRun] at hfix hfixState hfixPosted
  have htypeRun : type = ((typePart body).run third).run MemoryTracker.answer ⟨third, [], []⟩ := by
    simp only [type, hfix, hfixState, third]
  obtain ⟨htype, htypeState, htypePosted⟩ := run_offers_inMemory (mute_typePart body) third
  rw [← htypeRun] at htype htypeState htypePosted
  exact ⟨hos, hosPosted, hfixRun, hfixPosted, htype, htypeState, htypePosted⟩

/-! ### The kind of a pull request -/

/-- The label of the line depends on whether it says yes. -/
theorem bugFixLabel_eq (line : String) :
    Template.bugFixLabel line
      = if "yes".toList <:+: Text.lower line.toList then "bug" else "enhancement" := by
  simp only [Template.bugFixLabel, Template.tells, Text.occurs_iff]

/-- Where neither of the two labels is known, the one of the line is admitted. -/
theorem admits_bugFixLabel {known : List Label} (hbug : "bug" ∉ known)
    (henhancement : "enhancement" ∉ known) (line : String) :
    Admits known (Template.bugFixLabel line) := by
  rw [bugFixLabel_eq]
  split
  · -- `bug` goes ill with `enhancement` alone
    have hpairs : ∀ pair ∈ illogicalPairs, pair.1 = "bug" → pair.2 = "enhancement" := by decide
    exact ⟨hbug, fun pair hpair hleft => hpairs pair hpair hleft ▸ henhancement⟩
  · -- and `enhancement` with nothing
    have hpairs : ∀ pair ∈ illogicalPairs, pair.1 ≠ "enhancement" := by decide
    exact ⟨henhancement, fun pair hpair hleft => absurd hleft (hpairs pair hpair)⟩

section Request

variable {body line : String} {issue : Issue} (hrequest : issue.isPullRequest = true)
  (hline : Template.find? .bugFix body = some line)
include hrequest hline

/-- **What the line adds to a pull request**: its label, if neither of the two is assigned. -/
theorem plan_bugFixCandidates :
    plan (bugFixCandidates body) issue
      = if "bug" ∈ issue.labels ∨ "enhancement" ∈ issue.labels then []
        else [if "yes".toList <:+: Text.lower line.toList then "bug" else "enhancement"] := by
  rw [bugFixCandidates, plan_bugFix, fieldLabels, hline, ← bugFixLabel_eq]
  -- Either the line is not asked, or it is and nothing speaks against its label.
  by_cases hsettled : "bug" ∈ issue.labels ∨ "enhancement" ∈ issue.labels
  · rw [if_pos hsettled, if_neg (by tauto)]
    rfl
  · obtain ⟨hbug, henhancement⟩ := not_or.1 hsettled
    rw [if_neg hsettled, if_pos ⟨hrequest, hbug, henhancement⟩]
    exact if_pos (admits_bugFixLabel hbug henhancement line)

/-- **The label of the line is never suppressed**: where it is put up, nothing speaks against it. -/
theorem not_suppressed_bugFixPart (label conflict : Label) :
    .labelSuppressed label conflict
      ∉ (((bugFixPart body).run issue).run MemoryTracker.answer ⟨issue, [], []⟩).notes := by
  by_cases hsettled : "bug" ∈ issue.labels ∨ "enhancement" ∈ issue.labels
  · have hwants : wantsKind issue = false := by
      simp only [wantsKind, Issue.hasLabel, List.contains_eq_mem]
      rcases hsettled with h | h <;> simp [h]
    -- The line counts as missing, and nothing is put up.
    have hrun : (bugFixPart body : TriageStep MemoryError Unit).run issue
        = .note (.fieldSearch .bugFix) (.note .fieldMissing (.done (.ok (), issue))) := by
      simp [bugFixPart, withField, hline, hwants]
    simp [hrun, Outcome.notes, Spoken.note?]
  · obtain ⟨hbug, henhancement⟩ := not_or.1 hsettled
    have hwants : wantsKind issue = true := by
      simp [wantsKind, Issue.hasLabel, hrequest, hbug, henhancement]
    obtain ⟨hnew, hconflict⟩ := admits_iff.1 (admits_bugFixLabel hbug henhancement line)
    have hunfailing : Fault.label (Template.bugFixLabel line) ∉ ([] : List Fault) := List.not_mem_nil
    have hanswer := answer_addLabel_new hunfailing hnew issue.number
    simp [bugFixPart, withField, hline, hwants, run_addLabel, Issue.hasLabel, hnew, hconflict, hanswer,
      Outcome.notes, Spoken.note?]

end Request

/-! ### The body of a pull request -/

/-- The keywords found in the line on the platform. -/
def osHits (table : KeywordTable) (body : String) : List KeywordHit :=
  match Template.find? .os body with
  | none => []
  | some line => table.classify line

/-- The candidates of the line on the platform are those of its hits. -/
theorem osCandidates_eq (table : KeywordTable) (body : String) :
    osCandidates table body = (osHits table body).map fun hit => .plain hit.label := by
  unfold osCandidates osHits fieldCandidates
  cases Template.find? .os body <;> rfl

/-- Every label that the line on the platform puts up is that of a keyword in it. -/
theorem exists_osHit_of_mem_plan {table : KeywordTable} {body : String} {issue : Issue}
    {label : Label} (h : label ∈ plan (osCandidates table body) issue) :
    ∃ hit ∈ osHits table body, hit.label = label := by
  obtain ⟨candidate, hcandidate, rfl⟩ := exists_candidate_of_mem_plan h
  rw [osCandidates_eq] at hcandidate
  obtain ⟨hit, hhit, rfl⟩ := List.mem_map.1 hcandidate
  exact ⟨hit, hhit, rfl⟩

/-- A label that no keyword in the line on the platform stands for is not put up by that line. -/
theorem not_mem_labels_assign_osCandidates {table : KeywordTable} {body : String} {issue : Issue}
    {label : Label} (hfirst : label ∉ issue.labels) (hhits : ∀ hit ∈ osHits table body, hit.label ≠ label) :
    label ∉ (issue.assign (plan (osCandidates table body) issue)).labels := by
  intro h
  rcases List.mem_append.1 h with h | h
  · exact hfirst h
  · obtain ⟨hit, hhit, hlabel⟩ := exists_osHit_of_mem_plan h
    exact hhits hit hhit hlabel

/-- The line on the type never names the kind of a pull request. -/
theorem ne_of_mem_plan_typeCandidates {body : String} {issue : Issue} {label : Label}
    (h : label ∈ plan (typeCandidates body) issue) : label ≠ "bug" ∧ label ≠ "enhancement" := by
  have hnames : ∀ label ∈ Template.typeNames, label ≠ "bug" ∧ label ≠ "enhancement" := by decide
  obtain ⟨candidate, hcandidate, rfl⟩ := exists_candidate_of_mem_plan h
  unfold typeCandidates fieldCandidates at hcandidate
  cases hline : Template.find? .type body with
  | none => simp [hline] at hcandidate
  | some line =>
    rw [hline] at hcandidate
    obtain ⟨label, hlabel, rfl⟩ := List.mem_map.1 hcandidate
    exact hnames label (List.mem_filter.1 hlabel).1

/-- So it leaves open which of the two kinds an issue is. -/
theorem mem_labels_assign_typeCandidates {body : String} (issue : Issue) {label : Label}
    (hkind : label = "bug" ∨ label = "enhancement") :
    label ∈ (issue.assign (plan (typeCandidates body) issue)).labels ↔ label ∈ issue.labels := by
  have htypes : label ∉ plan (typeCandidates body) issue := fun h => by
    obtain ⟨hbug, henhancement⟩ := ne_of_mem_plan_typeCandidates h
    exact hkind.elim hbug henhancement
  simp only [Issue.assign, List.mem_append, htypes, or_false]

/-- The line on bug fixes adds nothing to what is no pull request. -/
theorem plan_bugFixCandidates_of_issue {body : String} {issue : Issue}
    (h : issue.isPullRequest = false) : plan (bugFixCandidates body) issue = [] := by
  rw [bugFixCandidates, plan_bugFix, h, if_neg (by simp)]
  rfl

/-- The line on bug fixes settles the kind of a pull request. In the end it is a bug or an enhancement;
the label of the line is posted exactly if neither was `known`; and no label is suppressed on the way. -/
structure SettlesKindBy (line : String) (known final : List Label)
    (fix : Outcome Note TrackerCall (TrackerReply MemoryError) MemoryTracker (Except MemoryError Unit × Issue)) :
    Prop where
  settled : "bug" ∈ final ∨ "enhancement" ∈ final
  posted : postedLabels fix.exchanges =
    if "bug" ∈ known ∨ "enhancement" ∈ known then []
    else [if "yes".toList <:+: Text.lower line.toList then "bug" else "enhancement"]
  unsuppressed : ∀ label conflict, .labelSuppressed label conflict ∉ fix.notes

/-- **The line on bug fixes settles the kind where nothing else has.** A body is read on an issue at the
tracker that holds it, which comes to the line on the platform, the one on bug fixes and the one on the
type. A pull request whose body has the line on bug fixes is a bug or an enhancement in the end. That line
has posted the label that it calls for, without any suppression, exactly if the pull request was neither
after the line on the platform. Where the start and that line have neither, it is just one of them in
the end. What is no pull request gets neither, other than by a keyword in the line on the platform. -/
theorem addLabelsFromBody_settlesKind (table : KeywordTable) (body : String) (issue : Issue) :
    let os := ((osPart table body).run issue).run MemoryTracker.answer ⟨issue, [], []⟩
    let fix := ((bugFixPart body).run os.value.2).run MemoryTracker.answer os.state
    let type := ((typePart body).run fix.value.2).run MemoryTracker.answer fix.state
    let run := ((addLabelsFromBody table body).run issue).run MemoryTracker.answer ⟨issue, [], []⟩
    let final := run.value.2.labels
    run.value.1 = .ok () ∧ run.state.issue.labels = final ∧
      run.exchanges = os.exchanges ++ (fix.exchanges ++ type.exchanges) ∧
      (issue.isPullRequest = true → ∀ line, Template.find? .bugFix body = some line →
        SettlesKindBy line os.value.2.labels final fix ∧
          ("bug" ∉ issue.labels → "enhancement" ∉ issue.labels →
            (∀ hit ∈ osHits table body, hit.label ≠ "bug" ∧ hit.label ≠ "enhancement") →
            ("bug" ∈ final ↔ "enhancement" ∉ final))) ∧
      (issue.isPullRequest = false → ∀ label ∈ postedLabels run.exchanges,
        label = "bug" ∨ label = "enhancement" →
        label ∈ postedLabels os.exchanges ∧ ∃ hit ∈ osHits table body, hit.label = label) := by
  intro os fix type run final
  let second := issue.assign (plan (osCandidates table body) issue)
  let third := second.assign (plan (bugFixCandidates body) second)
  obtain ⟨hos, hosPosted, hfixRun, hfixPosted, htype, htypeState, htypePosted⟩ :=
    run_bodyParts table body issue
  change fix = _ at hfixRun
  have hrun : run = ⟨type.value, type.state, .note .bodySearch :: (os.said ++ (fix.said ++ type.said))⟩ :=
    run_addLabelsFromBody table body issue
  have hexchanges : run.exchanges = os.exchanges ++ (fix.exchanges ++ type.exchanges) := by
    simp only [hrun, Outcome.exchanges, List.filterMap_cons, Spoken.exchange?, List.filterMap_append]
  have hfinal : final = (third.assign (plan (typeCandidates body) third)).labels := by
    simp only [final, hrun]
    rw [htype]
  -- Of the two kinds, the third line adds none, so the first two decide.
  have hmem : ∀ label, label = "bug" ∨ label = "enhancement" →
      (label ∈ final ↔ label ∈ second.labels ∨ label ∈ plan (bugFixCandidates body) second) := by
    intro label hkind
    rw [hfinal, mem_labels_assign_typeCandidates third hkind]
    exact List.mem_append
  refine ⟨by rw [hrun, htype], by rw [hrun, htypeState, hfinal], hexchanges, ?_, ?_⟩
  · intro hrequest line hline
    have hsecond : second.isPullRequest = true := hrequest
    have hadds := plan_bugFixCandidates hsecond hline
    have hknown : os.value.2.labels = second.labels := congrArg (·.2.labels) hos
    refine ⟨⟨?_, by rw [hfixPosted, hknown, hadds], ?_⟩, ?_⟩
    · rw [hmem "bug" (.inl rfl), hmem "enhancement" (.inr rfl), hadds]
      by_cases hsettled : "bug" ∈ second.labels ∨ "enhancement" ∈ second.labels
      · tauto
      · rw [if_neg hsettled]
        split <;> simp
    · rw [hfixRun]
      exact not_suppressed_bugFixPart hrequest hline
    · intro hbug henhancement hhits
      have hbug : "bug" ∉ second.labels :=
        not_mem_labels_assign_osCandidates hbug fun hit h => (hhits hit h).1
      have henhancement : "enhancement" ∉ second.labels :=
        not_mem_labels_assign_osCandidates henhancement fun hit h => (hhits hit h).2
      rw [hmem "bug" (.inl rfl), hmem "enhancement" (.inr rfl), hadds,
        if_neg (not_or.2 ⟨hbug, henhancement⟩)]
      split <;> simp [hbug, henhancement]
  · intro hissue label hposted hkind
    have hsecond : second.isPullRequest = false := hissue
    rw [hexchanges, postedLabels_append, postedLabels_append, hfixPosted, htypePosted,
      plan_bugFixCandidates_of_issue hsecond, List.nil_append] at hposted
    -- The second line adds nothing here, and the third one neither of the two.
    rcases List.mem_append.1 hposted with h | h
    · exact ⟨h, exists_osHit_of_mem_plan (hosPosted ▸ h)⟩
    · obtain ⟨hbug, henhancement⟩ := ne_of_mem_plan_typeCandidates h
      exact absurd hkind (not_or.2 ⟨hbug, henhancement⟩)

/-- A body with its three lines filled in. -/
def filledBody : String := "* OS: crash on Linux\n* Bug fix: YES\n* Type: tests\n"

/-- A pull request that nothing has been said about. -/
def openRequest : Issue := { headersReport with pullRequest := some (.object []) }

/-- The word in the line on the platform makes it a bug, so that the line on bug fixes posts nothing. With
a table that has no keyword for that it would be the one to post it. -/
theorem addLabelsFromBody_settlesKind_of_filledBody :
    let run := fun table => ((addLabelsFromBody table filledBody).run openRequest).run
      MemoryTracker.answer ⟨openRequest, [], []⟩
    let platforms : KeywordTable := ⟨[⟨"linux", ["linux"]⟩]⟩
    openRequest.isPullRequest = true ∧
      Template.find? .bugFix filledBody = some "* Bug fix: YES\n" ∧
      ("bug" ∈ (run platforms).value.2.labels ↔ "enhancement" ∉ (run platforms).value.2.labels) ∧
      postedLabels (run platforms).exchanges = ["linux", "bug", "tests"] ∧
      postedLabels (run .builtin).exchanges = ["linux", "bug", "tests"] := by
  intro run platforms
  have hrequest : openRequest.isPullRequest = true := rfl
  have hline : Template.find? .bugFix filledBody = some "* Bug fix: YES\n" := by decide +kernel
  obtain ⟨-, -, -, hkind, -⟩ := addLabelsFromBody_settlesKind platforms filledBody openRequest
  obtain ⟨-, hone⟩ := hkind hrequest _ hline
  have hhits : ∀ hit ∈ osHits platforms filledBody,
      hit.label ≠ "bug" ∧ hit.label ≠ "enhancement" := by decide +kernel
  exact ⟨hrequest, hline, hone (by decide) (by decide) hhits, by decide +kernel, by decide +kernel⟩

end Triage
