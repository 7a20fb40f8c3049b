import Triage.Answering
import Triage.Proofs.Labelling.Admission

namespace Triage

/-!
# Decisions of the label policy

What the policy did with each label that was put up can be read off what was said, notes included,
whoever answers and whatever is answered.

* `Spoken.teach`, `knownAfter` — the labels last known, by the calls that were answered.
* `Decision`, `decisions` — each label that was put up, with the labels known then and what became of
  it.
* `Decision.IsSound` — what became of it is what the policy says.
* `TriageStep.Settles` — a step that decides soundly on candidates in turn, and reports it;
  `Settles.bind` puts two together.
-/

variable {ε α β γ σ : Type}

/-- What is said to a tracker and noted on the way. -/
abbrev TrackerSpoken (ε : Type) := Spoken Note TrackerCall (TrackerReply ε)

/-! ### Known labels -/

/-- The labels known once this was said: those of a fetched issue, or those answered to a call for a
label, with that label at the end if the answer lacks it. -/
def Spoken.teach (known : List Label) : TrackerSpoken ε → List Label
  | .asked (.fetch _) (.ok issue) => issue.labels
  | .asked (.addLabel _ label) (.ok labels) => if label ∈ labels then labels else labels ++ [label]
  | _ => known

/-- The labels last known. -/
def knownAfter (known : List Label) (said : List (TrackerSpoken ε)) : List Label :=
  said.foldl Spoken.teach known

/-- What is said later teaches on from what is known by then. -/
theorem knownAfter_append (known : List Label) (first second : List (TrackerSpoken ε)) :
    knownAfter known (first ++ second) = knownAfter (knownAfter known first) second :=
  List.foldl_append

/-- The labels of an answer count with the new one at the end, if they lack it. -/
theorem withLabel_eq (label : Label) (labels : List Label) :
    withLabel label labels = if label ∈ labels then labels else labels ++ [label] := by
  simp [withLabel]

/-! ### Decisions -/

/-- What became of a label that was put up. -/
inductive Ruling (ε : Type)
  | asked (reply : Except ε (List Label))
  | present
  | conflicting (conflict : Label)

/-- The outcome that a ruling is reported as, unless the call for the label failed. -/
def Ruling.outcome? : Ruling ε → Option LabelOutcome
  | .asked (.ok _) => some .added
  | .asked (.error _) => none
  | .present => some .alreadyPresent
  | .conflicting conflict => some (.conflicting conflict)

/-- A label that was put up, the labels known then, and what became of it. -/
structure Decision (ε : Type) where
  label : Label
  known : List Label
  ruling : Ruling ε

/-- The decision that was taken here, if one was: the tracker was asked, or it was noted why not. -/
def Spoken.decision? (known : List Label) : TrackerSpoken ε → Option (Decision ε)
  | .note (.labelPresent label) => some ⟨label, known, .present⟩
  | .note (.labelSuppressed label conflict) => some ⟨label, known, .conflicting conflict⟩
  | .asked (.addLabel _ label) reply => some ⟨label, known, .asked reply⟩
  | _ => none

/-- The decisions that were taken, in order. -/
def decisions (known : List Label) : List (TrackerSpoken ε) → List (Decision ε)
  | [] => []
  | spoken :: rest => (spoken.decision? known).toList ++ decisions (spoken.teach known) rest

/-- Later decisions are taken with the labels that are known by then. -/
theorem decisions_append (known : List Label) (first second : List (TrackerSpoken ε)) :
    decisions known (first ++ second)
      = decisions known first ++ decisions (knownAfter known first) second := by
  induction first generalizing known with
  | nil => rfl
  | cons spoken rest ih =>
    -- What is said first teaches before the rest is looked at.
    rw [List.cons_append, decisions, decisions, ih, List.append_assoc]
    rfl

/-- The policy was kept: the tracker was asked exactly for a label that the known ones admit, a label
was found present exactly if it was known, and else the first conflict was named. -/
structure Decision.IsSound (decision : Decision ε) : Prop where
  asked : (∃ reply, decision.ruling = .asked reply) ↔ Admits decision.known decision.label
  present : decision.ruling = .present ↔ decision.label ∈ decision.known
  conflicting : ∀ conflict, decision.ruling = .conflicting conflict ↔
    decision.label ∉ decision.known ∧ IsFirstConflict decision.known decision.label conflict

section Sound

variable {known : List Label} {label conflict : Label}

/-- To find a label present that is known is sound. -/
theorem isSound_present (h : label ∈ known) :
    (⟨label, known, .present⟩ : Decision ε).IsSound where
  asked := by simp [Admits, h]
  present := by simp [h]
  conflicting := by simp [h]

/-- To name the conflict that is found is sound, for a label that is new. -/
theorem isSound_conflicting (hnew : label ∉ known) (h : conflict? label known = some conflict) :
    (⟨label, known, .conflicting conflict⟩ : Decision ε).IsSound where
  asked := by simp [admits_iff, h]
  present := by simp [hnew]
  conflicting := by simp [hnew, ← conflict?_eq_some_iff, h]

/-- To ask for a label that is admitted is sound, whatever comes of it. -/
theorem isSound_asked (h : Admits known label) (reply : Except ε (List Label)) :
    (⟨label, known, .asked reply⟩ : Decision ε).IsSound where
  asked := by simp [h]
  present := by simp [h.1]
  conflicting := by simp [← conflict?_eq_some_iff, (admits_iff.1 h).2]

end Sound

/-! ### Steps that decide -/

/-- These are the labels of some of the candidates in turn: of all that are always wanted, and maybe
of others. -/
def Takes (cs : List Candidate) (labels : List Label) : Prop :=
  ∃ taken : List Candidate, taken.Sublist cs ∧ (cs.filter (!·.settlesKind)).Sublist taken ∧
    labels = taken.map (·.label)

/-- All of them may be taken. -/
theorem Takes.all (cs : List Candidate) : Takes cs (cs.map (·.label)) :=
  ⟨cs, List.Sublist.refl cs, List.filter_sublist, rfl⟩

/-- Labels of some candidates and then of others are labels of both. -/
theorem Takes.append {cs ds : List Candidate} {first second : List Label} (hfirst : Takes cs first)
    (hsecond : Takes ds second) : Takes (cs ++ ds) (first ++ second) := by
  obtain ⟨taken, hsub, hplain, rfl⟩ := hfirst
  obtain ⟨more, hsub', hplain', rfl⟩ := hsecond
  refine ⟨taken ++ more, hsub.append hsub', ?_, (List.map_append ..).symm⟩
  rw [List.filter_append]
  exact hplain.append hplain'

/-- The decisions are about these labels in turn. Without a failure they are about all of them, and
what is reported stands for their outcomes; a call for a label that failed is what failed the step. -/
def Reported (labels : List Label) (made : List (Decision ε))
    (stands : α → List LabelOutcome → Prop) : Except ε α → Prop
  | .ok value => made.map (·.label) = labels ∧
      ∃ outcomes, stands value outcomes ∧ made.map (·.ruling.outcome?) = outcomes.map some
  | .error cause => made.map (·.label) <+: labels ∧
      ∀ decision ∈ made, decision.ruling.outcome? = none → decision.ruling = .asked (.error cause)

section Reported

variable {labels more : List Label} {made later : List (Decision ε)}
  {stands : α → List LabelOutcome → Prop} {stands' : β → List LabelOutcome → Prop}

/-- No call has failed where a value is reported. -/
theorem Reported.outcome?_ne_none {value : α} (h : Reported labels made stands (.ok value)) :
    ∀ decision ∈ made, decision.ruling.outcome? ≠ none := by
  obtain ⟨-, outcomes, -, houtcomes⟩ := h
  intro decision hmem hnone
  have hsome : decision.ruling.outcome? ∈ outcomes.map some :=
    houtcomes ▸ List.mem_map_of_mem hmem
  obtain ⟨outcome, -, heq⟩ := List.mem_map.1 hsome
  rw [hnone] at heq
  exact Option.some_ne_none outcome heq

/-- A failure is reported, whatever else would have been put up. -/
theorem Reported.of_error {cause : ε} (h : Reported labels made stands (.error cause)) :
    Reported (labels ++ more) made stands' (.error cause) :=
  ⟨h.1.trans (List.prefix_append labels more), h.2⟩

/-- Where a value is reported, the decisions after it follow on. -/
theorem Reported.append {value : α} {result : Except ε β} {stands'' : β → List LabelOutcome → Prop}
    (h : Reported labels made stands (.ok value)) (hlater : Reported more later stands' result)
    (hstands : ∀ other first second, stands value first → stands' other second →
      stands'' other (first ++ second)) :
    Reported (labels ++ more) (made ++ later) stands'' result := by
  have hanswered := h.outcome?_ne_none
  obtain ⟨hlabels, outcomes, hvalue, houtcomes⟩ := h
  cases result with
  | ok other =>
    obtain ⟨hlabels', outcomes', hother, houtcomes'⟩ := hlater
    refine ⟨by rw [List.map_append, hlabels, hlabels'], outcomes ++ outcomes',
      hstands other outcomes outcomes' hvalue hother, ?_⟩
    rw [List.map_append, List.map_append, houtcomes, houtcomes']
  | error cause =>
    obtain ⟨hlabels', hcause⟩ := hlater
    refine ⟨?_, List.forall_mem_append.2 ⟨fun decision hmem hnone => ?_, hcause⟩⟩
    · rw [List.map_append, hlabels]
      exact (List.prefix_append_right_inj labels).2 hlabels'
    · exact absurd hnone (hanswered decision hmem)

end Reported

/-- What a step on candidates of an issue comes to, by what was said in it. -/
structure Settled (issue : Issue) (cs : List Candidate) (stands : α → List LabelOutcome → Prop)
    (said : List (TrackerSpoken ε)) (result : Except ε α × Issue) : Prop where
  /-- Each decision is the one of the policy. -/
  sound : ∀ decision ∈ decisions issue.labels said, decision.IsSound
  /-- The labels that the issue has then are those last known. -/
  learned : result.2.labels = knownAfter issue.labels said
  /-- A call that failed has left the labels as they were before it. -/
  unchanged : ∀ decision ∈ decisions issue.labels said, ∀ cause,
    decision.ruling = .asked (.error cause) → result.2.labels = decision.known
  /-- All candidates that are always wanted were decided on, up to a failure, and this is reported. -/
  reported : ∃ labels, Takes cs labels ∧
    Reported labels (decisions issue.labels said) stands result.1

namespace Settled

variable {issue last : Issue} {cs ds : List Candidate} {said later : List (TrackerSpoken ε)}
  {stands : α → List LabelOutcome → Prop} {stands' stands'' : β → List LabelOutcome → Prop}

/-- Without decisions, a step whose labels are those last known settles nothing. -/
theorem of_quiet {result : Except ε α × Issue} (hnone : decisions issue.labels said = [])
    (hlearned : result.2.labels = knownAfter issue.labels said)
    (hstands : ∀ value, result.1 = .ok value → stands value []) :
    Settled issue [] stands said result := by
  refine ⟨by simp [hnone], hlearned, by simp [hnone], [], .all [], ?_⟩
  rw [hnone]
  cases h : result.1 with
  | ok value => exact ⟨rfl, [], hstands value h, rfl⟩
  | error cause => exact ⟨List.nil_prefix, List.forall_mem_nil _⟩

/-- With one decision, a step settles one candidate. -/
theorem of_decision (decision : Decision ε) {result : Except ε α × Issue} {candidate : Candidate}
    (hone : decisions issue.labels said = [decision]) (hsound : decision.IsSound)
    (hlearned : result.2.labels = knownAfter issue.labels said)
    (hunchanged : ∀ cause, decision.ruling = .asked (.error cause) →
      result.2.labels = decision.known)
    (hreported : Reported [candidate.label] [decision] stands result.1) :
    Settled issue [candidate] stands said result := by
  refine ⟨?_, hlearned, ?_, [candidate.label], .all [candidate], hone ▸ hreported⟩
  · rw [hone]
    exact List.forall_mem_singleton.2 hsound
  · rw [hone]
    exact List.forall_mem_singleton.2 hunchanged

/-- A step that failed has failed for all that would have come after it. -/
theorem of_error {cause : ε} (h : Settled issue cs stands said (.error cause, last)) :
    Settled issue (cs ++ ds) stands' said (.error cause, last) := by
  obtain ⟨labels, htakes, hreported⟩ := h.reported
  exact ⟨h.sound, h.learned, h.unchanged, _, htakes.append (.all ds), hreported.of_error⟩

/-- What a later step decides starts from the labels that are known then. -/
theorem append {value : α} {result : Except ε β × Issue}
    (h : Settled issue cs stands said (.ok value, last)) (hlater : Settled last ds stands' later result)
    (hstands : ∀ other first second, stands value first → stands' other second →
      stands'' other (first ++ second)) :
    Settled issue (cs ++ ds) stands'' (said ++ later) result := by
  obtain ⟨labels, htakes, hreported⟩ := h.reported
  obtain ⟨more, htakes', hreported'⟩ := hlater.reported
  have hlast : last.labels = knownAfter issue.labels said := h.learned
  -- The second step starts with what the first one has made known.
  have hdecisions : decisions issue.labels (said ++ later)
      = decisions issue.labels said ++ decisions last.labels later := by
    rw [decisions_append, hlast]
  refine ⟨?_, ?_, ?_, labels ++ more, htakes.append htakes', ?_⟩
  · rw [hdecisions]
    exact List.forall_mem_append.2 ⟨h.sound, hlater.sound⟩
  · rw [knownAfter_append, ← hlast]
    exact hlater.learned
  · rw [hdecisions]
    intro decision hmem cause hcause
    rcases List.mem_append.1 hmem with hmem | hmem
    · -- no call of the first step has failed
      have hanswered := hreported.outcome?_ne_none decision hmem
      rw [hcause] at hanswered
      exact absurd rfl hanswered
    · exact hlater.unchanged decision hmem cause hcause
  · rw [hdecisions]
    exact hreported.append hreported' hstands

end Settled

namespace TriageStep

/-- Whoever answers, the step decides on these candidates, and what it reports stands for that. -/
def Settles (x : TriageStep ε α) (cs : List Candidate) (stands : α → List LabelOutcome → Prop) :
    Prop :=
  ∀ (σ : Type) (tracker : Answerer TrackerCall (TrackerReply ε) σ) (issue : Issue) (state : σ),
    Settled issue cs stands ((x.run issue).run tracker state).said
      ((x.run issue).run tracker state).value

namespace Settles

variable {x : TriageStep ε α} {f : α → TriageStep ε β} {cs ds : List Candidate}
  {stands : α → List LabelOutcome → Prop}

/-- **One step after another** decides on the candidates of both. -/
theorem bind {stands' : α → β → List LabelOutcome → Prop} {stands'' : β → List LabelOutcome → Prop}
    (hx : x.Settles cs stands) (hf : ∀ value, (f value).Settles ds (stands' value))
    (hstands : ∀ value other first second, stands value first → stands' value other second →
      stands'' other (first ++ second)) :
    (x >>= f).Settles (cs ++ ds) stands'' := by
  intro σ tracker issue state
  have hfirst := hx σ tracker issue state
  rw [TriageStep.run_bind, Dialogue.run_bind]
  generalize (x.run issue).run tracker state = outcome at hfirst ⊢
  obtain ⟨⟨result, last⟩, next, said⟩ := outcome
  -- what the first step comes to decides whether there is a second one
  cases result with
  | error cause =>
    dsimp only
    rw [onward_error, Dialogue.run_done, List.append_nil]
    exact hfirst.of_error
  | ok value =>
    dsimp only
    rw [onward_ok]
    exact hfirst.append (hf value σ tracker last next) (hstands value)

end Settles

end TriageStep

end Triage
