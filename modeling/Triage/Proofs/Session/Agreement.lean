import Triage.Proofs.Labelling.Steps
import Triage.Proofs.Run.Memory
import Triage.Session

namespace Triage

/-!
# Agreement of what is known with what the tracker holds

* `IsKept` — a relation of the labels posted, the labels known and the tracker that no call breaks.
* `IsKept.answer`, `IsKept.run` — it is kept by each call, and so by every dialogue that decides by the
  label policy.
* `AgreesUpToLast`, `Mirrors` — two such relations: whatever replies are set, and with none set.
* `SessionStep.settles`, `Session.run` — steps decide by the policy; the steps of a session in turn.
* `labels_never_drift` — both relations hold after any steps of a session.
-/

/-! ### Relations that calls keep -/

/-- No call breaks the relation of the labels posted, the labels known and the tracker. A call that
fails changes none of them, nor does a comment. -/
structure IsKept (R : List Label → List Label → MemoryTracker → Prop) : Prop where
  /-- The labels known are now those of the fetched issue. -/
  fetched : ∀ {posted known tracker}, R posted known tracker → R posted tracker.issue.labels tracker
  /-- A label that the known ones admit was added. -/
  added : ∀ {posted known tracker label}, Admits known label → R posted known tracker →
    R (posted ++ [label]) (withLabel label (tracker.labelsAfter label))
      (tracker.withLabels (tracker.labelsAfter label))
  /-- The issue was closed. -/
  closed : ∀ {posted known tracker}, R posted known tracker →
    R posted known { tracker with issue := { tracker.issue with state := "closed" } }

namespace IsKept

variable {R : List Label → List Label → MemoryTracker → Prop} {posted known : List Label}
  {tracker : MemoryTracker}

/-- Each call keeps the relation, if labels are called for only where the known ones admit them. -/
theorem answer (hR : IsKept R) (call : TrackerCall)
    (hadmits : ∀ label, call.label? = some label → Admits known label) (h : R posted known tracker) :
    R (posted ++ postedLabels [⟨call, (MemoryTracker.answer call tracker).1⟩])
      (Spoken.teach known (.asked call (MemoryTracker.answer call tracker).1))
      (MemoryTracker.answer call tracker).2 := by
  by_cases hfault : call.fault ∈ tracker.faults
  · -- a call that fails posts nothing and teaches nothing
    have hanswer : MemoryTracker.answer call tracker = (.error (.refused call.fault), tracker) :=
      if_pos hfault
    rw [hanswer]
    cases call <;> exact (List.append_nil posted).symm ▸ h
  · have hanswer : MemoryTracker.answer call tracker = MemoryTracker.comply call tracker :=
      if_neg hfault
    rw [hanswer]
    cases call with
    | fetch number =>
      by_cases hnumber : number = tracker.issue.number
      · rw [MemoryTracker.comply, if_pos hnumber]
        exact (List.append_nil posted).symm ▸ hR.fetched h
      · rw [MemoryTracker.comply, if_neg hnumber]
        exact (List.append_nil posted).symm ▸ h
    | addLabel number label =>
      have hadded := hR.added (hadmits label rfl) h
      rw [withLabel_eq] at hadded
      exact hadded
    | comment number body => exact (List.append_nil posted).symm ▸ h
    | close number => exact (List.append_nil posted).symm ▸ hR.closed h

/-- **What no call breaks is kept by every dialogue** that decides by the policy. -/
theorem run (hR : IsKept R) {α : Type} (x : TrackerDialogue MemoryError α)
    (hsound : ∀ decision ∈ decisions known (x.run MemoryTracker.answer tracker).said,
      decision.IsSound)
    (h : R posted known tracker) :
    R (posted ++ postedLabels (x.run MemoryTracker.answer tracker).exchanges)
      (knownAfter known (x.run MemoryTracker.answer tracker).said)
      (x.run MemoryTracker.answer tracker).state := by
  induction x generalizing posted known tracker with
  | done value => exact (List.append_nil posted).symm ▸ h
  | note entry rest ih =>
    refine ih (fun decision hmem => hsound decision ?_) h
    exact List.mem_append_right _ hmem
  | ask call next ih =>
    -- the decision on this call, if it is for a label, is the first one
    have hadmits : ∀ label, call.label? = some label → Admits known label := by
      intro label hlabel
      cases call with
      | addLabel number other =>
        obtain rfl := Option.some.inj hlabel
        exact (hsound _ (List.mem_append_left _ (List.mem_singleton.2 rfl))).asked.1 ⟨_, rfl⟩
      | fetch number => cases hlabel
      | comment number body => cases hlabel
      | close number => cases hlabel
    have hrest := ih _ (fun decision hmem => hsound decision (List.mem_append_right _ hmem))
      (hR.answer call hadmits h)
    rw [List.append_assoc, ← postedLabels_append] at hrest
    exact hrest

end IsKept

/-! ### Two relations -/

/-- The labels known are those of the tracker, or these and at the end the label posted last, if the
tracker lacks it. -/
def AgreesUpToLast (posted known : List Label) (tracker : MemoryTracker) : Prop :=
  known = tracker.issue.labels ∨ ∃ label, posted.getLast? = some label ∧
    label ∉ tracker.issue.labels ∧ known = tracker.issue.labels ++ [label]

/-- **Whatever replies are set**, no call breaks the agreement up to the last label posted. -/
theorem isKept_agreesUpToLast : IsKept AgreesUpToLast where
  fetched _ := .inl rfl
  added {posted known tracker label} _ _ := by
    rw [withLabel_eq]
    -- The label was just posted. The reply says whether the tracker has it.
    by_cases hmem : label ∈ tracker.labelsAfter label
    · exact .inl (if_pos hmem)
    · exact .inr ⟨label, List.getLast?_concat, hmem, if_neg hmem⟩
  closed h := h

/-- Where no replies are set, the labels known are those of the tracker: the initial ones and then
those posted, which are new and differ from each other. -/
structure Mirrors (initial posted known : List Label) (tracker : MemoryTracker) : Prop where
  replies : tracker.replies = []
  remote : known = tracker.issue.labels
  known : known = initial ++ posted
  nodup : posted.Nodup
  new : ∀ label ∈ posted, label ∉ initial

/-- **Where no replies are set**, no call breaks the agreement. -/
theorem isKept_mirrors (initial : List Label) : IsKept (Mirrors initial) where
  fetched h := h.remote ▸ h
  added {posted known tracker label} hadmits h := by
    have hnew : label ∉ initial ++ posted := h.known ▸ hadmits.1
    rw [List.mem_append, not_or] at hnew
    -- Without set replies the tracker puts the label at the end.
    have hafter : tracker.labelsAfter label = known ++ [label] := by
      have hremote : label ∉ tracker.issue.labels := h.remote ▸ hadmits.1
      simp [MemoryTracker.labelsAfter, h.replies, Issue.hasLabel, hremote, h.remote]
    have hwith : withLabel label (known ++ [label]) = known ++ [label] := by
      simp [withLabel]
    rw [hafter, hwith]
    -- It is new to what is known, so it was not posted before.
    have hdistinct : (posted ++ [label]).Nodup := by
      rw [List.nodup_append]
      refine ⟨h.nodup, by simp, fun other hother last hlast heq => hnew.2 ?_⟩
      rw [← List.mem_singleton.1 hlast, ← heq]
      exact hother
    refine ⟨h.replies, rfl, ?_, hdistinct, ?_⟩
    · rw [h.known, List.append_assoc]
    · intro other hother
      rcases List.mem_append.1 hother with hother | hother
      · exact h.new other hother
      · exact List.mem_singleton.1 hother ▸ hnew.1
  closed h := ⟨h.replies, h.remote, h.known, h.nodup, h.new⟩

/-! ### Steps of a session -/

/-- Each step of a session decides by the policy, on some candidates. -/
theorem SessionStep.settles (table : KeywordTable) (step : SessionStep) :
    ∃ cs, (step.act table).Settles cs fun _ _ => True := by
  cases step with
  | addLabel label => exact ⟨_, (TriageStep.Settles.addLabel label).map fun _ _ _ => trivial⟩
  | text t => exact ⟨_, (TriageStep.Settles.addLabelsFromText table t).map fun _ _ _ => trivial⟩
  | body b => exact ⟨_, (TriageStep.Settles.addLabelsFromBody table b).map fun _ _ _ => trivial⟩
  | newIssue => exact ⟨_, TriageStep.Settles.answerNewIssue.map fun _ _ _ => trivial⟩
  | newPullRequest => exact ⟨_, TriageStep.Settles.answerNewPullRequest.map fun _ _ _ => trivial⟩
  | hasLabel label => exact ⟨_, TriageStep.Settles.known.map fun _ _ _ => trivial⟩
  | setText title body => exact ⟨[], fun _ _ _ _ => .of_quiet rfl rfl fun _ _ => trivial⟩
  | remoteLabels labels => exact ⟨[], .pure trivial⟩
  | fetch number =>
    refine ⟨[], fun σ tracker issue state => ?_⟩
    have hact : (SessionStep.act table (.fetch number)).run issue
        = .ask (.fetch number) fun
          | .error cause => .done (.error cause, issue)
          | .ok fetched => .done (.ok .nothing, fetched) := by
      show Dialogue.ask _ _ = Dialogue.ask _ _
      congr 1
      funext reply
      cases reply <;> rfl
    rw [hact, Dialogue.run_ask]
    cases (tracker (.fetch number) state).1 with
    | error cause => exact .of_quiet rfl rfl fun _ _ => trivial
    | ok fetched => exact .of_quiet rfl rfl fun _ _ => trivial

/-- The steps of a session in turn, failed or not: the calls with their answers, and the session as it
is then. -/
def Session.run (table : KeywordTable) :
    Session → List SessionStep → List (TrackerExchange MemoryError) × Session
  | session, [] => ([], session)
  | session, step :: rest =>
    let outcome := session.step table step
    let later := Session.run table outcome.state rest
    (outcome.exchanges ++ later.1, later.2)

section Steps

variable {R : List Label → List Label → MemoryTracker → Prop} (hR : IsKept R) (table : KeywordTable)
include hR

/-- A step that sets no labels at the tracker keeps what no call breaks. -/
theorem IsKept.step {step : SessionStep} (hlocal : ∀ labels, step ≠ .remoteLabels labels)
    {posted : List Label} {session : Session}
    (h : R posted session.issue.labels session.tracker) :
    R (posted ++ postedLabels (session.step table step).exchanges)
      (session.step table step).state.issue.labels (session.step table step).state.tracker := by
  -- Only steps that are left out here touch the tracker without a call.
  have htracker : session.trackerFor step = session.tracker := by
    cases step with
    | remoteLabels labels => exact absurd rfl (hlocal labels)
    | _ => rfl
  obtain ⟨cs, hsettles⟩ := step.settles table
  have hsettled := hsettles MemoryTracker MemoryTracker.answer session.issue session.tracker
  have hkept := hR.run ((step.act table).run session.issue) hsettled.sound h
  rw [← hsettled.learned] at hkept
  unfold Session.step
  rw [htracker]
  exact hkept

/-- So do all such steps in turn. -/
theorem IsKept.steps {steps : List SessionStep}
    (hlocal : ∀ step ∈ steps, ∀ labels, step ≠ .remoteLabels labels) (posted : List Label)
    (session : Session) (h : R posted session.issue.labels session.tracker) :
    R (posted ++ postedLabels (session.run table steps).1)
      (session.run table steps).2.issue.labels (session.run table steps).2.tracker := by
  induction steps generalizing posted session with
  | nil => exact (List.append_nil posted).symm ▸ h
  | cons step rest ih =>
    obtain ⟨hstep, hrest⟩ := List.forall_mem_cons.1 hlocal
    have hlater := ih hrest _ _ (hR.step table hstep h)
    rw [List.append_assoc, ← postedLabels_append] at hlater
    exact hlater

end Steps

/-- **Local and remote labels never drift.** After any steps of a session on an issue and the tracker
that holds it, each of them failed or not, where none of them sets labels at the tracker: the labels
known are those of the tracker, or these and the label posted last, if the tracker lacks it; and where
no replies are set they are those of the tracker, namely the initial ones and then those posted, which
are new and differ from each other. -/
theorem labels_never_drift (table : KeywordTable) (issue : Issue) (faults : List Fault)
    (replies : List (Label × List Label)) (steps : List SessionStep)
    (hlocal : ∀ step ∈ steps, ∀ labels, step ≠ .remoteLabels labels) :
    let after := Session.run table ⟨issue, ⟨issue, faults, replies⟩⟩ steps
    let posted := postedLabels after.1
    let known := after.2.issue.labels
    let remote := after.2.tracker.issue.labels
    (known = remote ∨
      ∃ label, posted.getLast? = some label ∧ label ∉ remote ∧ known = remote ++ [label]) ∧
    (replies = [] → known = remote ∧ known = issue.labels ++ posted ∧ posted.Nodup ∧
      ∀ label ∈ posted, label ∉ issue.labels) := by
  intro after posted known remote
  refine ⟨?_, fun hnone => ?_⟩
  · exact isKept_agreesUpToLast.steps table hlocal [] ⟨issue, ⟨issue, faults, replies⟩⟩ (.inl rfl)
  · have hstart : Mirrors issue.labels [] issue.labels ⟨issue, faults, replies⟩ :=
      ⟨hnone, rfl, (List.append_nil _).symm, List.nodup_nil, List.forall_mem_nil _⟩
    have h : Mirrors issue.labels posted known after.2.tracker :=
      (isKept_mirrors issue.labels).steps table hlocal [] ⟨issue, ⟨issue, faults, replies⟩⟩ hstart
    exact ⟨h.remote, h.known, h.nodup, h.new⟩

/-- Steps that put up two labels by a text, then edit the title, then put up one more label. -/
def mixedSteps : List SessionStep :=
  [.text "Linux crash", .setText (some "docs") none, .addLabel "enhancement"]

/-- Where `bug` is refused, the first of these steps stops halfway. A tracker that then drops the last
label leaves it known at the end; one without set replies keeps it. -/
theorem labels_never_drift_of_mixedSteps :
    let lossy := Session.run .builtin
      ⟨headersReport, ⟨headersReport, [.label "bug"], [("enhancement", ["wsl"])]⟩⟩ mixedSteps
    let plain := Session.run .builtin
      ⟨headersReport, ⟨headersReport, [.label "bug"], []⟩⟩ mixedSteps
    (∀ step ∈ mixedSteps, ∀ labels, step ≠ .remoteLabels labels) ∧
      AgreesUpToLast (postedLabels lossy.1) lossy.2.issue.labels lossy.2.tracker ∧
      (lossy.2.issue.labels, lossy.2.tracker.issue.labels) = (["wsl", "enhancement"], ["wsl"]) ∧
      plain.2.issue.labels = plain.2.tracker.issue.labels ∧
      plain.2.issue.labels = ["linux", "enhancement"] := by
  intro lossy plain
  have hlocal : ∀ step ∈ mixedSteps, ∀ labels, step ≠ .remoteLabels labels := by
    simp [mixedSteps]
  have hlossy := labels_never_drift .builtin headersReport [.label "bug"]
    [("enhancement", ["wsl"])] mixedSteps hlocal
  have hplain := labels_never_drift .builtin headersReport [.label "bug"] [] mixedSteps hlocal
  exact ⟨hlocal, hlossy.1, by decide +kernel, (hplain.2 rfl).1, by decide +kernel⟩

end Triage
