import Triage.Dialogue
import Triage.Issue
import Triage.Note

namespace Triage

/-!
# Issue trackers

* `TrackerCall` — what triage asks of a tracker, with the type of each answer.
* `TrackerDialogue` — a program that asks these, where every call may fail for a reason of type `ε`.
* `TriageStep` — a step of triage, on the issue as it is known so far. The first call that fails ends
  the step, and the issue stays as it was known then.
-/

/-- What triage asks of a tracker. -/
inductive TrackerCall
  | fetch (number : Nat)
  | addLabel (number : Nat) (label : Label)
  | comment (number : Nat) (body : String)
  | close (number : Nat)
  deriving DecidableEq, Repr

/-- What the tracker answers: the issue, or all labels of the issue after the call. -/
abbrev TrackerCall.Answer : TrackerCall → Type
  | .fetch _ => Issue
  | .addLabel .. => List Label
  | .comment .. => Unit
  | .close _ => Unit

/-- The answer to a call, or why it failed. -/
abbrev TrackerReply (ε : Type) (call : TrackerCall) : Type := Except ε call.Answer

/-- A program that calls a tracker. -/
abbrev TrackerDialogue (ε : Type) := Dialogue Note TrackerCall (TrackerReply ε)

/-- A step of triage on an issue: its result or why it failed, with the issue as it is known then. -/
@[ext] structure TriageStep (ε α : Type) where
  run : Issue → TrackerDialogue ε (Except ε α × Issue)

namespace TriageStep

variable {ε α β : Type}

/-- Goes on after a step, unless it failed. -/
def onward (f : α → TriageStep ε β) :
    Except ε α × Issue → TrackerDialogue ε (Except ε β × Issue)
  | (.ok value, issue) => (f value).run issue
  | (.error cause, issue) => .done (.error cause, issue)

instance : Monad (TriageStep ε) where
  pure value := ⟨fun issue => .done (.ok value, issue)⟩
  bind x f := ⟨fun issue => x.run issue >>= onward f⟩

@[simp] theorem run_pure (value : α) (issue : Issue) :
    (pure value : TriageStep ε α).run issue = .done (.ok value, issue) := rfl

/-- The second step starts on the issue as the first one leaves it. -/
@[simp] theorem run_bind (x : TriageStep ε α) (f : α → TriageStep ε β) (issue : Issue) :
    (x >>= f).run issue = x.run issue >>= onward f := rfl
@[simp] theorem run_map (f : α → β) (x : TriageStep ε α) (issue : Issue) :
    (f <$> x).run issue = x.run issue >>= onward fun value => pure (f value) := rfl
@[simp] theorem onward_ok (f : α → TriageStep ε β) (value : α) (issue : Issue) :
    onward f (.ok value, issue) = (f value).run issue := rfl

/-- After a failure nothing more is done, and the issue stays as it was known. -/
@[simp] theorem onward_error (f : α → TriageStep ε β) (cause : ε) (issue : Issue) :
    onward f (.error cause, issue) = .done (.error cause, issue) := rfl

/-- Nothing is done after a step that is followed by its own result. -/
theorem onward_pure : onward (pure : α → TriageStep ε α) = .done := by
  funext result
  match result with
  | (.ok _, _) => rfl
  | (.error _, _) => rfl

instance : LawfulMonad (TriageStep ε) :=
  LawfulMonad.mk' _
    (fun x => by
      ext issue
      show x.run issue >>= onward pure = x.run issue
      rw [onward_pure, Dialogue.bind_done])
    (fun _ _ => rfl)
    (fun x f g => by
      ext issue
      simp only [run_bind, Dialogue.bind_assoc]
      congr 1
      funext result
      match result with
      | (.ok _, _) => rfl
      | (.error _, _) => rfl)

/-- The issue as it is known. -/
def known : TriageStep ε Issue := ⟨fun issue => .done (.ok issue, issue)⟩

/-- From here on the issue is known like this. -/
def learn (issue : Issue) : TriageStep ε Unit := ⟨fun _ => .done (.ok (), issue)⟩

/-- Writes a note. -/
def write (entry : Note) : TriageStep ε Unit :=
  ⟨fun issue => .note entry (.done (.ok (), issue))⟩

/-- Calls the tracker. -/
def call (c : TrackerCall) : TriageStep ε c.Answer :=
  ⟨fun issue => .ask c fun reply => .done (reply, issue)⟩

@[simp] theorem run_known (issue : Issue) :
    (known : TriageStep ε Issue).run issue = .done (.ok issue, issue) := rfl
@[simp] theorem run_learn (new issue : Issue) :
    (learn new : TriageStep ε Unit).run issue = .done (.ok (), new) := rfl
@[simp] theorem run_write (entry : Note) (issue : Issue) :
    (write entry : TriageStep ε Unit).run issue = .note entry (.done (.ok (), issue)) := rfl
@[simp] theorem run_call (c : TrackerCall) (issue : Issue) :
    (call c : TriageStep ε c.Answer).run issue = .ask c fun reply => .done (reply, issue) := rfl

end TriageStep

end Triage
