import Triage.Proofs.Dialogue.Exchanges

namespace Triage

/-!
# Exchanges of a handled dialogue

Where each question is answered by a dialogue of its own, the exchanges come in parts, one for each
question.

* `Dialogue.mute_handle` — the notes of a dialogue do not matter to what becomes of it.
* `HandlerEnsures` — what is ensured of the dialogue that answers each question.
* `HandlerEnsures.forall_run_handle` — what holds of each exchange of each answer holds of all of them.
* `Unfolds` — exchanges that come in parts, each related to a question and its answer.
* `HandlerEnsures.handle` — what is ensured of a dialogue and of its handler is ensured of the two
  together.
-/

variable {N Q R : Type} {A : Q → Type} {B : R → Type} {α : Type}

/-- A dialogue without its notes is handled like the dialogue. -/
theorem Dialogue.mute_handle (answer : (question : Q) → Dialogue N R B (A question))
    (x : Dialogue N Q A α) : (x.mute.handle answer).mute = (x.handle answer).mute := by
  induction x with
  | done value => rfl
  | note entry rest ih => exact ih
  | ask question next ih =>
    rw [Dialogue.mute_ask, Dialogue.handle_ask, Dialogue.handle_ask, Dialogue.mute_bind,
      Dialogue.mute_bind]
    congr 1
    funext value
    exact ih value

/-- Whatever comes of its own questions, the answer to each question is related to them like this. -/
structure HandlerEnsures (answer : (question : Q) → Dialogue N R B (A question))
    (P : (question : Q) → List (Exchange R B) → A question → Prop) : Prop where
  ensures : ∀ question, (answer question).Ensures (P question)

/-- Each of the questions was answered by a part of the inner exchanges, one part after another, and
`P` relates the part to the question and its answer. -/
inductive Unfolds (P : (question : Q) → List (Exchange R B) → A question → Prop) :
    List (Exchange Q A) → List (Exchange R B) → Prop
  | nil : Unfolds P [] []
  | cons {question : Q} {answer : A question} {part inner : List (Exchange R B)}
      {exchanges : List (Exchange Q A)} (hpart : P question part answer)
      (hlater : Unfolds P exchanges inner) :
      Unfolds P (⟨question, answer⟩ :: exchanges) (part ++ inner)

namespace HandlerEnsures

variable {σ : Type} {answer : (question : Q) → Dialogue N R B (A question)}
  {P : (question : Q) → List (Exchange R B) → A question → Prop} (h : HandlerEnsures answer P)
  (answerer : Answerer R B σ) (state : σ)
include h

/-- One question, whoever answers. -/
theorem run (question : Q) :
    P question ((answer question).run answerer state).exchanges
      ((answer question).run answerer state).value :=
  (h.ensures question).run answerer state

/-- What holds of each exchange of each answer holds of all exchanges of the handled dialogue. -/
theorem forall_run_handle {p : Exchange R B → Prop}
    (hp : ∀ question part value, P question part value → ∀ exchange ∈ part, p exchange)
    (x : Dialogue N Q A α) :
    ∀ exchange ∈ ((x.handle answer).run answerer state).exchanges, p exchange := by
  induction x generalizing state with
  | done value => exact fun exchange hmem => absurd hmem List.not_mem_nil
  | note entry rest ih => exact ih state
  | ask question next ih =>
    -- First the exchanges of this answer, then those of the rest.
    rw [Dialogue.handle_ask, Dialogue.exchanges_run_bind]
    exact List.forall_mem_append.2 ⟨hp question _ _ (h.run answerer state question), ih _ _⟩

omit answerer state in
/-- **The two together.** Whatever is ensured of a dialogue and of its handler holds of the handled
dialogue: its exchanges come in parts that answer the questions. -/
theorem handle {S : List (Exchange Q A) → α → Prop} {x : Dialogue N Q A α} (hx : x.Ensures S) :
    (x.handle answer).Ensures fun inner value =>
      ∃ exchanges, S exchanges value ∧ Unfolds P exchanges inner := by
  induction x generalizing S with
  | done value => exact ⟨[], hx, .nil⟩
  | note entry rest ih => exact ih hx
  | ask question next ih =>
    -- The part of this question comes first, and the rest goes on with its answer.
    refine (h.ensures question).bind fun part value hpart => ?_
    refine (ih value (hx value)).mono ?_
    rintro inner result ⟨exchanges, hexchanges, hlater⟩
    exact ⟨⟨question, value⟩ :: exchanges, hexchanges, .cons hpart hlater⟩

end HandlerEnsures

end Triage
