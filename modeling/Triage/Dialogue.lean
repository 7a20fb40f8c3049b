namespace Triage

/-!
# Dialogues

* `Dialogue` — a program that asks questions: which question comes next depends on the answers so
  far, and on nothing else.
* `Dialogue.run` — the program with someone who answers, and what was said.
* `Dialogue.handle` — each question is answered by a dialogue of its own, with other questions.

Both are folds over the program, so what holds of every answerer is shown by induction on it.
-/

/-- A program that writes notes `N` and asks questions `Q`, each with its type of answers `A`. -/
inductive Dialogue (N Q : Type) (A : Q → Type) (α : Type) : Type
  | done (value : α)
  | note (entry : N) (rest : Dialogue N Q A α)
  | ask (question : Q) (next : A question → Dialogue N Q A α)

/-- What was said: a note, or a question with its answer. -/
inductive Spoken (N Q : Type) (A : Q → Type) : Type
  | note (entry : N)
  | asked (question : Q) (answer : A question)

/-- The result of a dialogue, what was said in it, and the state of the answerer afterwards. -/
structure Outcome (N Q : Type) (A : Q → Type) (σ α : Type) where
  value : α
  state : σ
  said : List (Spoken N Q A)

/-- Someone who answers, with a state that the questions may change. -/
abbrev Answerer (Q : Type) (A : Q → Type) (σ : Type) := (question : Q) → σ → A question × σ

namespace Spoken

variable {N Q : Type} {A : Q → Type}

/-- The note, if it is one. -/
def note? : Spoken N Q A → Option N
  | .note entry => some entry
  | .asked .. => none

/-- The question, if it is one. -/
def question? : Spoken N Q A → Option Q
  | .note _ => none
  | .asked question _ => some question

end Spoken

namespace Outcome

variable {N Q : Type} {A : Q → Type} {σ α : Type}

/-- Puts something before all that was said. -/
def after (spoken : Spoken N Q A) (outcome : Outcome N Q A σ α) : Outcome N Q A σ α :=
  { outcome with said := spoken :: outcome.said }

/-- The notes, in order. -/
def notes (outcome : Outcome N Q A σ α) : List N := outcome.said.filterMap Spoken.note?

/-- The questions, in order. -/
def questions (outcome : Outcome N Q A σ α) : List Q := outcome.said.filterMap Spoken.question?

@[simp] theorem after_value (spoken : Spoken N Q A) (outcome : Outcome N Q A σ α) :
    (outcome.after spoken).value = outcome.value := rfl
@[simp] theorem after_state (spoken : Spoken N Q A) (outcome : Outcome N Q A σ α) :
    (outcome.after spoken).state = outcome.state := rfl
@[simp] theorem after_said (spoken : Spoken N Q A) (outcome : Outcome N Q A σ α) :
    (outcome.after spoken).said = spoken :: outcome.said := rfl

end Outcome

namespace Dialogue

variable {N Q R : Type} {A : Q → Type} {B : R → Type} {σ α β γ : Type}

/-- One dialogue after another. -/
def bind (f : α → Dialogue N Q A β) : Dialogue N Q A α → Dialogue N Q A β
  | .done value => f value
  | .note entry rest => .note entry (bind f rest)
  | .ask question next => .ask question fun answer => bind f (next answer)

instance : Monad (Dialogue N Q A) where
  pure := .done
  bind x f := x.bind f

@[simp] theorem pure_def (value : α) : (pure value : Dialogue N Q A α) = .done value := rfl
@[simp] theorem done_bind (value : α) (f : α → Dialogue N Q A β) : .done value >>= f = f value := rfl
@[simp] theorem note_bind (entry : N) (rest : Dialogue N Q A α) (f : α → Dialogue N Q A β) :
    .note entry rest >>= f = .note entry (rest >>= f) := rfl
@[simp] theorem ask_bind (question : Q) (next : A question → Dialogue N Q A α)
    (f : α → Dialogue N Q A β) :
    .ask question next >>= f = .ask question fun answer => next answer >>= f := rfl

@[simp] theorem bind_eq (x : Dialogue N Q A α) (f : α → Dialogue N Q A β) :
    x.bind f = x >>= f := rfl

/-- Nothing is done after a dialogue that is followed by its own result. -/
theorem bind_done (x : Dialogue N Q A α) : x >>= .done = x := by
  induction x with
  | done value => rfl
  | note entry rest ih => simp [ih]
  | ask question next ih => simp [ih]

/-- In a chain of dialogues it does not matter which two are put together first. -/
theorem bind_assoc (x : Dialogue N Q A α) (f : α → Dialogue N Q A β) (g : β → Dialogue N Q A γ) :
    x >>= f >>= g = x >>= fun value => f value >>= g := by
  induction x with
  | done value => rfl
  | note entry rest ih => simp [ih]
  | ask question next ih => simp [ih]

instance : LawfulMonad (Dialogue N Q A) :=
  LawfulMonad.mk' _ bind_done (fun _ _ => rfl) bind_assoc

/-! ### Running -/

/-- The dialogue with someone who answers. -/
def run (answerer : Answerer Q A σ) : Dialogue N Q A α → σ → Outcome N Q A σ α
  | .done value, state => ⟨value, state, []⟩
  | .note entry rest, state => (rest.run answerer state).after (.note entry)
  | .ask question next, state =>
    let (answer, state) := answerer question state
    ((next answer).run answerer state).after (.asked question answer)

@[simp] theorem run_done (answerer : Answerer Q A σ) (value : α) (state : σ) :
    (.done value : Dialogue N Q A α).run answerer state = ⟨value, state, []⟩ := rfl

/-- A note is written before all that the rest says. -/
@[simp] theorem run_note (answerer : Answerer Q A σ) (entry : N) (rest : Dialogue N Q A α)
    (state : σ) :
    (Dialogue.note entry rest).run answerer state
      = (rest.run answerer state).after (.note entry) := rfl

/-- A question is put to the answerer in its state, and the rest starts with what it leaves. -/
@[simp] theorem run_ask (answerer : Answerer Q A σ) (question : Q)
    (next : A question → Dialogue N Q A α) (state : σ) :
    (Dialogue.ask question next).run answerer state
      = ((next (answerer question state).1).run answerer (answerer question state).2).after
          (.asked question (answerer question state).1) := rfl

/-- What the second dialogue says comes after what the first one says. -/
theorem run_bind (answerer : Answerer Q A σ) (x : Dialogue N Q A α) (f : α → Dialogue N Q A β)
    (state : σ) :
    (x >>= f).run answerer state =
      let first := x.run answerer state
      let second := (f first.value).run answerer first.state
      ⟨second.value, second.state, first.said ++ second.said⟩ := by
  induction x generalizing state with
  | done value => rfl
  | note entry rest ih => simp [ih, Outcome.after]
  | ask question next ih => simp [ih, Outcome.after]

/-! ### Handling questions by further dialogues -/

/-- Each question is answered by a dialogue of its own. -/
def handle (answer : (question : Q) → Dialogue N R B (A question)) :
    Dialogue N Q A α → Dialogue N R B α
  | .done value => .done value
  | .note entry rest => .note entry (rest.handle answer)
  | .ask question next => (answer question).bind fun a => (next a).handle answer

@[simp] theorem handle_done (answer : (question : Q) → Dialogue N R B (A question)) (value : α) :
    (.done value : Dialogue N Q A α).handle answer = .done value := rfl
@[simp] theorem handle_note (answer : (question : Q) → Dialogue N R B (A question)) (entry : N)
    (rest : Dialogue N Q A α) :
    (Dialogue.note entry rest).handle answer = .note entry (rest.handle answer) := rfl

/-- A question is replaced by the dialogue that answers it. -/
@[simp] theorem handle_ask (answer : (question : Q) → Dialogue N R B (A question)) (question : Q)
    (next : A question → Dialogue N Q A α) :
    (Dialogue.ask question next).handle answer
      = answer question >>= fun a => (next a).handle answer := rfl

/-- The answerer that has each question answered by a dialogue with another answerer. -/
def answererOf (answer : (question : Q) → Dialogue N R B (A question)) (answerer : Answerer R B σ) :
    Answerer Q A σ := fun question state =>
  (((answer question).run answerer state).value, ((answer question).run answerer state).state)

/-- Handling the questions and then running comes to the same as running with the handled answers. -/
theorem run_handle (answer : (question : Q) → Dialogue N R B (A question))
    (answerer : Answerer R B σ) (x : Dialogue N Q A α) (state : σ) :
    ((x.handle answer).run answerer state).value = (x.run (answererOf answer answerer) state).value ∧
      ((x.handle answer).run answerer state).state
        = (x.run (answererOf answer answerer) state).state := by
  induction x generalizing state with
  | done value => exact ⟨rfl, rfl⟩
  | note entry rest ih => exact ih state
  | ask question next ih =>
    simp only [handle_ask, run_bind, run_ask, Outcome.after_value, Outcome.after_state]
    exact ih _ _

end Dialogue

end Triage
