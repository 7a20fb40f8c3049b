import Triage.Dialogue
import Mathlib.Data.List.Basic

namespace Triage

/-!
# Exchanges of a dialogue

Most of what is worth knowing of a dialogue is which questions it asks and what it makes of the
answers; its notes do not matter.

* `Exchange`, `Outcome.exchanges` — questions with their answers, in order.
* `Dialogue.mute` — the dialogue without its notes: it asks the same and comes to the same.
* `Dialogue.Ensures` — what holds of the exchanges and the result whatever is answered, by recursion
  on the dialogue; `Ensures.run` carries it over to every answerer.
* `Dialogue.Leads` — the exchanges that lead a dialogue to a result; `Answerer.Follows` — an answerer
  that gives the answers in them; `Dialogue.Leads.run` puts the two together.
-/

variable {N Q R : Type} {A : Q → Type} {B : R → Type} {σ α β : Type}

/-- A question with its answer. -/
abbrev Exchange (Q : Type) (A : Q → Type) := (question : Q) × A question

/-- The question with its answer, if it is one. -/
def Spoken.exchange? : Spoken N Q A → Option (Exchange Q A)
  | .note _ => none
  | .asked question answer => some ⟨question, answer⟩

/-- The questions with their answers, in order. -/
def Outcome.exchanges (outcome : Outcome N Q A σ α) : List (Exchange Q A) :=
  outcome.said.filterMap Spoken.exchange?

/-- The questions are those of the exchanges. -/
theorem Outcome.questions_eq_map_exchanges (outcome : Outcome N Q A σ α) :
    outcome.questions = outcome.exchanges.map (·.1) := by
  rw [Outcome.questions, Outcome.exchanges, List.map_filterMap]
  congr 1
  funext spoken
  cases spoken <;> rfl

namespace Dialogue

variable (answerer : Answerer Q A σ)

@[simp] theorem exchanges_run_done (value : α) (state : σ) :
    ((.done value : Dialogue N Q A α).run answerer state).exchanges = [] := rfl

@[simp] theorem exchanges_run_note (entry : N) (rest : Dialogue N Q A α) (state : σ) :
    ((Dialogue.note entry rest).run answerer state).exchanges
      = (rest.run answerer state).exchanges := rfl

/-- The first exchange is that of the question asked, and the rest starts with its answer. -/
@[simp] theorem exchanges_run_ask (question : Q) (next : A question → Dialogue N Q A α)
    (state : σ) :
    ((Dialogue.ask question next).run answerer state).exchanges
      = ⟨question, (answerer question state).1⟩
        :: ((next (answerer question state).1).run answerer
            (answerer question state).2).exchanges := rfl

/-- The result is that of the second dialogue, which starts from the result and the state of the first. -/
theorem value_run_bind (x : Dialogue N Q A α) (f : α → Dialogue N Q A β) (state : σ) :
    ((x >>= f).run answerer state).value
      = ((f (x.run answerer state).value).run answerer (x.run answerer state).state).value := by
  rw [run_bind]

/-- The state is the one that the second dialogue leaves. -/
theorem state_run_bind (x : Dialogue N Q A α) (f : α → Dialogue N Q A β) (state : σ) :
    ((x >>= f).run answerer state).state
      = ((f (x.run answerer state).value).run answerer (x.run answerer state).state).state := by
  rw [run_bind]

/-- The exchanges of the second dialogue come after those of the first one. -/
theorem exchanges_run_bind (x : Dialogue N Q A α) (f : α → Dialogue N Q A β) (state : σ) :
    ((x >>= f).run answerer state).exchanges
      = (x.run answerer state).exchanges
        ++ ((f (x.run answerer state).value).run answerer
            (x.run answerer state).state).exchanges := by
  simp only [run_bind, Outcome.exchanges, List.filterMap_append]

/-! ### Without notes -/

/-- The dialogue without its notes. -/
def mute : Dialogue N Q A α → Dialogue N Q A α
  | .done value => .done value
  | .note _ rest => rest.mute
  | .ask question next => .ask question fun answer => (next answer).mute

@[simp] theorem mute_done (value : α) : (.done value : Dialogue N Q A α).mute = .done value := rfl
@[simp] theorem mute_note (entry : N) (rest : Dialogue N Q A α) :
    (Dialogue.note entry rest).mute = rest.mute := rfl
@[simp] theorem mute_ask (question : Q) (next : A question → Dialogue N Q A α) :
    (Dialogue.ask question next).mute = .ask question fun answer => (next answer).mute := rfl

/-- Notes are left out of each part by itself. -/
@[simp] theorem mute_bind (x : Dialogue N Q A α) (f : α → Dialogue N Q A β) :
    (x >>= f).mute = x.mute >>= fun value => (f value).mute := by
  induction x with
  | done value => rfl
  | note entry rest ih => simp [ih]
  | ask question next ih => simp [ih]

/-- Without its notes a dialogue comes to the same, by the same exchanges. -/
theorem run_mute (x : Dialogue N Q A α) (state : σ) :
    (x.mute.run answerer state).value = (x.run answerer state).value ∧
      (x.mute.run answerer state).state = (x.run answerer state).state ∧
      (x.mute.run answerer state).exchanges = (x.run answerer state).exchanges := by
  induction x generalizing state with
  | done value => exact ⟨rfl, rfl, rfl⟩
  | note entry rest ih => exact ih state
  | ask question next ih =>
    obtain ⟨hvalue, hstate, hexchanges⟩ :=
      ih (answerer question state).1 (answerer question state).2
    refine ⟨hvalue, hstate, ?_⟩
    simp only [mute_ask, exchanges_run_ask, hexchanges]

/-- Dialogues that differ in their notes only have the same exchanges and the same result. -/
theorem run_congr_of_mute_eq {x y : Dialogue N Q A α} (h : x.mute = y.mute) (state : σ) :
    (x.run answerer state).value = (y.run answerer state).value ∧
      (x.run answerer state).state = (y.run answerer state).state ∧
      (x.run answerer state).exchanges = (y.run answerer state).exchanges := by
  obtain ⟨hvalue, hstate, hexchanges⟩ := run_mute answerer x state
  -- Both come to what their common part without notes comes to.
  obtain ⟨hvalue', hstate', hexchanges'⟩ := run_mute answerer y state
  rw [h] at hvalue hstate hexchanges
  exact ⟨hvalue.symm.trans hvalue', hstate.symm.trans hstate', hexchanges.symm.trans hexchanges'⟩

/-! ### Whatever is answered -/

/-- Whatever is answered, the exchanges and the result are related like this. -/
def Ensures (P : List (Exchange Q A) → α → Prop) : Dialogue N Q A α → Prop
  | .done value => P [] value
  | .note _ rest => rest.Ensures P
  | .ask question next =>
    ∀ answer, (next answer).Ensures fun exchanges value => P (⟨question, answer⟩ :: exchanges) value

@[simp] theorem ensures_done {P : List (Exchange Q A) → α → Prop} {value : α} :
    (.done value : Dialogue N Q A α).Ensures P ↔ P [] value := Iff.rfl
@[simp] theorem ensures_note {P : List (Exchange Q A) → α → Prop} {entry : N}
    {rest : Dialogue N Q A α} :
    (Dialogue.note entry rest).Ensures P ↔ rest.Ensures P := Iff.rfl
@[simp] theorem ensures_ask {P : List (Exchange Q A) → α → Prop} {question : Q}
    {next : A question → Dialogue N Q A α} :
    (Dialogue.ask question next).Ensures P ↔ ∀ answer, (next answer).Ensures
      fun exchanges value => P (⟨question, answer⟩ :: exchanges) value := Iff.rfl

/-- What is ensured may be said less exactly. -/
theorem Ensures.mono {P P' : List (Exchange Q A) → α → Prop} {x : Dialogue N Q A α}
    (h : x.Ensures P) (hP : ∀ exchanges value, P exchanges value → P' exchanges value) :
    x.Ensures P' := by
  induction x generalizing P P' with
  | done value => exact hP _ _ h
  | note entry rest ih => exact ih h hP
  | ask question next ih =>
    intro answer
    exact ih answer (h answer) fun exchanges value => hP _ value

/-- What the first dialogue ensures is what the second one starts from. -/
theorem Ensures.bind {P : List (Exchange Q A) → α → Prop} {P' : List (Exchange Q A) → β → Prop}
    {x : Dialogue N Q A α} {f : α → Dialogue N Q A β} (hx : x.Ensures P)
    (hf : ∀ first value, P first value →
      (f value).Ensures fun second result => P' (first ++ second) result) :
    (x >>= f).Ensures P' := by
  induction x generalizing P P' with
  | done value => simpa using hf [] value hx
  | note entry rest ih => exact ih hx hf
  | ask question next ih =>
    -- The exchange of this question goes over to what the rest starts from.
    intro answer
    refine ih answer (hx answer) fun first value h => ?_
    simpa using hf (⟨question, answer⟩ :: first) value h

/-- What is ensured does not depend on notes. -/
@[simp] theorem ensures_mute {P : List (Exchange Q A) → α → Prop} {x : Dialogue N Q A α} :
    x.mute.Ensures P ↔ x.Ensures P := by
  induction x generalizing P with
  | done value => exact Iff.rfl
  | note entry rest ih => exact ih
  | ask question next ih => exact forall_congr' fun answer => ih answer

/-- **What is ensured holds of every run**, whoever answers. -/
theorem Ensures.run {P : List (Exchange Q A) → α → Prop} {x : Dialogue N Q A α}
    (h : x.Ensures P) (state : σ) :
    P (x.run answerer state).exchanges (x.run answerer state).value := by
  induction x generalizing P state with
  | done value => exact h
  | note entry rest ih => exact ih h state
  | ask question next ih =>
    -- Of all answers, the one of this answerer counts.
    exact ih (answerer question state).1 (h (answerer question state).1) (answerer question state).2

/-! ### What leads to a result -/

/-- By these exchanges the dialogue comes to the value. -/
def Leads : Dialogue N Q A α → List (Exchange Q A) → α → Prop
  | .done value, exchanges, result => exchanges = [] ∧ value = result
  | .note _ rest, exchanges, result => rest.Leads exchanges result
  | .ask question next, exchanges, result =>
    ∃ answer rest, exchanges = ⟨question, answer⟩ :: rest ∧ (next answer).Leads rest result

/-- What is done has come to its value by no exchange. -/
theorem Leads.done (value : α) : (.done value : Dialogue N Q A α).Leads [] value := ⟨rfl, rfl⟩

/-- A question comes before what its answer leads by. -/
theorem Leads.ask {question : Q} {next : A question → Dialogue N Q A α} {answer : A question}
    {exchanges : List (Exchange Q A)} {result : α} (h : (next answer).Leads exchanges result) :
    (Dialogue.ask question next).Leads (⟨question, answer⟩ :: exchanges) result :=
  ⟨answer, exchanges, rfl, h⟩

/-- The second dialogue is led on from the result of the first one. -/
theorem Leads.bind {x : Dialogue N Q A α} {f : α → Dialogue N Q A β}
    {first second : List (Exchange Q A)} {value : α} {result : β} (hx : x.Leads first value)
    (hf : (f value).Leads second result) : (x >>= f).Leads (first ++ second) result := by
  induction x generalizing first with
  | done _ =>
    obtain ⟨rfl, rfl⟩ := hx
    exact hf
  | note entry rest ih => exact ih hx
  | ask question next ih =>
    obtain ⟨answer, rest, rfl, hrest⟩ := hx
    exact .ask (ih answer hrest)

/-- What leads to a result does not depend on notes. -/
theorem leads_mute {x : Dialogue N Q A α} {exchanges : List (Exchange Q A)} {result : α} :
    x.mute.Leads exchanges result ↔ x.Leads exchanges result := by
  induction x generalizing exchanges with
  | done value => exact Iff.rfl
  | note entry rest ih => exact ih
  | ask question next ih =>
    exact exists_congr fun answer => exists_congr fun rest => and_congr Iff.rfl (ih answer)

end Dialogue

/-- Asked the questions of these exchanges in turn, the answerer gives the answers in them, and is in
the last state then. -/
inductive Answerer.Follows (answerer : Answerer Q A σ) : σ → List (Exchange Q A) → σ → Prop
  | nil (state : σ) : Follows answerer state [] state
  | cons {question : Q} {answer : A question} {state next last : σ}
      {exchanges : List (Exchange Q A)} (hanswer : answerer question state = (answer, next))
      (hrest : Follows answerer next exchanges last) :
      Follows answerer state (⟨question, answer⟩ :: exchanges) last

/-- Exchanges follow on those that were followed before. -/
theorem Answerer.Follows.append {answerer : Answerer Q A σ} {state next last : σ}
    {first second : List (Exchange Q A)} (hfirst : answerer.Follows state first next)
    (hsecond : answerer.Follows next second last) :
    answerer.Follows state (first ++ second) last := by
  induction hfirst with
  | nil _ => exact hsecond
  | cons hanswer _ ih => exact .cons hanswer (ih hsecond)

/-- **A dialogue comes to what it is led to** by someone who gives these answers. -/
theorem Dialogue.Leads.run {answerer : Answerer Q A σ} {x : Dialogue N Q A α}
    {exchanges : List (Exchange Q A)} {result : α} {state last : σ} (hx : x.Leads exchanges result)
    (h : answerer.Follows state exchanges last) :
    (x.run answerer state).value = result ∧ (x.run answerer state).state = last ∧
      (x.run answerer state).exchanges = exchanges := by
  induction x generalizing exchanges state with
  | done _ =>
    obtain ⟨rfl, rfl⟩ := hx
    cases h
    exact ⟨rfl, rfl, rfl⟩
  | note entry rest ih => exact ih hx h
  | ask question next ih =>
    obtain ⟨answer, rest, rfl, hrest⟩ := hx
    cases h with
    | cons hanswer hfollows =>
      obtain ⟨hvalue, hstate, hexchanges⟩ := ih answer hrest hfollows
      -- The answer given is the one that leads on.
      rw [Dialogue.exchanges_run_ask, Dialogue.run_ask, hanswer, hexchanges]
      exact ⟨hvalue, hstate, rfl⟩

end Triage
