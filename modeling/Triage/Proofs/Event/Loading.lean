import Triage.Event.File
import Triage.Proofs.Text.Utf8

namespace Triage

/-!
# Loading an event

A loader reads its file until that has succeeded once. From then on the file does not matter.

* `IsReadingOf`, `read_eq_iff` — what a file comes to: the event in it, or why there is none.
* `LoaderStep`, `EventLoader.loads` — changes of the file and loads in any order, and what each load
  comes to.
* `EventLoader.run_load_kept`, `EventLoader.run_load_fresh` — one load, with and without an event at hand.
* `IsFrozenOnSuccess`, `EventLoader.loads_frozen` — any number of them.
-/

/-! ### What a file comes to -/

/-- What reading the event in a file comes to. Nothing can be read where there is no file, or one whose
bytes are no text; and not every text is a document. -/
inductive IsReadingOf (path : String) : FileState → Except EventError Payload → Prop
  | absent : IsReadingOf path .absent (.error (.unreadable path))
  | directory : IsReadingOf path .directory (.error (.unreadable path))
  | noText {bytes : List UInt8} (h : ∀ text, bytes ≠ Text.utf8 text) :
    IsReadingOf path (.file bytes) (.error (.unreadable path))
  | malformed {text : String} (h : Json.Value.ofString? text = none) :
    IsReadingOf path (.file (Text.utf8 text.toList)) (.error (.malformed path))
  | event {text : String} {raw : Json.Value} (h : Json.Value.ofString? text = some raw) :
    IsReadingOf path (.file (Text.utf8 text.toList)) (.ok ⟨raw⟩)

/-- A file has a text exactly if its bytes are that text in UTF-8. -/
theorem text?_file_eq_some_iff {bytes : List UInt8} {text : String} :
    (FileState.file bytes).text? = some text ↔ bytes = Text.utf8 text.toList :=
  Text.strict?_decodeUtf8_eq_some_iff

/-- What is read is one of the five things that a file can come to. -/
theorem isReadingOf_read (path : String) (file : FileState) :
    IsReadingOf path file (Payload.read path file) := by
  unfold Payload.read
  cases file with
  | absent => exact .absent
  | directory => exact .directory
  | file bytes =>
    cases htext : (FileState.file bytes).text? with
    | none =>
      refine .noText fun text hbytes => ?_
      -- Bytes of a text would have been read as one.
      have hsome : (FileState.file bytes).text? = some (String.ofList text) :=
        text?_file_eq_some_iff.2 (by rw [hbytes, String.toList_ofList])
      exact absurd (htext.symm.trans hsome) (by simp)
    | some text =>
      obtain rfl := text?_file_eq_some_iff.1 htext
      dsimp only
      cases hraw : Json.Value.ofString? text with
      | none => exact .malformed hraw
      | some raw => exact .event hraw

/-- **What a file comes to is read**, and nothing else is. -/
theorem read_eq_iff {path : String} {file : FileState} {result : Except EventError Payload} :
    Payload.read path file = result ↔ IsReadingOf path file result := by
  constructor
  · rintro rfl
    exact isReadingOf_read path file
  · intro h
    unfold Payload.read
    cases h with
    | absent => rfl
    | directory => rfl
    | @noText bytes h =>
      have htext : (FileState.file bytes).text? = none :=
        Option.eq_none_iff_forall_ne_some.2 fun text htext => h _ (text?_file_eq_some_iff.1 htext)
      rw [htext]
    | malformed h =>
      rw [text?_file_eq_some_iff.2 rfl]
      simp only [h]
    | event h =>
      rw [text?_file_eq_some_iff.2 rfl]
      simp only [h]

/-! ### Steps around a loader -/

/-- The file is changed, or the event is loaded. -/
inductive LoaderStep
  | write (bytes : List UInt8)
  | remove
  | makeDirectory
  | load

/-- What the path leads to after a step. -/
def LoaderStep.fileAfter (file : FileState) : LoaderStep → FileState
  | .write bytes => .file bytes
  | .remove => .absent
  | .makeDirectory => .directory
  | .load => file

/-- What the path leads to at each of the loads. -/
def filesSeen (file : FileState) : List LoaderStep → List FileState
  | [] => []
  | .load :: rest => file :: filesSeen file rest
  | step :: rest => filesSeen (step.fileAfter file) rest

/-- One load: what the path led to, what was returned, and what was noted. -/
structure Loaded where
  file : FileState
  result : Except EventError Payload
  notes : List Note

/-- The event that was loaded. -/
def Loaded.payload? (loaded : Loaded) : Option Payload := loaded.result.toOption

namespace EventLoader

variable {Q : Type} {A : Q → Type} {σ : Type} (answerer : Answerer Q A σ)

/-- The loads among some steps. Each of them goes on with the loader that the one before leaves. -/
def loads (loader : EventLoader) (file : FileState) (state : σ) : List LoaderStep → List Loaded
  | [] => []
  | .load :: rest =>
    let outcome := (loader.load file).run answerer state
    ⟨file, outcome.value.1, outcome.notes⟩ :: loads outcome.value.2 file outcome.state rest
  | step :: rest => loads loader (step.fileAfter file) state rest

/-- An event at hand is returned, whatever the path leads to. -/
theorem run_load_kept (path : String) (payload : Payload) (file : FileState) (state : σ) :
    ((⟨path, some payload⟩ : EventLoader).load file).run answerer state
      = ⟨(.ok payload, ⟨path, some payload⟩), state, []⟩ := rfl

/-- Without one the file is read. An event is noted and kept, a failure leaves no trace. -/
theorem run_load_fresh (path : String) (file : FileState) (state : σ) :
    ((atPath path).load file).run answerer state
      = match Payload.read path file with
        | .ok payload =>
          ⟨(.ok payload, ⟨path, some payload⟩), state, [.note (.eventLoaded path payload.raw)]⟩
        | .error cause => ⟨(.error cause, atPath path), state, []⟩ := by
  show (load ⟨path, none⟩ file).run answerer state = _
  unfold load
  cases Payload.read path file <;> rfl

/-- Each load finds what the path leads to at that moment, whatever the loader holds. -/
theorem map_file_loads (loader : EventLoader) (file : FileState) (state : σ) (steps : List LoaderStep) :
    (loader.loads answerer file state steps).map (·.file) = filesSeen file steps := by
  induction steps generalizing loader file state with
  | nil => rfl
  | cons step rest ih =>
    cases step with
    | load => exact congrArg (file :: ·) (ih _ _ _)
    | write | remove | makeDirectory => exact ih _ _ _

/-- **With an event at hand nothing else is ever loaded**, and nothing is noted. -/
theorem loads_kept (path : String) (payload : Payload) (file : FileState) (state : σ)
    (steps : List LoaderStep) :
    ∀ loaded ∈ (⟨path, some payload⟩ : EventLoader).loads answerer file state steps,
      loaded.result = .ok payload ∧ loaded.notes = [] := by
  induction steps generalizing file state with
  | nil => exact fun _ h => absurd h List.not_mem_nil
  | cons step rest ih =>
    cases step with
    | load =>
      intro loaded h
      rw [loads, run_load_kept] at h
      rcases List.mem_cons.1 h with rfl | h
      · exact ⟨rfl, rfl⟩
      · exact ih file state loaded h
    | write | remove | makeDirectory => exact ih _ _

end EventLoader

/-! ### Loads until one succeeds, and after -/

/-- The loads of a loader that reads its file. As long as none has succeeded, each comes to what the file
does at that moment. What the first one that succeeds returns, all later ones return, and this event is
noted once and nothing else is. -/
structure IsFrozenOnSuccess (path : String) (all : List Loaded) : Prop where
  fresh : ∀ before one after, all = before ++ one :: after →
    (∀ earlier ∈ before, ∀ payload, earlier.result ≠ .ok payload) →
    ∀ result, one.result = result ↔ IsReadingOf path one.file result
  kept : ∀ before one after payload, all = before ++ one :: after → one.result = .ok payload →
    ∀ later ∈ after, later.result = .ok payload
  noted : all.flatMap (·.notes) =
    match all.findSome? Loaded.payload? with
    | none => []
    | some payload => [.eventLoaded path payload.raw]

namespace IsFrozenOnSuccess

variable {path : String} {file : FileState} {all : List Loaded}

/-- Where nothing is loaded, nothing is said. -/
theorem nil : IsFrozenOnSuccess path [] where
  fresh before one after h := absurd h (by simp)
  kept before one after payload h := absurd h (by simp)
  noted := rfl

/-- A failure in front leaves the loader as it was. -/
theorem cons_error {cause : EventError} (hread : Payload.read path file = .error cause)
    (h : IsFrozenOnSuccess path all) :
    IsFrozenOnSuccess path (⟨file, .error cause, []⟩ :: all) where
  fresh before one after hall hbefore := by
    -- The load in question is this one or a later one.
    cases before with
    | nil =>
      obtain ⟨rfl, -⟩ := List.cons.inj hall
      intro result
      rw [← read_eq_iff, hread]
    | cons first before =>
      obtain ⟨-, hrest⟩ := List.cons.inj hall
      exact h.fresh before one after hrest fun earlier hmem =>
        hbefore earlier (List.mem_cons_of_mem _ hmem)
  kept before one after payload hall hone := by
    cases before with
    | nil =>
      obtain ⟨rfl, -⟩ := List.cons.inj hall
      exact absurd hone (by simp)
    | cons first before =>
      obtain ⟨-, hrest⟩ := List.cons.inj hall
      exact h.kept before one after payload hrest hone
  noted := h.noted

/-- A success in front is what all later loads have to return. -/
theorem cons_ok {payload : Payload} (hread : Payload.read path file = .ok payload)
    (hall : ∀ later ∈ all, later.result = .ok payload ∧ later.notes = []) :
    IsFrozenOnSuccess path (⟨file, .ok payload, [.eventLoaded path payload.raw]⟩ :: all) where
  fresh before one after heq hbefore := by
    cases before with
    | nil =>
      obtain ⟨rfl, -⟩ := List.cons.inj heq
      intro result
      rw [← read_eq_iff, hread]
    | cons first before =>
      -- the one in front has succeeded before it
      obtain ⟨rfl, -⟩ := List.cons.inj heq
      exact absurd rfl (hbefore _ List.mem_cons_self payload)
  kept before one after other heq hone later hlater := by
    cases before with
    | nil =>
      obtain ⟨rfl, rfl⟩ := List.cons.inj heq
      exact (hall later hlater).1.trans hone
    | cons first before =>
      obtain ⟨-, rfl⟩ := List.cons.inj heq
      have hsame := (hall one (by simp)).1
      exact (hall later (by simp [hlater])).1.trans (hsame.symm.trans hone)
  noted := by
    have hquiet : all.flatMap (·.notes) = [] :=
      List.flatMap_eq_nil_iff.2 fun later hlater => (hall later hlater).2
    rw [List.flatMap_cons, hquiet]
    rfl

end IsFrozenOnSuccess

/-- **An event is read once and then frozen.** The file is changed and the event is loaded, in any order.
A loader for the path fails as long as the file calls for it and then stays with the event that it has
read; a loader for a known event returns that event. -/
theorem EventLoader.loads_frozen {Q : Type} {A : Q → Type} {σ : Type} (answerer : Answerer Q A σ)
    (path : String) (payload : Payload) (file : FileState) (state : σ) (steps : List LoaderStep) :
    let reading := (atPath path).loads answerer file state steps
    let given := (ofPayload payload).loads answerer file state steps
    reading.map (·.file) = filesSeen file steps ∧ given.map (·.file) = filesSeen file steps ∧
      IsFrozenOnSuccess path reading ∧
      ∀ loaded ∈ given, loaded.result = .ok payload ∧ loaded.notes = [] := by
  refine ⟨map_file_loads _ _ _ _ _, map_file_loads _ _ _ _ _, ?_, loads_kept _ _ _ _ _ _⟩
  -- By induction on the steps. Once a load succeeds, the others are those of a loader with an event.
  induction steps generalizing file state with
  | nil => exact .nil
  | cons step rest ih =>
    cases step with
    | load =>
      rw [loads, run_load_fresh]
      cases hread : Payload.read path file with
      | ok payload => exact .cons_ok hread (loads_kept _ _ _ _ _ _)
      | error cause => exact .cons_error hread (ih file state)
    | write | remove | makeDirectory => exact ih _ _

/-- A document that is cut off, then a whole one, then none at all. -/
example :
    let text := fun text : String => LoaderStep.write (Text.utf8 text.toList)
    let steps := [.load, text "\x7b", .load, text "\x7b\x7d", .load, .load, .makeDirectory, .load]
    let all := (EventLoader.atPath "event.json").loads (Empty.elim · : Answerer Empty (fun _ => Empty) Unit)
      .absent () steps
    all.map (·.payload?.isSome) = [false, false, true, true, true] ∧
      all.map (·.notes.length) = [0, 0, 1, 0, 0] := by
  decide +kernel

end Triage
