import Triage.Dialogue
import Triage.Note
import Triage.Text.Utf8

namespace Triage

/-!
# Event files

* `FileState` — what a path leads to.
* `EventError` — why no event or no number is to be had.
* `Payload.read` — the event in a file.
* `EventLoader` — reads its file on the first success and keeps what it read.
-/

/-- What a path leads to. -/
inductive FileState
  /-- Nothing, or nothing that can be reached. -/
  | absent
  | directory
  | file (bytes : List UInt8)
  deriving DecidableEq, Repr

/-- Why no event, or no number in it, is to be had. -/
inductive EventError
  | unreadable (path : String)
  | malformed (path : String)
  | noNumber
  deriving DecidableEq, Repr

/-- The wording of each cause. -/
def EventError.message : EventError → String
  | .unreadable path => "failed to read event file " ++ path
  | .malformed path => "failed to parse event file " ++ path
  | .noNumber => "event payload carries neither issue.number nor pull_request.number"

/-- The text of a file. There is none if the bytes are not UTF-8. -/
def FileState.text? : FileState → Option String
  | .file bytes => Text.strict? (Text.decodeUtf8 bytes)
  | _ => none

/-- The event in the file that a path leads to. -/
def Payload.read (path : String) (state : FileState) : Except EventError Payload :=
  match state.text? with
  | none => .error (.unreadable path)
  | some text =>
    match Json.Value.ofString? text with
    | none => .error (.malformed path)
    | some raw => .ok ⟨raw⟩

/-- The number in an event. -/
def Payload.number (payload : Payload) : Except EventError Nat :=
  match payload.number? with
  | some n => .ok n
  | none => .error .noNumber

/-- A path, and the event once it has been read. -/
structure EventLoader where
  path : String
  kept : Option Payload

namespace EventLoader

/-- A loader that has not read its file yet. -/
def atPath (path : String) : EventLoader := ⟨path, none⟩

/-- A loader for an event that is known already; it has no file. -/
def ofPayload (payload : Payload) : EventLoader := ⟨"", some payload⟩

/-- The event, with the loader that keeps it. The file matters, and is noted, only until it has once
been read. -/
def load {Q : Type} {A : Q → Type} (loader : EventLoader) (state : FileState) :
    Dialogue Note Q A (Except EventError Payload × EventLoader) :=
  match loader.kept with
  | some payload => .done (.ok payload, loader)
  | none =>
    match Payload.read loader.path state with
    | .ok payload =>
      .note (.eventLoaded loader.path payload.raw)
        (.done (.ok payload, { loader with kept := some payload }))
    | .error e => .done (.error e, loader)

end EventLoader

end Triage
