import Triage.GitHub.Client
import Triage.Proofs.Issue.Json
import Triage.Proofs.Run.CallOrder

namespace Triage.GitHub

open Json

/-!
# What answers say

The answer of a tracker, written as the web interface writes it, is read as that answer.

* `Tells` — the JSON in which an exchange with a tracker is answered.
* `asRead` — the exchange as the client sees it.
* `mute_read_of_tells` — the client reads that JSON as that exchange.
-/

/-- Labels in JSON. -/
def labelsJson (labels : List Label) : Value :=
  .array (labels.map fun label => .object [("name", .string label)])

/-- A comment in JSON. -/
def Comment.toJson (comment : Comment) : Value :=
  .object [("id", .ofNat comment.id), ("html_url", (comment.url.map Value.string).getD .null)]

/-- The JSON in which a call is answered: the issue that is fetched, all labels after one is added, a
comment with any number and address, and any issue that is closed. -/
inductive Tells {ε : Type} : TrackerExchange ε → Value → Prop
  | fetch (number : Nat) (issue : Issue) : Tells ⟨.fetch number, .ok issue⟩ issue.toJson
  | addLabel (number : Nat) (label : Label) (labels : List Label) :
    Tells ⟨.addLabel number label, .ok labels⟩ (labelsJson labels)
  | comment (number : Nat) (text : String) {comment : Comment}
      (hid : comment.id ≤ Text.maxWord) : Tells ⟨.comment number text, .ok ()⟩ comment.toJson
  | close (number : Nat) {issue : Issue} (hproper : issue.IsProper)
      (hclosed : issue.state = "closed") : Tells ⟨.close number, .ok ()⟩ issue.toJson

/-- An issue that is fetched is proper. -/
def FetchesProper {ε : Type} (exchange : TrackerExchange ε) : Prop :=
  ∀ number issue, exchange = ⟨.fetch number, .ok issue⟩ → issue.IsProper

/-- The answer as it is read: of an issue, a pull request member that is null counts as none. -/
def answerAsRead : (call : TrackerCall) → call.Answer → call.Answer
  | .fetch _, issue => issue.asRead
  | .addLabel .., labels => labels
  | .comment .., done => done
  | .close _, done => done

/-- The exchange as the client sees it, if the call succeeds. -/
def asRead {ε : Type} (exchange : TrackerExchange ε) : TrackerExchange CallError :=
  ⟨exchange.1, (exchange.2.map (answerAsRead exchange.1)).mapError
    fun _ => .transport (operation exchange.1)⟩

/-! ### Reading -/

/-- **The bytes of a compact writing are read as its document.** -/
theorem documentOf?_render {value : Value} (h : value.HasIntegers) :
    documentOf? (Text.utf8 value.render) = some value.document := by
  rw [documentOf?, Text.decodeUtf8_utf8, ofSymbols?_render h]

/-- Labels in JSON are read as these labels. -/
theorem labelsOfDocument?_labelsJson (labels : List Label) :
    labelsOfDocument? (labelsJson labels).document = some labels :=
  Label.mapM_ofDocument? labels

/-- A comment in JSON is read as this comment, if its number has 64 bits. -/
theorem Comment.ofDocument?_toJson {comment : Comment} (h : comment.id ≤ Text.maxWord) :
    Comment.ofDocument? comment.toJson.document = some comment := by
  have hkeys : ["id", "html_url"].Nodup := by decide
  have hid := Value.natural?_document h
  rw [Comment.ofDocument?, Comment.toJson, Value.fields?_document (by exact hkeys)]
  simp [List.lookup_cons, hid, Value.optionalString?_document]

/-- The numbers in an answer are integers. -/
theorem Tells.hasIntegers {ε : Type} {exchange : TrackerExchange ε} {value : Value}
    (h : Tells exchange value)
    (hfetched : FetchesProper exchange) :
    value.HasIntegers := by
  cases h with
  | fetch number issue => exact (hfetched number issue rfl).hasIntegers
  | addLabel number label labels => exact Label.itemsHaveIntegers labels
  | @comment number text comment hid =>
    exact ⟨hid, optionalString_hasIntegers comment.url, trivial⟩
  | close number hproper _ => exact hproper.hasIntegers

/-- **The client reads an answer as it is meant.** -/
theorem mute_read_of_tells {ε : Type} {exchange : TrackerExchange ε} {value : Value}
    (h : Tells exchange value)
    (hfetched : FetchesProper exchange) :
    (read exchange.1 (Text.utf8 value.render)).mute = .done (asRead exchange).2 := by
  have hdocument := documentOf?_render (h.hasIntegers hfetched)
  -- Each kind of answer has its own reader, and its own law that undoes the writing.
  cases h with
  | fetch number issue =>
    have hissue := Issue.ofDocument?_toJson (hfetched number issue rfl)
    simp only [read, hdocument, Option.bind_some, hissue]
    rfl
  | addLabel number label labels =>
    simp only [read, hdocument, Option.bind_some, labelsOfDocument?_labelsJson]
    rfl
  | comment number text hid =>
    simp only [read, hdocument, Option.bind_some, Comment.ofDocument?_toJson hid]
    rfl
  | @close number issue hproper hclosed =>
    -- What is read differs in the pull request at most.
    have hstate : issue.asRead.state = "closed" := hclosed
    simp only [read, hdocument, Option.bind_some, Issue.ofDocument?_toJson hproper, decoded, hstate,
      if_true]
    rfl

end Triage.GitHub
