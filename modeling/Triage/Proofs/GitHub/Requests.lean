import Triage.GitHub.Client
import Triage.Proofs.Http.Address
import Triage.Proofs.Json.Reading
import Triage.Proofs.Repository

namespace Triage

open Http Json

/-!
# What requests denote

* `Repository.IsPlain` — an owner and a name that stand for themselves in an address;
  `Repository.IsPlain.parse?_slug` — and in a slug.
* `callSegments`, `segments` — the path of a call.
* `calledBy?` — the call that a request to a repository denotes, by its method, its path and its body.
* `request?_eq` — a call has a request unless its address is too long.
* `calledBy?_requestOf` — which denotes that call.
-/

/-- An owner and a name of letters, digits, dashes and underscores. -/
structure Repository.IsPlain (repository : Repository) : Prop where
  owner_ne : repository.owner.toList ≠ []
  name_ne : repository.name.toList ≠ []
  owner : ∀ c ∈ repository.owner.toList, isPlainChar c = true
  name : ∀ c ∈ repository.name.toList, isPlainChar c = true

/-- An owner and a name that an address takes as they are: no character in them is written otherwise,
and they are no dot segments. -/
def Repository.IsSafe (repository : Repository) : Prop :=
  AreSafe [repository.owner.toList, repository.name.toList]

/-- What is plain is safe. -/
theorem Repository.IsPlain.isSafe {repository : Repository} (h : repository.IsPlain) :
    repository.IsSafe := by
  have hsegments : ArePlain [repository.owner.toList, repository.name.toList] :=
    arePlain_cons.2 ⟨⟨h.owner_ne, h.owner⟩, arePlain_cons.2 ⟨⟨h.name_ne, h.name⟩, by simp [ArePlain]⟩⟩
  exact hsegments.areSafe

/-- A plain character is no white space. -/
theorem Http.isBlank_of_isPlainChar {c : Char} (h : isPlainChar c = true) :
    Text.isBlank c = false := by
  have hrange := toNat_of_isPlainChar h
  -- All white space is outside of the range of plain characters.
  simp only [Text.isBlank, Text.inRanges, Text.blankRanges, List.any_cons, List.any_nil,
    Bool.or_false, Bool.or_eq_false_iff, Bool.and_eq_false_iff, decide_eq_false_iff_not]
  omega

/-- Letters, digits, dashes and underscores make an owner or a name. -/
theorem Repository.isPart_of_plain {part : String} (hne : part.toList ≠ [])
    (h : ∀ c ∈ part.toList, isPlainChar c = true) : IsPart part where
  ne_nil := hne
  noSlash hmem := absurd (h '/' hmem) (by decide)
  trimmed := Text.isTrimmed_of_forall fun c hc => isBlank_of_isPlainChar (h c hc)

/-- **A plain repository is read from its slug.** -/
theorem Repository.IsPlain.parse?_slug {repository : Repository} (h : repository.IsPlain) :
    Repository.parse? repository.slug = some repository :=
  Repository.parse?_slug (isPart_of_plain h.owner_ne h.owner) (isPart_of_plain h.name_ne h.name)

namespace GitHub

/-! ### Paths -/

/-- The path of a call below the repository. -/
def callSegments : TrackerCall → List (List Char)
  | .fetch number | .close number => ["issues".toList, Nat.toDigits 10 number]
  | .addLabel number _ => ["issues".toList, Nat.toDigits 10 number, "labels".toList]
  | .comment number _ => ["issues".toList, Nat.toDigits 10 number, "comments".toList]

/-- The path of a call. -/
def segments (repository : Repository) (call : TrackerCall) : List (List Char) :=
  "repos".toList :: repository.owner.toList :: repository.name.toList :: callSegments call

/-- The digits of a number are plain. -/
theorem isPlain_toDigits (number : Nat) :
    Nat.toDigits 10 number ≠ [] ∧ ∀ c ∈ Nat.toDigits 10 number, isPlainChar c = true := by
  refine ⟨Nat.toDigits_ne_nil, fun c hmem => ?_⟩
  simp [isPlainChar, Char.isAlphanum, isDigit_of_mem_toDigits hmem]

/-- The first segment of a path is plain. -/
theorem arePlain_repos : ArePlain ["repos".toList] := by
  intro segment hmem
  rw [List.mem_singleton.1 hmem]
  exact ⟨by decide, List.all_iff_forall_prop.1 (by decide)⟩

/-- The segments of a call are plain. -/
theorem arePlain_callSegments (call : TrackerCall) : ArePlain (callSegments call) := by
  have hissues : "issues".toList ≠ [] ∧ ∀ c ∈ "issues".toList, isPlainChar c = true :=
    ⟨by decide, List.all_iff_forall_prop.1 (by decide)⟩
  have hnone : ArePlain [] := by simp [ArePlain]
  have hlabels : ArePlain ["labels".toList] :=
    arePlain_cons.2 ⟨⟨by decide, List.all_iff_forall_prop.1 (by decide)⟩, hnone⟩
  have hcomments : ArePlain ["comments".toList] :=
    arePlain_cons.2 ⟨⟨by decide, List.all_iff_forall_prop.1 (by decide)⟩, hnone⟩
  cases call with
  | fetch number => exact arePlain_cons.2 ⟨hissues, arePlain_cons.2 ⟨isPlain_toDigits _, hnone⟩⟩
  | addLabel number label =>
    exact arePlain_cons.2 ⟨hissues, arePlain_cons.2 ⟨isPlain_toDigits _, hlabels⟩⟩
  | comment number text =>
    exact arePlain_cons.2 ⟨hissues, arePlain_cons.2 ⟨isPlain_toDigits _, hcomments⟩⟩
  | close number => exact arePlain_cons.2 ⟨hissues, arePlain_cons.2 ⟨isPlain_toDigits _, hnone⟩⟩

/-- All segments of a path are plain, if the repository is. -/
theorem arePlain_segments {repository : Repository} (h : repository.IsPlain) (call : TrackerCall) :
    ArePlain (segments repository call) :=
  arePlain_cons.2 ⟨arePlain_repos _ List.mem_cons_self, arePlain_cons.2 ⟨⟨h.owner_ne, h.owner⟩,
    arePlain_cons.2 ⟨⟨h.name_ne, h.name⟩, arePlain_callSegments call⟩⟩⟩

/-- The path of a call stands for itself if the owner and the name do. -/
theorem areSafe_segments {repository : Repository} (h : repository.IsSafe) (call : TrackerCall) :
    AreSafe (segments repository call) := by
  have hrepos := arePlain_repos.areSafe _ List.mem_cons_self
  have howner := h _ List.mem_cons_self
  have hname := h _ (List.mem_cons_of_mem _ List.mem_cons_self)
  have hcall := (arePlain_callSegments call).areSafe
  exact areSafe_cons.2 ⟨hrepos, areSafe_cons.2 ⟨howner, areSafe_cons.2 ⟨hname, hcall⟩⟩⟩

/-- The path of a call is that of its segments. -/
theorem toList_path (repository : Repository) (call : TrackerCall) :
    ("/repos/" ++ repository.slug ++ path call).toList = pathText (segments repository call) := by
  cases call <;> simp [Repository.slug, path, pathText, segments, callSegments]

/-- The address of a call is that of the server and a plain path. -/
theorem address_eq {client : Client} {origin : Origin}
    (hbase : withoutSlashes client.base = origin.text) (call : TrackerCall) :
    client.address call = String.ofList
      ("http://".toList ++ (origin.authority ++ pathText (segments client.repository call))) := by
  have hpath := toList_path client.repository call
  have htext : origin.text.toList = "http://".toList ++ origin.authority := String.toList_ofList
  rw [Client.address, hbase, ← String.toList_inj, String.toList_ofList, ← hpath,
    ← List.append_assoc, ← htext]
  simp only [String.toList_append, List.append_assoc]

/-- The address of a call in writing, without credentials. -/
def written (origin : Origin) (repository : Repository) (call : TrackerCall) : List Char :=
  origin.url.origin ++ pathText (segments repository call)

/-! ### Requests -/

/-- The number whose decimal writing this is. -/
def writtenNumber? (digits : List Char) : Option Nat :=
  let number := Nat.ofDigitChars 10 digits 0
  if Nat.toDigits 10 number = digits then some number else none

/-- The call on an issue that a method, the rest of a path, and a body denote. -/
def calledOn? (method : String) (rest : List (List Char)) (body : String) (number : Nat) :
    Option TrackerCall :=
  if method = "GET" ∧ rest = [] ∧ body = "" then some (.fetch number)
  else
    match Value.ofString? body with
    | some (.object [("labels", .array [.string label])]) =>
      if method = "POST" ∧ rest = ["labels".toList] then some (.addLabel number label) else none
    | some (.object [("body", .string text)]) =>
      if method = "POST" ∧ rest = ["comments".toList] then some (.comment number text) else none
    | some (.object [("state", .string state)]) =>
      if method = "PATCH" ∧ rest = [] ∧ state = "closed" then some (.close number) else none
    | _ => none

/-- The call that a request to a repository denotes. -/
def calledBy? (repository : Repository) (request : Request) : Option TrackerCall :=
  match Text.splitBy (· == '/') (request.url.target.toList.drop 1) with
  | repos :: owner :: name :: issues :: digits :: rest =>
    if [repos, owner, name, issues]
        = ["repos".toList, repository.owner.toList, repository.name.toList, "issues".toList] then
      (writtenNumber? digits).bind (calledOn? request.method rest request.body)
    else none
  | _ => none

/-- The number of the attempt does not matter to what is called. -/
theorem calledBy?_numbered (repository : Repository) (request : Request) (earlier : Nat) :
    calledBy? repository (numbered request earlier) = calledBy? repository request := rfl

/-- The request of a call at a server. -/
def requestOf (origin : Origin) (client : Client) (call : TrackerCall) : Request where
  method := method call
  url := origin.asked (pathText (segments client.repository call))
  headers := client.headers (origin.asked []) (payload? call).isSome
  body := ((payload? call).map Value.text).getD ""

/-- **A call has a request** unless its address is too long, if its path stands for itself. -/
theorem request?_of_areSafe {client : Client} {origin : Origin}
    (hbase : withoutSlashes client.base = origin.text) {call : TrackerCall}
    (hsafe : AreSafe (segments client.repository call)) :
    client.request? call
      = if maxAddress < (written origin client.repository call).length then none
        else some (requestOf origin client call) := by
  have hne : segments client.repository call ≠ [] := List.cons_ne_nil _ _
  rw [Client.request?, address_eq hbase, origin.parse?_pathText hne hsafe, written]
  -- Both sides ask how long the address is.
  split
  · rfl
  · rfl

/-- On a plain repository a call has a request unless its address is too long. -/
theorem request?_eq {client : Client} {origin : Origin}
    (hbase : withoutSlashes client.base = origin.text) (hplain : client.repository.IsPlain)
    (call : TrackerCall) :
    client.request? call
      = if maxAddress < (written origin client.repository call).length then none
        else some (requestOf origin client call) :=
  request?_of_areSafe hbase (arePlain_segments hplain call).areSafe

/-- **Every request states the token**, whatever the repository is called, if the address of the server
states no other credentials. -/
theorem lookup_authorization {client : Client} {origin : Origin}
    (hbase : withoutSlashes client.base = origin.text) (hcredentials : origin.url.credentials = none)
    {call : TrackerCall} {request : Request} (h : client.request? call = some request)
    (earlier : Nat) :
    (numbered request earlier).headers.lookup "authorization" = some ("Bearer " ++ client.token) := by
  obtain ⟨url, hurl, rfl⟩ := Option.map_eq_some_iff.1 h
  -- The path starts with a slash, so it is not taken for a part of the server's name.
  rw [address_eq hbase] at hurl
  obtain ⟨target, rfl⟩ := origin.eq_asked_of_parse? hurl
  have hauthorization : client.authorization (origin.asked target) = "Bearer " ++ client.token := by
    rw [Client.authorization, Origin.asked, hcredentials]
  rw [← hauthorization]
  rfl

/-- A number is read back from its digits. -/
theorem writtenNumber?_toDigits (number : Nat) :
    writtenNumber? (Nat.toDigits 10 number) = some number := by
  rw [writtenNumber?, Nat.ofDigitChars_ten_toDigits, if_pos rfl]

/-- **What is sent with a call is read back from its text.** -/
theorem ofString?_payload (call : TrackerCall) {value : Value} (h : payload? call = some value) :
    Value.ofString? value.text = some value := by
  refine Value.ofString?_text ?_
  -- The keys of a payload are unique, and its text is read back.
  cases call with
  | fetch number => exact nomatch h
  | addLabel number label =>
    cases h
    exact ⟨by decide, List.pairwise_singleton _ _, ⟨by decide, trivial, trivial⟩, trivial⟩
  | comment number text =>
    cases h
    exact ⟨by decide, List.pairwise_singleton _ _, trivial, trivial⟩
  | close number =>
    cases h
    exact ⟨by decide, List.pairwise_singleton _ _, trivial, trivial⟩

/-- **The request of a call denotes that call**: a label and a text are read back from its body. -/
theorem calledBy?_requestOf (origin : Origin) {client : Client}
    (hplain : client.repository.IsPlain) (call : TrackerCall) :
    calledBy? client.repository (requestOf origin client call) = some call := by
  have hsplit : Text.splitBy (· == '/')
      ((requestOf origin client call).url.target.toList.drop 1)
        = segments client.repository call := by
    show Text.splitBy _ ((String.ofList (pathText _)).toList.drop 1) = _
    rw [String.toList_ofList]
    refine splitBy_pathText (by decide) (List.cons_ne_nil _ _) fun segment hmem c hc => ?_
    have hplain := (arePlain_segments hplain call segment hmem).2 c hc
    simpa using ne_of_isPlainChar hplain (d := '/') (by decide)
  rw [calledBy?, hsplit]
  -- The path comes apart into the segments of the call, whose number and payload are read back.
  cases call with
  | fetch number =>
    simp [segments, callSegments, writtenNumber?_toDigits, requestOf, calledOn?, method, payload?]
  | addLabel number label =>
    have hread := ofString?_payload (.addLabel number label) rfl
    simp [segments, callSegments, writtenNumber?_toDigits, requestOf, calledOn?, method, payload?,
      hread]
  | comment number text =>
    have hread := ofString?_payload (.comment number text) rfl
    simp [segments, callSegments, writtenNumber?_toDigits, requestOf, calledOn?, method, payload?,
      hread]
  | close number =>
    have hread := ofString?_payload (.close number) rfl
    simp [segments, callSegments, writtenNumber?_toDigits, requestOf, calledOn?, method, payload?,
      hread]

end GitHub

end Triage
