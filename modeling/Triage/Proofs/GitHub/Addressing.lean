import Triage.Proofs.GitHub.Checks
import Triage.Proofs.GitHub.Streams
import Triage.Proofs.Http.Paths

namespace Triage

open Http Json

/-!
# Which repository a request addresses

The owner and the name of a repository are put into the address of a call as they are, and the address
is read again.  So a request addresses the repository exactly if an address passes both on.

* `Addresses` — the path of a call, by the texts that the owner and the name are read as.
* `Addresses.unique` — a path addresses one repository and one issue.
* `path_request?` — the path of the request of a call.
* `addresses_iff` — it addresses the repository exactly if the owner and the name are passed on.
* `sent_addresses_iff` — whatever is answered, this holds of all requests that are sent for a call.
-/

/-- An address passes on the owner and the name. -/
def Repository.IsPassedOn (repository : Repository) : Prop :=
  Http.IsPassedOn repository.owner.toList ∧ Http.IsPassedOn repository.name.toList

instance (repository : Repository) : Decidable repository.IsPassedOn :=
  inferInstanceAs (Decidable (_ ∧ _))

/-- Letters, digits, dashes and underscores are passed on. -/
theorem Http.isPassedOn_of_plain {segment : List Char}
    (h : ∀ c ∈ segment, isPlainChar c = true) : IsPassedOn segment := by
  have hdot : '.' ∉ segment := fun hmem => absurd (h '.' hmem) (by decide)
  have hpercent : '%' ∉ segment := fun hmem => absurd (h '%' hmem) (by decide)
  refine ⟨⟨?_, ?_⟩, ?_, ?_⟩
  · rintro rfl
    exact hdot List.mem_cons_self
  · rintro rfl
    exact hdot List.mem_cons_self
  · intro c hc hmark
    have hplain : ∀ mark ∈ addressMarks, isPlainChar mark = false :=
      List.all_iff_forall_prop.1 (by decide)
    exact absurd (h c hc) (Bool.eq_false_iff.1 (hplain c hmark))
  · -- An escape has a percent sign.
    rintro ⟨before, after, rfl, -⟩
    exact hpercent (List.mem_append_right _ List.mem_cons_self)

namespace GitHub

/-- The number of the issue that a call is about. -/
def issueNumber : TrackerCall → Nat
  | .fetch number | .addLabel number _ | .comment number _ | .close number => number

/-- The path is that of a call on an issue of the repository: the segments are those of the call, and
between them the owner and the name, which may be written otherwise but are read as they are. -/
def Addresses (repository : Repository) (call : TrackerCall) (path : List Char) : Prop :=
  ∃ owner name, path = pathText ("repos".toList :: owner :: name :: callSegments call) ∧
    '/' ∉ owner ∧ '/' ∉ name ∧ percentDecode owner = Text.utf8 repository.owner.toList ∧
    percentDecode name = Text.utf8 repository.name.toList

variable {repository : Repository} {call : TrackerCall} {path : List Char}

/-- In the segments of a call there is no slash. -/
theorem slash_not_mem_callSegments (call : TrackerCall) :
    ∀ segment ∈ "repos".toList :: callSegments call, '/' ∉ segment := by
  intro segment hsegment hslash
  have hplain : ArePlain ("repos".toList :: callSegments call) :=
    arePlain_cons.2 ⟨arePlain_repos _ List.mem_cons_self, arePlain_callSegments call⟩
  exact absurd ((hplain segment hsegment).2 '/' hslash) (by decide)

/-- In the segments of a path there is no slash, if the owner and the name hold none. -/
theorem slash_not_mem_path {owner name : List Char} (howner : '/' ∉ owner) (hname : '/' ∉ name)
    (call : TrackerCall) :
    ∀ segment ∈ "repos".toList :: owner :: name :: callSegments call, '/' ∉ segment := by
  have hcall := List.forall_mem_cons.1 (slash_not_mem_callSegments call)
  exact List.forall_mem_cons.2 ⟨hcall.1, List.forall_mem_cons.2 ⟨howner,
    List.forall_mem_cons.2 ⟨hname, hcall.2⟩⟩⟩

/-- The segments of every call start with the number of its issue. -/
theorem callSegments_eq_cons (call : TrackerCall) :
    ∃ rest, callSegments call = "issues".toList :: Nat.toDigits 10 (issueNumber call) :: rest := by
  cases call <;> exact ⟨_, rfl⟩

/-- **A path addresses one repository and one issue.** -/
theorem Addresses.unique {repository' : Repository} {call' : TrackerCall}
    (h : Addresses repository call path) (h' : Addresses repository' call' path) :
    repository = repository' ∧ issueNumber call = issueNumber call' := by
  obtain ⟨owner, name, rfl, howner, hname, howner_eq, hname_eq⟩ := h
  obtain ⟨owner', name', hpath, howner', hname', howner_eq', hname_eq'⟩ := h'
  -- Without slashes in them, the segments of a path are known from it.
  have hsegments := pathText_inj (slash_not_mem_path howner hname call)
    (slash_not_mem_path howner' hname' call') hpath
  obtain ⟨rest, hrest⟩ := callSegments_eq_cons call
  obtain ⟨rest', hrest'⟩ := callSegments_eq_cons call'
  rw [hrest, hrest'] at hsegments
  simp only [List.cons.injEq, true_and] at hsegments
  obtain ⟨rfl, rfl, hnumber, -⟩ := hsegments
  constructor
  · have hsame_owner := Text.utf8_injective (howner_eq.symm.trans howner_eq')
    have hsame_name := Text.utf8_injective (hname_eq.symm.trans hname_eq')
    cases repository
    cases repository'
    exact congrArg₂ _ (String.toList_inj.1 hsame_owner) (String.toList_inj.1 hsame_name)
  · -- The number is read back from its digits.
    have hdigits := congrArg (Nat.ofDigitChars 10 · 0) hnumber
    simpa only [Nat.ofDigitChars_ten_toDigits] using hdigits

/-! ### The address of a call -/

/-- The path that a call comes to in an address. -/
def askedPath (repository : Repository) (call : TrackerCall) : List Char :=
  pathOf (pathPart (pathText (segments repository call)))

/-- The segments of a call besides the owner and the name are passed on. -/
theorem isPassedOn_callSegments (call : TrackerCall) :
    ∀ segment ∈ "repos".toList :: callSegments call, IsPassedOn segment :=
  List.forall_mem_cons.2 ⟨isPassedOn_of_plain (arePlain_repos _ List.mem_cons_self).2,
    fun segment hsegment => isPassedOn_of_plain (arePlain_callSegments call segment hsegment).2⟩

/-- All segments of a path are passed on exactly if the owner and the name are. -/
theorem isPassedOn_segments_iff (repository : Repository) (call : TrackerCall) :
    (∀ segment ∈ segments repository call, IsPassedOn segment) ↔ repository.IsPassedOn := by
  obtain ⟨hrepos, hcall⟩ := List.forall_mem_cons.1 (isPassedOn_callSegments call)
  simp only [segments, List.forall_mem_cons, Repository.IsPassedOn]
  exact ⟨fun h => ⟨h.2.1, h.2.2.1⟩, fun h => ⟨hrepos, h.1, h.2, hcall⟩⟩

/-- Of the segments of a call only the owner and the name may be written otherwise. -/
theorem map_percentEncode_segments (repository : Repository) (call : TrackerCall) :
    (segments repository call).map (percentEncode isReservedInPath)
      = "repos".toList :: percentEncode isReservedInPath repository.owner.toList
        :: percentEncode isReservedInPath repository.name.toList :: callSegments call := by
  have hcall : (callSegments call).map (percentEncode isReservedInPath) = callSegments call := by
    have hsafe := (arePlain_callSegments call).areSafe
    exact (List.map_congr_left fun segment hsegment =>
      percentEncode_of_safe (hsafe segment hsegment).2).trans (List.map_id _)
  have hrepos : percentEncode isReservedInPath "repos".toList = "repos".toList :=
    percentEncode_of_safe (arePlain_repos.areSafe _ List.mem_cons_self).2
  rw [segments, List.map_cons, List.map_cons, List.map_cons, hcall, hrepos]

/-- **The path of a call addresses the repository exactly if the owner and the name are passed on.** -/
theorem addresses_askedPath_iff (howner : '/' ∉ repository.owner.toList)
    (hname : '/' ∉ repository.name.toList) :
    Addresses repository call (askedPath repository call) ↔ repository.IsPassedOn := by
  have hslash : ∀ segment ∈ segments repository call, '/' ∉ segment :=
    slash_not_mem_path howner hname call
  have hne : segments repository call ≠ [] := List.cons_ne_nil _ _
  rw [← isPassedOn_segments_iff repository call]
  constructor
  · rintro ⟨owner, name, hpath, howner', hname', howner_eq, hname_eq⟩
    refine (standsFor_asked_iff hne hslash).1
      ⟨_, hpath, slash_not_mem_path howner' hname' call, ?_⟩
    -- The other segments are plain, so they are read as they are.
    have hread : ∀ segment ∈ "repos".toList :: callSegments call,
        percentDecode segment = Text.utf8 segment := fun segment hsegment =>
      percentDecode_eq_utf8 (isPassedOn_callSegments call segment hsegment).noEscape
    obtain ⟨hrepos, hcall⟩ := List.forall_mem_cons.1 hread
    rw [segments, List.map_cons, List.map_cons, List.map_cons, hrepos, howner_eq, hname_eq,
      List.map_congr_left hcall]
    rfl
  · intro h
    have hpath : askedPath repository call
        = pathText ("repos".toList :: percentEncode isReservedInPath repository.owner.toList
            :: percentEncode isReservedInPath repository.name.toList :: callSegments call) := by
      rw [askedPath, pathPart_of_passedOn h, pathOf_of_passedOn hne hslash h,
        map_percentEncode_segments]
    obtain ⟨hpassed_owner, hpassed_name⟩ := (isPassedOn_segments_iff repository call).1 h
    refine ⟨_, _, hpath, slash_not_mem_percentEncode howner, slash_not_mem_percentEncode hname, ?_, ?_⟩
    · rw [percentDecode_percentEncode, percentDecode_eq_utf8 hpassed_owner.noEscape]
    · rw [percentDecode_percentEncode, percentDecode_eq_utf8 hpassed_name.noEscape]

/-- A client of a server, for a repository that was read from a slug. -/
structure IsClientAt (site : Site) (client : Client) : Prop where
  base : withoutSlashes client.base = site.text
  slug : ∃ raw, Repository.parse? raw = some client.repository

section Client

variable {site : Site} {client : Client} (hclient : IsClientAt site client)
include hclient

/-- The address of a call is one of the server, unless it is too long. -/
theorem parse?_address (call : TrackerCall) :
    let text := (pathText (segments client.repository call)).filter isKept
    Url.parse? (client.address call)
      = if maxAddress < site.url.origin.length + (targetOf text).length + (fragmentOf text).length
        then none
        else some (site.asked (targetOf text)) := by
  intro text
  -- The path ends with a segment that holds no blanks.
  obtain ⟨init, last, hcall⟩ : ∃ init last, callSegments call = init ++ [last] := by
    obtain ⟨rest, hrest⟩ := callSegments_eq_cons call
    exact ⟨_, _, (List.dropLast_append_getLast (hrest ▸ List.cons_ne_nil _ _)).symm⟩
  obtain ⟨hne, hplain⟩ := arePlain_callSegments call last (by rw [hcall]; exact List.mem_concat_self)
  obtain ⟨rest, hpath⟩ : ∃ rest, pathText (segments client.repository call) = '/' :: (rest ++ last) :=
    ⟨"repos".toList ++ pathText
      (client.repository.owner.toList :: client.repository.name.toList :: init) ++ ['/'],
      by simp [segments, hcall, pathText]⟩
  have hbare : '/' :: bareEnd (rest ++ last) = text := by
    have hsolid : ∀ c ∈ last, 0x20 < c.toNat := fun c hc =>
      lt_toNat_of_isSafeChar (isSafeChar_of_isPlainChar (hplain c hc))
    rw [bareEnd_append rest hne hsolid]
    show '/' :: (rest ++ last).filter isKept = (pathText _).filter isKept
    rw [hpath]
    rfl
  have haddress : client.address call = site.text ++ String.ofList ('/' :: (rest ++ last)) := by
    rw [Client.address, hclient.base, ← hpath, ← toList_path, String.ofList_toList]
    simp only [String.append_assoc]
  rw [haddress, site.parse?_path, hbare]

/-- The path of the request of a call is what an address makes of it. -/
theorem path_request? {call : TrackerCall} {request : Request}
    (h : client.request? call = some request) :
    request.url.path = askedPath client.repository call := by
  obtain ⟨url, hurl, rfl⟩ := Option.map_eq_some_iff.1 h
  rw [parse?_address hclient] at hurl
  -- The address is too long, or it is as asked.
  split at hurl
  · cases hurl
  · obtain rfl := Option.some.inj hurl
    exact path_asked site _

/-- The address of a call that addresses the repository, in writing and without credentials. -/
def addressText (site : Site) (repository : Repository) (call : TrackerCall) : List Char :=
  site.url.origin ++ pathText ("repos".toList
    :: percentEncode isReservedInPath repository.owner.toList
    :: percentEncode isReservedInPath repository.name.toList :: callSegments call)

/-- A call on a repository that is passed on has a request unless its address is too long. -/
theorem request?_eq_none_iff (h : client.repository.IsPassedOn) (call : TrackerCall) :
    client.request? call = none ↔
      maxAddress < (addressText site client.repository call).length := by
  obtain ⟨raw, hraw⟩ := hclient.slug
  obtain ⟨howner, hname⟩ := Repository.not_mem_of_parse? hraw
  have hslash : ∀ segment ∈ segments client.repository call, '/' ∉ segment :=
    slash_not_mem_path howner hname call
  have hne : segments client.repository call ≠ [] := List.cons_ne_nil _ _
  obtain ⟨htarget, hfragment⟩ :=
    targetOf_of_passedOn hne hslash ((isPassedOn_segments_iff _ _).2 h)
  rw [map_percentEncode_segments] at htarget
  rw [Client.request?, Option.map_eq_none_iff, parse?_address hclient, htarget, hfragment]
  simp [addressText]

variable (call : TrackerCall) {σ : Type} (answerer : Answerer Sending (fun _ => Delivery) σ)
  (state : σ)

/-- Whatever is answered, the same path is asked for each time. -/
theorem path_of_mem_exchanges {exchange : SentRequest}
    (h : exchange ∈ ((client.answer call).run answerer state).exchanges) :
    exchange.1.request.url.path = askedPath client.repository call := by
  have hanswered := (answer_ensures client).run answerer state call
  obtain ⟨request, earlier, hrequest, hnumbered⟩ := hanswered.sentFor.exists_request_of_mem h
  rw [hnumbered]
  show request.url.path = _
  exact path_request? hclient hrequest

/-- Whatever is answered, a request that was sent addresses the repository exactly if the owner and the
name are passed on. -/
theorem addresses_iff_of_mem_exchanges {exchange : SentRequest}
    (h : exchange ∈ ((client.answer call).run answerer state).exchanges) :
    Addresses client.repository call exchange.1.request.url.path ↔
      client.repository.IsPassedOn := by
  obtain ⟨raw, hraw⟩ := hclient.slug
  obtain ⟨howner, hname⟩ := Repository.not_mem_of_parse? hraw
  rw [path_of_mem_exchanges hclient call answerer state h]
  exact addresses_askedPath_iff howner hname

/-- If owner and name are passed on, then nothing is sent exactly if the address is too long. -/
theorem exchanges_eq_nil_iff (hpassed : client.repository.IsPassedOn) :
    ((client.answer call).run answerer state).exchanges = [] ↔
      maxAddress < (addressText site client.repository call).length := by
  rw [← request?_eq_none_iff hclient hpassed]
  generalize hsent : ((client.answer call).run answerer state).exchanges = sent
  have hanswered := (answer_ensures client).run answerer state call
  rw [hsent] at hanswered
  -- For a call without a request nothing is sent, else something is.
  cases hanswered.sentFor with
  | unsent hrequest => exact iff_of_true rfl hrequest
  | sent hrequest hne _ => exact iff_of_false hne (by simp [hrequest])

end Client

/-! ### Requests -/

/-- **A request addresses the repository exactly if its owner and its name are passed on.**  This holds
of every request that is sent for a call, whatever is answered.  If they are passed on, a request is
sent unless its address is too long, and requests for other repositories and other issues ask for other
paths. -/
theorem sent_addresses_iff (site : Site) (client : Client) (hclient : IsClientAt site client)
    (call : TrackerCall) {σ : Type} (answerer : Answerer Sending (fun _ => Delivery) σ) (state : σ) :
    let sent := ((client.answer call).run answerer state).exchanges
    (∀ exchange ∈ sent, Addresses client.repository call exchange.1.request.url.path ↔
      client.repository.IsPassedOn) ∧
    (client.repository.IsPassedOn →
      (sent = [] ↔ maxAddress < (addressText site client.repository call).length)) ∧
    ∀ (site' : Site) (client' : Client), IsClientAt site' client' →
      client.repository.IsPassedOn → client'.repository.IsPassedOn →
      ∀ (call' : TrackerCall) {σ' : Type} (answerer' : Answerer Sending (fun _ => Delivery) σ')
        (state' : σ'), ∀ exchange ∈ sent,
        ∀ exchange' ∈ ((client'.answer call').run answerer' state').exchanges,
          exchange.1.request.url.path = exchange'.1.request.url.path →
          client.repository = client'.repository ∧ issueNumber call = issueNumber call' := by
  intro sent
  have haddresses : ∀ exchange ∈ sent,
      Addresses client.repository call exchange.1.request.url.path ↔
        client.repository.IsPassedOn := fun _ hmem =>
    addresses_iff_of_mem_exchanges hclient call answerer state hmem
  refine ⟨haddresses, exchanges_eq_nil_iff hclient call answerer state, ?_⟩
  intro site' client' hclient' hpassed hpassed' call' σ' answerer' state' exchange hmem exchange'
    hmem' hpath
  have h := (haddresses exchange hmem).2 hpassed
  have h' := (addresses_iff_of_mem_exchanges hclient' call' answerer' state' hmem').2 hpassed'
  exact h.unique (hpath ▸ h')

/-- What a client on the machine itself sends to fetch an issue, if every connection breaks off. -/
def fetchesOf (repository : Repository) : List SentRequest :=
  (((clientOf (patientConfigFor repository) repository "t").answer (.fetch 7)).run
    (stream fun _ => .dropped) 0).exchanges

/-- A repository that was read from a slug has a client on the machine itself. -/
theorem isClientAt_machine {raw : String} {repository : Repository}
    (h : Repository.parse? raw = some repository) :
    IsClientAt ⟨false, .machine⟩ (clientOf (patientConfigFor repository) repository "t") := by
  have hbase : withoutSlashes patientConfig.apiBase = (Site.mk false .machine).text := by decide
  exact ⟨hbase, raw, h⟩

/-- A percent sign alone and a letter with an accent are passed on. -/
theorem addresses_fetchesOf_accented :
    ∃ exchange ∈ fetchesOf ⟨"o%", "é"⟩,
      exchange.1.request.url.target = "/repos/o%/%C3%A9/issues/7" ∧
        Addresses ⟨"o%", "é"⟩ (.fetch 7) exchange.1.request.url.path := by
  have hparse : Repository.parse? "o%/é" = some ⟨"o%", "é"⟩ := by decide +kernel
  have hpassed : Repository.IsPassedOn ⟨"o%", "é"⟩ := by decide
  obtain ⟨haddresses, -, -⟩ := sent_addresses_iff ⟨false, .machine⟩ _ (isClientAt_machine hparse)
    (.fetch 7) (stream fun _ => .dropped) 0
  have htargets : (fetchesOf ⟨"o%", "é"⟩).map (·.1.request.url.target)
      = ["/repos/o%/%C3%A9/issues/7"] := by decide +kernel
  obtain ⟨exchange, hmem, htarget⟩ : ∃ exchange ∈ fetchesOf ⟨"o%", "é"⟩,
      exchange.1.request.url.target = "/repos/o%/%C3%A9/issues/7" :=
    List.mem_map.1 (htargets ▸ List.mem_cons_self)
  exact ⟨exchange, hmem, htarget, (haddresses exchange hmem).2 hpassed⟩

/-- Two repositories whose owners hold a question mark are read from their slugs, and both their issues
are asked for under one path, which addresses neither of them. -/
theorem fetchesOf_share_path :
    Repository.parse? "o?a/r" = some ⟨"o?a", "r"⟩ ∧ Repository.parse? "o?b/r" = some ⟨"o?b", "r"⟩ ∧
      (fetchesOf ⟨"o?a", "r"⟩).map (·.1.request.url.path) = ["/repos/o".toList] ∧
      (fetchesOf ⟨"o?b", "r"⟩).map (·.1.request.url.path) = ["/repos/o".toList] ∧
      ¬ Addresses ⟨"o?a", "r"⟩ (.fetch 7) "/repos/o".toList := by
  refine ⟨by decide +kernel, by decide +kernel, by decide +kernel, by decide +kernel, ?_⟩
  rintro ⟨owner, name, hpath, howner, hname, -, -⟩
  have hslash : ∀ segment ∈ ["repos".toList, "o".toList], '/' ∉ segment := by decide
  -- The path has two segments, and that of a call more.
  have hsegments := pathText_inj hslash (slash_not_mem_path howner hname (.fetch 7)) hpath
  exact absurd (congrArg List.length hsegments) (by simp [callSegments])

end GitHub

end Triage
