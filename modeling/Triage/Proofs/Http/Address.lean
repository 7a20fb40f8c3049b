import Triage.Http.Url
import Mathlib.Data.Bool.AllAny
import Mathlib.Data.List.TakeWhile
import Mathlib.Tactic.Common

namespace Triage.Http

/-!
# Addresses with a plain path

A path whose segments are made of letters, digits, dashes and underscores stands for itself, and so
does every path of characters that an address takes as they are, dot segments aside.

* `isPlainChar`, `isSafeChar` — the characters of such segments.
* `pathText` — segments, each behind a slash; `splitBy_pathText` — and back.
* `pathOf_pathText` — nothing in such a path is resolved or written otherwise.
* `parse?_web`, `parse?_http` — an address is that of its server, whatever path comes after it.
* `Origin` — a server, as an address names it; `Origin.machine` — one on the machine itself.
* `Origin.parse?_pathText` — an address at a server with a safe path.
* `Site` — a server that is asked with encryption or without; `Site.parse?_path` — any address at it.
-/

/-- A letter, a digit, a dash or an underscore. -/
def isPlainChar (c : Char) : Bool := c.isAlphanum || c == '-' || c == '_'

/-- Segments, each behind a slash. -/
def pathText (segments : List (List Char)) : List Char := segments.flatMap ('/' :: ·)

/-- The segments are made of plain characters, and none is empty. -/
def ArePlain (segments : List (List Char)) : Prop :=
  ∀ segment ∈ segments, segment ≠ [] ∧ ∀ c ∈ segment, isPlainChar c = true

/-- A character that a path takes as it is. -/
def isSafeChar (c : Char) : Bool := !isReservedInPath c && !isSlash c

/-- The segments are made of safe characters, and none stands for another place. -/
def AreSafe (segments : List (List Char)) : Prop :=
  ∀ segment ∈ segments, dots? segment = none ∧ ∀ c ∈ segment, isSafeChar c = true

/-- Segments are plain if the first one is and the others are. -/
theorem arePlain_cons {segment : List Char} {rest : List (List Char)} :
    ArePlain (segment :: rest) ↔
      (segment ≠ [] ∧ ∀ c ∈ segment, isPlainChar c = true) ∧ ArePlain rest :=
  List.forall_mem_cons

/-! ### Characters -/

/-- The numbers of plain characters lie in a few ranges of ASCII. -/
theorem toNat_of_isPlainChar {c : Char} (h : isPlainChar c = true) :
    c.toNat = 45 ∨ 48 ≤ c.toNat ∧ c.toNat ≤ 57 ∨ 65 ≤ c.toNat ∧ c.toNat ≤ 90 ∨ c.toNat = 95 ∨
      97 ≤ c.toNat ∧ c.toNat ≤ 122 := by
  have hupper : c.isUpper = decide (c.val ≥ 65 ∧ c.val ≤ 90) := rfl
  have hlower : c.isLower = (decide (c.val ≥ 97) && decide (c.val ≤ 122)) := rfl
  have hdigit : c.isDigit = (decide (c.val ≥ 48) && decide (c.val ≤ 57)) := rfl
  have halphanum : c.isAlphanum = ((c.isUpper || c.isLower) || c.isDigit) := rfl
  simp only [isPlainChar, halphanum, hupper, hlower, hdigit, Bool.or_eq_true, Bool.and_eq_true,
    decide_eq_true_eq, beq_iff_eq, ge_iff_le, UInt32.le_iff_toNat_le] at h
  -- The same in numbers, with the two marks left as characters.
  change (((65 ≤ c.toNat ∧ c.toNat ≤ 90 ∨ 97 ≤ c.toNat ∧ c.toNat ≤ 122) ∨
    48 ≤ c.toNat ∧ c.toNat ≤ 57) ∨ c = '-') ∨ c = '_' at h
  rcases h with ((h | h) | rfl) | rfl
  · omega
  · omega
  · decide
  · decide

/-- A character that is not plain is none of these. -/
theorem ne_of_isPlainChar {c d : Char} (h : isPlainChar c = true) (hd : isPlainChar d = false) :
    c ≠ d := by
  rintro rfl
  rw [h] at hd
  exact absurd hd (by decide)

/-- A plain character is not written by its bytes. -/
theorem isReservedInPath_of_isPlainChar {c : Char} (h : isPlainChar c = true) :
    isReservedInPath c = false := by
  have hrange := toNat_of_isPlainChar h
  have hascii : isAlwaysReserved c = false := by
    simp only [isAlwaysReserved, Bool.or_eq_false_iff, decide_eq_false_iff_not]
    omega
  -- Of the marks that a path cannot hold, none is plain.
  have hmarks : [' ', '"', '#', '<', '>', '?', '\u0060', '{', '}'].contains c = false := by
    simp only [List.contains_eq_mem, decide_eq_false_iff_not]
    intro hmem
    have hplain : ∀ d ∈ [' ', '"', '#', '<', '>', '?', '\u0060', '{', '}'], isPlainChar d = false :=
      List.all_iff_forall_prop.1 (by decide)
    rw [hplain c hmem] at h
    exact absurd h (by decide)
  rw [isReservedInPath, hascii, hmarks, Bool.or_false]

/-- A plain character ends no segment. -/
theorem isSlash_of_isPlainChar {c : Char} (h : isPlainChar c = true) : isSlash c = false := by
  have hslash := ne_of_isPlainChar h (d := '/') (by decide)
  have hback := ne_of_isPlainChar h (d := '\\') (by decide)
  simp [isSlash, hslash, hback]

/-- Plain characters are safe. -/
theorem isSafeChar_of_isPlainChar {c : Char} (h : isPlainChar c = true) : isSafeChar c = true := by
  rw [isSafeChar, isReservedInPath_of_isPlainChar h, isSlash_of_isPlainChar h]
  rfl

/-- Letters, digits and four marks are safe whatever else is. -/
example : "AZaz09-._~".toList.all isSafeChar = true := by decide

/-- A character is safe if it is written as it is and ends no segment. -/
theorem isSafeChar_iff {c : Char} :
    isSafeChar c = true ↔ isReservedInPath c = false ∧ isSlash c = false := by
  simp [isSafeChar]

/-- A character that is not safe is none of these. -/
theorem ne_of_isSafeChar {c d : Char} (h : isSafeChar c = true) (hd : isSafeChar d = false) :
    c ≠ d := by
  rintro rfl
  rw [h] at hd
  exact absurd hd (by decide)

/-- Control characters and the space are not safe. -/
theorem lt_toNat_of_isSafeChar {c : Char} (h : isSafeChar c = true) : 0x20 < c.toNat := by
  have hreserved := (isSafeChar_iff.1 h).1
  have hspace : c.toNat ≠ 0x20 := by
    intro heq
    have hc : c = ' ' := Char.toNat_inj.1 heq
    exact ne_of_isSafeChar h (by decide) hc
  simp only [isReservedInPath, isAlwaysReserved, Bool.or_eq_false_iff, decide_eq_false_iff_not]
    at hreserved
  omega

/-! ### Paths -/

section Split

variable {isMark : Char → Bool} {segment : List Char} (h : ∀ c ∈ segment, isMark c = false)
include h

/-- A text without marks is one piece. -/
theorem splitBy_of_forall : Text.splitBy isMark segment = [segment] := by
  induction segment with
  | nil => rfl
  | cons c rest ih =>
    rw [Text.splitBy, h c List.mem_cons_self, if_neg (by decide),
      ih fun d hmem => h d (List.mem_cons_of_mem _ hmem)]

/-- What stands before the first mark is split off. -/
theorem splitBy_append_mark {mark : Char} (hmark : isMark mark = true) (text : List Char) :
    Text.splitBy isMark (segment ++ mark :: text) = segment :: Text.splitBy isMark text := by
  induction segment with
  | nil => rw [List.nil_append, Text.splitBy, if_pos hmark]
  | cons c rest ih =>
    rw [List.cons_append, Text.splitBy, h c List.mem_cons_self, if_neg (by decide),
      ih fun d hmem => h d (List.mem_cons_of_mem _ hmem)]

end Split

/-- A path without its first slash comes apart into its segments. -/
theorem splitBy_pathText {isMark : Char → Bool} (hslash : isMark '/' = true)
    {segments : List (List Char)} (hne : segments ≠ [])
    (h : ∀ segment ∈ segments, ∀ c ∈ segment, isMark c = false) :
    Text.splitBy isMark ((pathText segments).drop 1) = segments := by
  induction segments with
  | nil => exact absurd rfl hne
  | cons segment rest ih =>
    have hsegment := h segment List.mem_cons_self
    -- The last segment has no slash behind it, so it is split by itself.
    cases rest with
    | nil =>
      show Text.splitBy isMark (segment ++ []) = _
      rw [List.append_nil, splitBy_of_forall hsegment]
    | cons next others =>
      have hlater := ih (List.cons_ne_nil _ _) fun s hmem => h s (List.mem_cons_of_mem _ hmem)
      show Text.splitBy isMark (segment ++ '/' :: (pathText (next :: others)).drop 1) = _
      rw [splitBy_append_mark hsegment hslash, hlater]

/-- A plain segment stands for no other place. -/
theorem dots?_of_plain {segment : List Char} (h : ∀ c ∈ segment, isPlainChar c = true) :
    dots? segment = none := by
  have hdot : '.' ∉ segment := fun hmem => absurd (h '.' hmem) (by decide)
  have hpercent : '%' ∉ segment := fun hmem => absurd (h '%' hmem) (by decide)
  unfold dots?
  -- One case for each writing of a dot segment, which holds a dot or a percent sign.
  split
  · exact absurd List.mem_cons_self hdot
  · exact absurd List.mem_cons_self hdot
  · exact absurd List.mem_cons_self hpercent
  · exact absurd List.mem_cons_self hdot
  · rfl

/-- Plain segments are safe. -/
theorem ArePlain.areSafe {segments : List (List Char)} (h : ArePlain segments) : AreSafe segments :=
  fun segment hmem => ⟨dots?_of_plain (h segment hmem).2,
    fun c hc => isSafeChar_of_isPlainChar ((h segment hmem).2 c hc)⟩

/-- Segments are safe if the first one is and the others are. -/
theorem areSafe_cons {segment : List Char} {rest : List (List Char)} :
    AreSafe (segment :: rest) ↔
      (dots? segment = none ∧ ∀ c ∈ segment, isSafeChar c = true) ∧ AreSafe rest :=
  List.forall_mem_cons

/-- A safe segment is written as it is. -/
theorem percentEncode_of_safe {segment : List Char} (h : ∀ c ∈ segment, isSafeChar c = true) :
    percentEncode isReservedInPath segment = segment := by
  induction segment with
  | nil => rfl
  | cons c rest ih =>
    have hfirst := (isSafeChar_iff.1 (h c List.mem_cons_self)).1
    have hrest := ih fun d hmem => h d (List.mem_cons_of_mem _ hmem)
    rw [percentEncode] at hrest ⊢
    rw [List.flatMap_cons, hfirst, if_neg (by decide), hrest, List.singleton_append]

/-- Safe segments are put onto a path as they are. -/
theorem resolve_of_safe {segments : List (List Char)} (h : AreSafe segments)
    (path : List (List Char)) : resolve path segments = segments.reverse ++ path := by
  induction segments generalizing path with
  | nil => rfl
  | cons segment rest ih =>
    obtain ⟨⟨hdots, hchars⟩, hrest⟩ := areSafe_cons.1 h
    rw [resolve, hdots, percentEncode_of_safe hchars, ih hrest]
    simp

/-- **A safe path stands for itself.** -/
theorem pathOf_pathText {segments : List (List Char)} (hne : segments ≠ [])
    (h : AreSafe segments) : pathOf (pathText segments) = pathText segments := by
  have hmarks : ∀ segment ∈ segments, ∀ c ∈ segment, isSlash c = false := fun segment hmem c hc =>
    (isSafeChar_iff.1 ((h segment hmem).2 c hc)).2
  rw [pathOf, splitBy_pathText (by decide) hne hmarks, resolve_of_safe h, List.append_nil,
    List.reverse_reverse, pathText]

/-- The characters of a safe path are slashes and safe ones. -/
theorem mem_pathText {segments : List (List Char)} (h : AreSafe segments) {c : Char}
    (hmem : c ∈ pathText segments) : c = '/' ∨ isSafeChar c = true := by
  obtain ⟨segment, hsegment, hc⟩ := List.mem_flatMap.1 hmem
  rcases List.mem_cons.1 hc with rfl | hc
  · exact .inl rfl
  · exact .inr ((h segment hsegment).2 c hc)

/-- The characters of a safe path are none of those that structure an address. -/
theorem ne_of_mem_pathText {segments : List (List Char)} (h : AreSafe segments) {c d : Char}
    (hmem : c ∈ pathText segments) (hslash : d ≠ '/') (hd : isSafeChar d = false) : c ≠ d := by
  rcases mem_pathText h hmem with rfl | hc
  · exact hslash.symm
  · exact ne_of_isSafeChar hc hd

/-- A safe path is all that is asked for. -/
theorem targetOf_pathText {segments : List (List Char)} (hne : segments ≠ [])
    (h : AreSafe segments) : targetOf (pathText segments) = pathText segments := by
  -- Nothing in the path starts a query or a fragment.
  have hfragment : (pathText segments).takeWhile (· != '#') = pathText segments :=
    List.takeWhile_eq_self_iff.2 fun c hmem => by
      simpa using ne_of_mem_pathText h hmem (d := '#') (by decide) (by decide)
  have hquestion : ∀ c ∈ pathText segments, (c != '?') = true := fun c hmem => by
    simpa using ne_of_mem_pathText h hmem (d := '?') (by decide) (by decide)
  rw [targetOf, hfragment, List.takeWhile_eq_self_iff.2 hquestion,
    List.dropWhile_eq_nil_iff.2 hquestion, pathOf_pathText hne h, List.append_nil]

/-- Behind a safe path there is no fragment. -/
theorem fragmentOf_pathText {segments : List (List Char)} (h : AreSafe segments) :
    fragmentOf (pathText segments) = [] := by
  have hnumber : ∀ c ∈ pathText segments, (c != '#') = true := fun c hmem => by
    simpa using ne_of_mem_pathText h hmem (d := '#') (by decide) (by decide)
  rw [fragmentOf, List.dropWhile_eq_nil_iff.2 hnumber]

/-! ### Addresses -/

/-- A text of which no character is to be dropped stays as it is, from either end. -/
theorem dropWhile_eq_self {p : Char → Bool} {text : List Char}
    (h : ∀ c ∈ text, p c = false) :
    text.dropWhile p = text ∧ text.reverse.dropWhile p = text.reverse := by
  have hfirst : ∀ cs : List Char, (∀ c ∈ cs, p c = false) → cs.dropWhile p = cs := by
    intro cs hcs
    cases cs with
    | nil => rfl
    | cons c rest => rw [List.dropWhile_cons, hcs c List.mem_cons_self, if_neg Bool.false_ne_true]
  exact ⟨hfirst text h, hfirst text.reverse fun c hmem => h c (List.mem_reverse.1 hmem)⟩

/-- What an address keeps of its end: no control characters and spaces behind it, and no tabs and line
breaks in it. -/
def bareEnd (text : List Char) : List Char :=
  (text.reverse.dropWhile (·.toNat ≤ 0x20)).reverse.filter
    fun c => !(c == '\t' || c == '\n' || c == '\r')

/-- Tabs and line breaks are control characters. -/
theorem filter_eq_self_of_forall {text : List Char} (h : ∀ c ∈ text, 0x20 < c.toNat) :
    text.filter (fun c => !(c == '\t' || c == '\n' || c == '\r')) = text := by
  refine List.filter_eq_self.2 fun c hmem => ?_
  have hc := h c hmem
  simp only [Bool.not_eq_true', Bool.or_eq_false_iff, beq_eq_false_iff_ne]
  refine ⟨⟨?_, ?_⟩, ?_⟩ <;> rintro rfl <;> exact absurd hc (by decide)

/-- Without control characters and spaces nothing is left out. -/
theorem bareEnd_eq_self {text : List Char} (h : ∀ c ∈ text, 0x20 < c.toNat) :
    bareEnd text = text := by
  have hlast := (dropWhile_eq_self (p := (·.toNat ≤ 0x20)) fun c hmem => by
    simpa using h c hmem).2
  rw [bareEnd, hlast, List.reverse_reverse, filter_eq_self_of_forall h]

/-- Of an address that starts without control characters and spaces, only the rest is made bare. -/
theorem bare_append {first : List Char} (hne : first ≠ []) (h : ∀ c ∈ first, 0x20 < c.toNat)
    (text : List Char) : bare (first ++ text) = first ++ bareEnd text := by
  have hkept : ∀ c ∈ first, decide (c.toNat ≤ 0x20) = false := fun c hmem => by
    simpa using h c hmem
  have hstart : (first ++ text).dropWhile (·.toNat ≤ 0x20) = first ++ text := by
    cases first with
    | nil => exact absurd rfl hne
    | cons c rest =>
      rw [List.cons_append, List.dropWhile_cons, hkept c List.mem_cons_self,
        if_neg Bool.false_ne_true]
  -- From behind, nothing is dropped beyond the text.
  have hend : (text.reverse ++ first.reverse).dropWhile (·.toNat ≤ 0x20)
      = text.reverse.dropWhile (·.toNat ≤ 0x20) ++ first.reverse := by
    rw [List.dropWhile_append]
    split
    · rename_i hempty
      rw [(dropWhile_eq_self hkept).2, List.isEmpty_iff.1 hempty, List.nil_append]
    · rfl
  rw [bare, hstart, List.reverse_append, hend, List.reverse_append, List.reverse_reverse,
    List.filter_append, filter_eq_self_of_forall h, bareEnd]

/-- The server that stands behind the two slashes of an address, and who asks it. -/
def serverOf? (authority : List Char) : Option Url := do
  let (user, server) := userAndServer authority
  let host ← Host.parse? (hostAndPort server).1
  let port ← port? (hostAndPort server).2
  some { secure := false, credentials := credentials? user, host, port, target := "" }

/-- A server is named without encryption. -/
theorem secure_of_serverOf? {authority : List Char} {url : Url} (h : serverOf? authority = some url) :
    url.secure = false := by
  simp only [serverOf?, Option.bind_eq_bind, Option.bind_eq_some_iff, Option.some.injEq] at h
  obtain ⟨host, -, port, -, rfl⟩ := h
  rfl

/-- How an address of the web starts, with encryption or without. -/
def schemeText (secure : Bool) : List Char := (if secure then "https://" else "http://").toList

/-- What is asked of a server is no part of its origin. -/
theorem origin_target (secure : Bool) (credentials : Option Credentials) (host : Host)
    (port : Option Nat) (target : List Char) :
    (Url.mk secure credentials host port (String.ofList target)).origin
      = (Url.mk secure credentials host port "").origin := rfl

section Authority

variable {authority rest : List Char}
  (hauthority : ∀ c ∈ authority, 0x20 < c.toNat ∧ endsAuthority c = false)
include hauthority

/-- The authority starts after the slashes. -/
theorem dropWhile_isSlash_authority (hne : authority ≠ []) :
    ("//".toList ++ (authority ++ rest)).dropWhile isSlash = authority ++ rest := by
  cases authority with
  | nil => exact absurd rfl hne
  | cons c others =>
    have hends := (hauthority c List.mem_cons_self).2
    simp only [endsAuthority, Bool.or_eq_false_iff] at hends
    show (c :: (others ++ rest)).dropWhile isSlash = _
    rw [List.dropWhile_cons, hends.1.1]
    rfl

/-- What is asked starts with a character that ends the authority, so the two are told apart. -/
theorem span_authority (hends : ∀ c ∈ rest.head?, endsAuthority c = true) :
    (authority ++ rest).takeWhile (!endsAuthority ·) = authority ∧
      (authority ++ rest).dropWhile (!endsAuthority ·) = rest := by
  have hinner : ∀ c ∈ authority, (!endsAuthority c) = true := fun c hmem => by
    rw [(hauthority c hmem).2]
    rfl
  rw [List.takeWhile_append_of_pos hinner, List.dropWhile_append_of_pos hinner]
  cases rest with
  | nil => exact ⟨List.append_nil _, rfl⟩
  | cons c others =>
    rw [List.takeWhile_cons, List.dropWhile_cons, hends c rfl]
    exact ⟨List.append_nil _, rfl⟩

/-- **An address of the web** is that of a server and what is asked of it, unless it is too long.
Whatever stands in the path, the server is the same. -/
theorem parse?_web (secure : Bool) (hne : authority ≠ []) (path : List Char) :
    Url.parse? (String.ofList (schemeText secure ++ (authority ++ '/' :: path)))
      = (serverOf? authority).bind fun server =>
          let url : Url := { server with secure }
          if maxAddress < url.origin.length + (targetOf ('/' :: bareEnd path)).length
            + (fragmentOf ('/' :: bareEnd path)).length
          then none
          else some { url with target := String.ofList (targetOf ('/' :: bareEnd path)) } := by
  have hstart : schemeText secure ≠ [] := by
    cases secure <;> decide
  have hscheme : ∀ c ∈ schemeText secure, 0x20 < c.toNat :=
    List.all_iff_forall_prop.1 (by cases secure <;> decide)
  have hfirst : ∀ c ∈ schemeText secure ++ (authority ++ ['/']), 0x20 < c.toNat := by
    intro c hmem
    rcases List.mem_append.1 hmem with hmem | hmem
    · exact hscheme c hmem
    · rcases List.mem_append.1 hmem with hmem | hmem
      · exact (hauthority c hmem).1
      · rw [List.mem_singleton.1 hmem]
        decide
  have hbare : bare (schemeText secure ++ (authority ++ '/' :: path))
      = schemeText secure ++ (authority ++ '/' :: bareEnd path) := by
    have happend := bare_append (List.append_ne_nil_of_left_ne_nil hstart _) hfirst path
    simpa only [List.append_assoc, List.singleton_append] using happend
  -- The first colon is that of the scheme.
  obtain ⟨scheme, hcut, hsecure⟩ : ∃ scheme,
      (∀ rest, Text.cutAt ':' (schemeText secure ++ rest) = some (scheme, "//".toList ++ rest)) ∧
        secure? scheme = some secure := by
    cases secure
    · exact ⟨['h', 't', 't', 'p'], fun _ => rfl, by decide⟩
    · exact ⟨['h', 't', 't', 'p', 's'], fun _ => rfl, by decide⟩
  have hslashes : ("//".toList ++ (authority ++ '/' :: bareEnd path)).dropWhile isSlash
      = authority ++ '/' :: bareEnd path :=
    dropWhile_isSlash_authority hauthority hne
  -- The path starts with a slash, which ends the authority.
  have hends : ∀ c ∈ ('/' :: bareEnd path).head?, endsAuthority c = true := by
    rintro c ⟨⟩
    decide
  obtain ⟨htake, hdrop⟩ := span_authority hauthority hends
  rw [Url.parse?, String.toList_ofList, hbare]
  simp only [hcut, Option.bind_eq_bind, Option.bind_some, hsecure, hslashes, htake, hdrop, serverOf?,
    Option.bind_assoc, origin_target]

/-- An address without encryption. -/
theorem parse?_http (hne : authority ≠ []) (path : List Char) :
    Url.parse? (String.ofList ("http://".toList ++ (authority ++ '/' :: path)))
      = (serverOf? authority).bind fun url =>
          if maxAddress < url.origin.length + (targetOf ('/' :: bareEnd path)).length
            + (fragmentOf ('/' :: bareEnd path)).length
          then none
          else some { url with target := String.ofList (targetOf ('/' :: bareEnd path)) } := by
  refine (parse?_web hauthority false hne path).trans (Option.bind_congr fun url hurl => ?_)
  obtain ⟨secure, _, _, _, _⟩ := url
  obtain rfl : secure = false := secure_of_serverOf? hurl
  rfl

end Authority

/-- A server, as the authority in an address without encryption names it. -/
structure Origin where
  authority : List Char
  url : Url
  isBare : ∀ c ∈ authority, 0x20 < c.toNat ∧ endsAuthority c = false
  names : serverOf? authority = some url

namespace Origin

/-- The address of the server alone. -/
def text (origin : Origin) : String := String.ofList ("http://".toList ++ origin.authority)

/-- What is asked of the server. -/
def asked (origin : Origin) (target : List Char) : Url :=
  { origin.url with target := String.ofList target }

/-- The server on the machine itself. -/
def machine : Origin where
  authority := "127.0.0.1:8080".toList
  url :=
    { secure := false, credentials := none, host := .short 2130706433, port := some 8080,
      target := "" }
  isBare := List.all_iff_forall_prop.1 (by decide)
  names := by decide +kernel

variable (origin : Origin)

/-- No server has an empty name. -/
theorem authority_ne_nil : origin.authority ≠ [] := by
  intro h
  have hnames := origin.names
  rw [h] at hnames
  exact absurd hnames (by simp [show serverOf? [] = none by decide +kernel])

/-- What is asked of an origin is asked without encryption. -/
@[simp] theorem secure_asked (target : List Char) : (origin.asked target).secure = false := by
  show origin.url.secure = false
  exact secure_of_serverOf? origin.names

/-- **An address with a safe path** stands for that server and that path, unless it is too long. -/
theorem parse?_pathText {segments : List (List Char)} (hne : segments ≠ []) (h : AreSafe segments) :
    Url.parse? (String.ofList ("http://".toList ++ (origin.authority ++ pathText segments)))
      = if maxAddress < (origin.url.origin ++ pathText segments).length then none
        else some (origin.asked (pathText segments)) := by
  obtain ⟨path, hpath⟩ : ∃ path, pathText segments = '/' :: path := by
    cases segments with
    | nil => exact absurd rfl hne
    | cons segment rest => exact ⟨segment ++ pathText rest, rfl⟩
  -- A safe path holds nothing that an address drops.
  have hbare : bareEnd path = path := by
    refine bareEnd_eq_self fun c hmem => ?_
    have hmem : c ∈ pathText segments := hpath ▸ List.mem_cons_of_mem _ hmem
    rcases mem_pathText h hmem with rfl | hc
    · decide
    · exact lt_toNat_of_isSafeChar hc
  rw [hpath, parse?_http origin.isBare origin.authority_ne_nil, origin.names, Option.bind_some, hbare,
    ← hpath, targetOf_pathText hne h, fragmentOf_pathText h, List.length_nil, Nat.add_zero,
    List.length_append]
  rfl

/-- An address at a server, whatever its path, asks that server for something. -/
theorem eq_asked_of_parse? {path : List Char} {url : Url}
    (h : Url.parse? (String.ofList ("http://".toList ++ (origin.authority ++ '/' :: path))) = some url) :
    ∃ target, url = origin.asked target := by
  rw [parse?_http origin.isBare origin.authority_ne_nil, origin.names, Option.bind_some] at h
  split at h
  · exact nomatch h
  · exact ⟨_, (Option.some.inj h).symm⟩

end Origin

/-- A server that is asked with encryption or without. -/
structure Site where
  secure : Bool
  origin : Origin

namespace Site

/-- The address of the server alone. -/
def text (site : Site) : String := String.ofList (schemeText site.secure ++ site.origin.authority)

/-- The same as it is read. -/
def url (site : Site) : Url := { site.origin.url with secure := site.secure }

/-- What is asked of the server. -/
def asked (site : Site) (target : List Char) : Url :=
  { site.url with target := String.ofList target }

/-- **An address at a server** asks it for the path, unless it is too long. -/
theorem parse?_path (site : Site) (path : List Char) :
    Url.parse? (site.text ++ String.ofList ('/' :: path))
      = if maxAddress < site.url.origin.length + (targetOf ('/' :: bareEnd path)).length
          + (fragmentOf ('/' :: bareEnd path)).length
        then none
        else some (site.asked (targetOf ('/' :: bareEnd path))) := by
  rw [text, ← String.ofList_append, List.append_assoc,
    parse?_web site.origin.isBare site.secure site.origin.authority_ne_nil, site.origin.names]
  rfl

end Site

end Triage.Http
