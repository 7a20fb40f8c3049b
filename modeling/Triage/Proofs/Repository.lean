import Triage.Proofs.Text.Search
import Triage.Proofs.Text.Trim
import Triage.Repository
import Mathlib.Tactic.Common

namespace Triage.Repository

/-!
# Slugs of repositories

* `IsPart` — what can be an owner or a name.
* `Spells` — a text spells a repository: its owner, a slash and its name, with white space around them.
* `parse?_eq_some_iff` — a repository is read exactly from the texts that spell it.
* `parse?_slug` — and so from its slug.
* `parse?_normal` — the slug is the normal form of these texts.
-/

/-- Owners and names have something in them, but no slash and no white space at their ends. -/
structure IsPart (part : String) : Prop where
  ne_nil : part.toList ≠ []
  noSlash : '/' ∉ part.toList
  trimmed : Text.IsTrimmed part.toList

instance (part : String) : Decidable (IsPart part) :=
  decidable_of_iff (part.toList ≠ [] ∧ '/' ∉ part.toList ∧ Text.IsTrimmed part.toList)
    ⟨fun ⟨hne, hslash, htrimmed⟩ => ⟨hne, hslash, htrimmed⟩, fun h => ⟨h.ne_nil, h.noSlash, h.trimmed⟩⟩

/-- The text is the owner, a slash and the name, with runs of white space around each of them, maybe
empty ones. -/
structure Spells (raw : String) (repository : Repository) : Prop where
  owner : IsPart repository.owner
  name : IsPart repository.name
  text : ∃ w₁ w₂ w₃ w₄ : String, (∀ w ∈ [w₁, w₂, w₃, w₄], Text.isBlankText w.toList = true) ∧
    raw = w₁ ++ repository.owner ++ w₂ ++ "/" ++ w₃ ++ repository.name ++ w₄

/-- White space has no slash in it. -/
theorem slash_not_mem_of_isBlankText {text : List Char} (h : Text.isBlankText text = true) : '/' ∉ text := by
  intro hmem
  have hblank := List.all_eq_true.1 h '/' hmem
  exact absurd hblank (by decide)

variable {raw : String} {repository : Repository}

/-- What is read is spelled by the text. -/
theorem spells_of_parse? (h : parse? raw = some repository) : Spells raw repository := by
  simp only [parse?, Option.bind_eq_bind, Option.bind_eq_some_iff, Option.ite_none_left_eq_some,
    Option.some.injEq, Prod.exists] at h
  obtain ⟨left, right, hcut, hparts, rfl⟩ := h
  simp only [Bool.or_eq_true, List.isEmpty_iff, List.contains_iff_mem, not_or] at hparts
  obtain ⟨⟨howner, hname⟩, hslash⟩ := hparts
  obtain ⟨htrim, hleft⟩ := Text.cutAt_eq_some_iff.1 hcut
  -- white space comes off three times: around the whole, around the owner and around the name
  obtain ⟨before, after, hbefore, hafter, hraw⟩ := Text.exists_around_trim raw.toList
  obtain ⟨w₁, w₂, hw₁, hw₂, hownerText⟩ := Text.exists_around_trim left
  obtain ⟨w₃, w₄, hw₃, hw₄, hnameText⟩ := Text.exists_around_trim right
  refine ⟨⟨by simpa using howner, ?_, ?_⟩, ⟨by simpa using hname, by simpa using hslash, ?_⟩, ?_⟩
  · rw [String.toList_ofList]
    intro hmem
    apply hleft
    rw [hownerText]
    simp [hmem]
  · rw [String.toList_ofList]
    exact Text.isTrimmed_trim left
  · rw [String.toList_ofList]
    exact Text.isTrimmed_trim right
  · refine ⟨String.ofList (before ++ w₁), String.ofList w₂, String.ofList w₃, String.ofList (w₄ ++ after),
      ?_, ?_⟩
    · simp [Text.isBlankText_append, hbefore, hafter, hw₁, hw₂, hw₃, hw₄]
    · have hpieces : Text.trim raw.toList
          = (w₁ ++ Text.trim left ++ w₂) ++ '/' :: (w₃ ++ Text.trim right ++ w₄) := by
        rw [← hownerText, ← hnameText, htrim]
      rw [← String.toList_inj, hraw, hpieces]
      simp

/-- What a text spells is read from it. -/
theorem parse?_of_spells (h : Spells raw repository) : parse? raw = some repository := by
  obtain ⟨howner, hname, w₁, w₂, w₃, w₄, hblank, rfl⟩ := h
  simp only [List.forall_mem_cons, List.not_mem_nil, false_implies, implies_true, and_true] at hblank
  obtain ⟨hw₁, hw₂, hw₃, hw₄⟩ := hblank
  have hcore : Text.trim (w₁ ++ repository.owner ++ w₂ ++ "/" ++ w₃ ++ repository.name ++ w₄).toList
      = (repository.owner.toList ++ w₂.toList) ++ '/' :: (w₃.toList ++ repository.name.toList) := by
    refine Text.trim_eq_iff.2 ⟨?_, w₁.toList, w₄.toList, hw₁, hw₄, by simp⟩
    have haround := howner.trimmed.around hname.trimmed howner.ne_nil hname.ne_nil
      (w₂.toList ++ '/' :: w₃.toList)
    simpa using haround
  have hleft : '/' ∉ repository.owner.toList ++ w₂.toList := by
    simp [howner.noSlash, slash_not_mem_of_isBlankText hw₂]
  have hownerTrim : Text.trim (repository.owner.toList ++ w₂.toList) = repository.owner.toList :=
    Text.trim_eq_iff.2 ⟨howner.trimmed, [], w₂.toList, rfl, hw₂, rfl⟩
  have hnameTrim : Text.trim (w₃.toList ++ repository.name.toList) = repository.name.toList :=
    Text.trim_eq_iff.2 ⟨hname.trimmed, w₃.toList, [], hw₃, rfl, by simp⟩
  rw [parse?, hcore, Text.cutAt_append hleft]
  simp [hownerTrim, hnameTrim, howner.ne_nil, hname.ne_nil, hname.noSlash]

/-- **A repository is read exactly from the texts that spell it.** -/
theorem parse?_eq_some_iff : parse? raw = some repository ↔ Spells raw repository :=
  ⟨spells_of_parse?, parse?_of_spells⟩

example : IsPart "hello world" ∧ ¬ IsPart " hello" ∧ ¬ IsPart "hello\u2003" ∧ ¬ IsPart "hello/world" := by
  decide +kernel

/-- The slug spells the repository without any white space. -/
theorem spells_slug (howner : IsPart repository.owner) (hname : IsPart repository.name) :
    Spells repository.slug repository where
  owner := howner
  name := hname
  text := ⟨"", "", "", "", by decide, by simp [slug]⟩

/-- **A repository is read from its slug.** -/
theorem parse?_slug (howner : IsPart repository.owner) (hname : IsPart repository.name) :
    parse? repository.slug = some repository :=
  parse?_of_spells (spells_slug howner hname)

/-- Neither part of a repository that was read holds a slash. -/
theorem not_mem_of_parse? (h : parse? raw = some repository) :
    '/' ∉ repository.owner.toList ∧ '/' ∉ repository.name.toList :=
  ⟨(spells_of_parse? h).owner.noSlash, (spells_of_parse? h).name.noSlash⟩

/-- **The slug is a normal form.** A repository is read exactly from the texts that spell it, and a text
spells at most one. Its slug spells it too, so that two texts that are read spell the same repository exactly
if the slugs are the same. -/
theorem parse?_normal (raw : String) :
    (∀ owner name, parse? raw = some ⟨owner, name⟩ ↔ Spells raw ⟨owner, name⟩) ∧
      (∀ repository repository', Spells raw repository → Spells raw repository' →
        repository = repository') ∧
      ∀ repository, parse? raw = some repository →
        parse? repository.slug = some repository ∧
          ∀ raw' repository', parse? raw' = some repository' →
            (repository'.slug = repository.slug ↔ repository' = repository) := by
  have hslug {raw : String} {repository : Repository} (h : parse? raw = some repository) :
      parse? repository.slug = some repository :=
    parse?_slug (spells_of_parse? h).owner (spells_of_parse? h).name
  refine ⟨fun owner name => parse?_eq_some_iff, ?_, ?_⟩
  · intro repository repository' h h'
    exact Option.some.inj ((parse?_of_spells h).symm.trans (parse?_of_spells h'))
  · intro repository hread
    refine ⟨hslug hread, fun raw' repository' hread' => ⟨fun hsame => ?_, fun hsame => by rw [hsame]⟩⟩
    -- both are read from the one slug
    have hone := hslug hread'
    rw [hsame, hslug hread] at hone
    exact (Option.some.inj hone).symm

/-- White space of several kinds stands at the ends and around the slash, and within the name. -/
theorem parse?_normal_of_spaced :
    let raw := "\u3000 octo\t/\u00a0\nhello world\u2028"
    Spells raw ⟨"octo", "hello world"⟩ ∧ parse? raw = some ⟨"octo", "hello world"⟩ ∧
      parse? "octo/hello world" = some ⟨"octo", "hello world"⟩ ∧
      parse? "octo /hello  world" = some ⟨"octo", "hello  world"⟩ ∧
      (Repository.slug ⟨"octo", "hello  world"⟩ = Repository.slug ⟨"octo", "hello world"⟩ ↔
        (⟨"octo", "hello  world"⟩ : Repository) = ⟨"octo", "hello world"⟩) := by
  intro raw
  have hread : parse? raw = some ⟨"octo", "hello world"⟩ := by decide +kernel
  have hother : parse? "octo /hello  world" = some ⟨"octo", "hello  world"⟩ := by decide +kernel
  obtain ⟨hiff, -, hnormal⟩ := parse?_normal raw
  obtain ⟨hslug, hsame⟩ := hnormal _ hread
  exact ⟨(hiff _ _).1 hread, hread, hslug, hother, hsame _ _ hother⟩

end Triage.Repository
