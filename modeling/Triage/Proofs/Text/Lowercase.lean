import Triage.Text.Blank
import Triage.Text.Lowercase
import Mathlib.Tactic.Common

namespace Triage.Text

/-!
# Lower case in context

A capital sigma has two lower cases, and which one it gets is a matter of the letters around it. Nothing
else is, and to the letters around it their own case does not matter.

* `lower_eq_nil_iff` — something stays something.
* `IsSigmaFree` — neither of the two small sigmas.
* `lowerApart` — the lower case of each character by itself, with one sigma for both.
* `infix_lower_iff` — without sigmas, a needle stands in a text in lower case exactly if it stands there.
* `infix_lower_append` — it stays there whatever is put around the text.
* `lower_map_toLower` — the lower case of a text is that of the text with small ASCII letters.
-/

/-! ### Nothing and something -/

/-- No character disappears in lower case. -/
theorem lowerOne_ne_nil (c : Char) : lowerOne c ≠ [] := by
  unfold lowerOne
  -- One branch for ASCII, one for the dotted I, and one for the table, which never gives nothing.
  by_cases hascii : c.toNat < 0x80
  · rw [if_pos hascii]
    simp
  · rw [if_neg hascii]
    by_cases hdotted : c = '\u0130'
    · rw [if_pos hdotted]
      simp
    · rw [if_neg hdotted]
      cases lowerRuns.find? (·.covers c.toNat) <;> simp

/-- Only the empty text has an empty lower case. -/
theorem lower_eq_nil_iff {text : List Char} : lower text = [] ↔ text = [] := by
  constructor
  · intro h
    cases text with
    | nil => rfl
    | cons c rest =>
      obtain ⟨hc, -⟩ := List.append_eq_nil_iff.1 h
      split_ifs at hc
      exact absurd hc (lowerOne_ne_nil c)
  · rintro rfl
    rfl

/-! ### Sigmas -/

/-- Neither of the two small sigmas is in the text. -/
def IsSigmaFree (text : List Char) : Prop := 'σ' ∉ text ∧ 'ς' ∉ text

instance (text : List Char) : Decidable (IsSigmaFree text) := inferInstanceAs (Decidable (_ ∧ _))

/-- One sigma for both. -/
def oneSigma (c : Char) : Char := if c = 'ς' then 'σ' else c

/-- The lower case of each character by itself, with one sigma for both. Parts of a text do not matter to
one another here. -/
def lowerApart (text : List Char) : List Char := text.flatMap fun c => (lowerOne c).map oneSigma

/-- Each part is lower-cased by itself. -/
theorem lowerApart_append (text more : List Char) :
    lowerApart (text ++ more) = lowerApart text ++ lowerApart more := List.flatMap_append

/-- By itself, a capital sigma becomes the one in the middle of words. -/
theorem lowerOne_sigma : lowerOne 'Σ' = ['σ'] := by decide +kernel

/-- **Sigmas apart, each character is lower-cased by itself.** -/
theorem map_oneSigma_lowerAfter (before text : List Char) :
    (lowerAfter before text).map oneSigma = lowerApart text := by
  induction text generalizing before with
  | nil => rfl
  | cons c rest ih =>
    have hone : (if c = 'Σ' then [if isFinal before rest then 'ς' else 'σ'] else lowerOne c).map oneSigma
        = (lowerOne c).map oneSigma := by
      by_cases hc : c = 'Σ'
      · -- whichever sigma it gets becomes the one for both
        rw [if_pos hc, hc, lowerOne_sigma]
        cases isFinal before rest <;> rfl
      · rw [if_neg hc]
    rw [lowerAfter, List.map_append, ih, hone]
    rfl

/-- A text without the final sigma has one sigma only. -/
theorem map_oneSigma_eq_self {text : List Char} (h : 'ς' ∉ text) : text.map oneSigma = text := by
  have hself : ∀ c ∈ text, oneSigma c = id c := by
    rintro c hc
    refine if_neg ?_
    rintro rfl
    exact h hc
  rw [List.map_congr_left hself, List.map_id]

/-- **Without sigmas, a needle stands in a text in lower case exactly if it stands there when each
character is lower-cased by itself.** -/
theorem infix_lower_iff {needle : List Char} (h : IsSigmaFree needle) (text : List Char) :
    needle <:+: lower text ↔ needle <:+: lowerApart text := by
  rw [lower, ← map_oneSigma_lowerAfter [] text, List.infix_map_iff]
  constructor
  · intro hoccurs
    exact ⟨needle, hoccurs, (map_oneSigma_eq_self h.2).symm⟩
  · rintro ⟨run, hrun, rfl⟩
    -- a sigma in the run would be one in the needle
    have hfinal : 'ς' ∉ run := fun hmem => h.1 (List.mem_map_of_mem (f := oneSigma) hmem)
    rwa [map_oneSigma_eq_self hfinal]

/-- **A needle without sigmas stays where it stands**, whatever is put around the text. -/
theorem infix_lower_append {needle text : List Char} (h : IsSigmaFree needle)
    (hoccurs : needle <:+: lower text) (before after : List Char) :
    needle <:+: lower (before ++ text ++ after) := by
  rw [infix_lower_iff h] at hoccurs ⊢
  rw [lowerApart_append, lowerApart_append]
  exact hoccurs.trans (List.infix_append _ _ _)

/-! ### The case of ASCII letters -/

/-- What is the same for each ASCII letter and its lower case is the same for each character and its
lower case, for the case of others stays. -/
theorem apply_toLower {β : Type} (f : Char → β)
    (h : ∀ n < 26, f (Char.ofNat (65 + n)).toLower = f (Char.ofNat (65 + n))) (c : Char) :
    f c.toLower = f c := by
  -- Of the capital letters there are 26, and any other character is its own lower case.
  by_cases hupper : 'A'.val ≤ c.val ∧ c.val ≤ 'Z'.val
  · have hrange : 65 ≤ c.toNat ∧ c.toNat ≤ 90 := hupper
    have hletter := h (c.toNat - 65) (by omega)
    rwa [show 65 + (c.toNat - 65) = c.toNat by omega, Char.ofNat_toNat] at hletter
  · have hsame : c.toLower = c := dif_neg hupper
    rw [hsame]

/-- An ASCII letter has case in either case. -/
theorem isCased_toLower (c : Char) : isCased c.toLower = isCased c :=
  apply_toLower isCased (by decide) c

/-- An ASCII letter is passed over in either case or in none. -/
theorem isCaseIgnorable_toLower (c : Char) : isCaseIgnorable c.toLower = isCaseIgnorable c :=
  apply_toLower isCaseIgnorable (by decide) c

/-- An ASCII letter has the lower case of its small letter. -/
theorem lowerOne_toLower (c : Char) : lowerOne c.toLower = lowerOne c :=
  apply_toLower lowerOne (by decide) c

/-- No ASCII letter is white space in either case. -/
theorem isBlank_toLower (c : Char) : isBlank c.toLower = isBlank c :=
  apply_toLower isBlank (by decide) c

/-- No ASCII letter becomes a capital sigma. -/
theorem toLower_eq_sigma_iff (c : Char) : c.toLower = 'Σ' ↔ c = 'Σ' := by
  have hsame := apply_toLower (fun d => decide (d = 'Σ')) (by decide) c
  simpa using hsame

/-- A sigma at the end of a word is there whatever the case of the letters around it. -/
theorem meetsCased_map_toLower (cs : List Char) :
    meetsCased (cs.map Char.toLower) = meetsCased cs := by
  have hignorable : isCaseIgnorable ∘ Char.toLower = isCaseIgnorable := funext isCaseIgnorable_toLower
  rw [meetsCased, meetsCased, List.dropWhile_map, hignorable]
  cases cs.dropWhile isCaseIgnorable with
  | nil => rfl
  | cons c rest => exact isCased_toLower c

/-- Behind a text, the case of ASCII letters does not matter to the lower case, be they before or after. -/
theorem lowerAfter_map_toLower (before text : List Char) :
    lowerAfter (before.map Char.toLower) (text.map Char.toLower) = lowerAfter before text := by
  induction text generalizing before with
  | nil => rfl
  | cons c rest ih =>
    have hnext : lowerAfter (c.toLower :: before.map Char.toLower) (rest.map Char.toLower)
        = lowerAfter (c :: before) rest := ih (c :: before)
    -- the case of its neighbours is no matter to a sigma
    have hfinal : isFinal (before.map Char.toLower) (rest.map Char.toLower) = isFinal before rest := by
      rw [isFinal, isFinal, meetsCased_map_toLower, meetsCased_map_toLower]
    rw [List.map_cons, lowerAfter, lowerAfter, hnext, hfinal, lowerOne_toLower]
    by_cases hc : c = 'Σ'
    · rw [if_pos hc, if_pos ((toLower_eq_sigma_iff c).2 hc)]
    · rw [if_neg hc, if_neg fun hsigma => hc ((toLower_eq_sigma_iff c).1 hsigma)]

/-- **The case of ASCII letters does not matter to the lower case**, not even to that of sigmas. -/
theorem lower_map_toLower (text : List Char) : lower (text.map Char.toLower) = lower text :=
  lowerAfter_map_toLower [] text

/-- Nor does it matter to whether a text is blank. -/
theorem isBlankText_map_toLower (text : List Char) :
    isBlankText (text.map Char.toLower) = isBlankText text := by
  simp only [isBlankText, List.all_map, Function.comp_def, isBlank_toLower]

end Triage.Text
