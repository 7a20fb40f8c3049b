import Triage.MissingHeaders
import Triage.Proofs.Text.Lowercase
import Mathlib.Data.List.Find

namespace Triage.MissingHeaders

/-!
# Signatures by rank

* `signatures` — all signatures, those of the first rank first.
* `Shows` — a report shows a signature: a phrase letter case aside, compiler output spaces aside.
* `detect?_eq_find?` — of the signatures that a report shows, the one of the first rank is detected.
* `Shows.surrounded`, `idxOf_find?_le` — with more text around title and body a report shows as much and
  maybe more, so that the rank can only be a higher one.
* `Respaced` — a text that has spaces more and spaces less.
* `detect?_ranked` — what is detected.
-/

/-- The signatures in the order of their ranks: the phrases, then compiler output with the two kinds of
line break. -/
def signatures : List String := textSignatures ++ compilerSignatures

/-- A report shows a signature: a phrase stands in its title or its body in lower case, or compiler output in
its body without the spaces. -/
def Shows (title body signature : String) : Prop :=
  (signature ∈ textSignatures ∧ (signature.toList <:+: Text.lower title.toList ∨
      signature.toList <:+: Text.lower body.toList)) ∨
    (signature ∈ compilerSignatures ∧ signature.toList <:+: compact body.toList)

instance (title body signature : String) : Decidable (Shows title body signature) :=
  inferInstanceAs (Decidable (_ ∨ _))

/-- No phrase is compiler output. -/
theorem not_mem_compilerSignatures {signature : String} (h : signature ∈ textSignatures) :
    signature ∉ compilerSignatures :=
  (by decide : ∀ signature ∈ textSignatures, signature ∉ compilerSignatures) signature h

/-- A phrase is shown exactly if it is found where phrases are sought. -/
theorem shows_iff_of_text {title body signature : String} (h : signature ∈ textSignatures) :
    Shows title body signature ↔
      inText (Text.lower title.toList) (Text.lower body.toList) signature = true := by
  simp [Shows, h, not_mem_compilerSignatures h, inText, Text.occurs_iff]

/-- Compiler output is shown exactly if it is found where that is sought. -/
theorem shows_iff_of_compiler {title body signature : String} (h : signature ∈ compilerSignatures) :
    Shows title body signature ↔ Text.occurs signature.toList (compact body.toList) = true := by
  have htext : signature ∉ textSignatures := fun hmem => not_mem_compilerSignatures hmem h
  simp [Shows, h, htext, Text.occurs_iff]

/-- **Of the signatures that a report shows, the one of the first rank is detected.** -/
theorem detect?_eq_find? (title body : String) :
    detect? title body = signatures.find? fun signature => decide (Shows title body signature) := by
  rw [signatures, List.find?_append, detect?]
  -- Phrases come before compiler output on both sides, and each is sought in its own way.
  congr 1
  · refine List.find?_congr fun signature hmem => ?_
    rw [Bool.eq_iff_iff, decide_eq_true_iff, shows_iff_of_text hmem]
  · refine List.find?_congr fun signature hmem => ?_
    rw [Bool.eq_iff_iff, decide_eq_true_iff, shows_iff_of_compiler hmem]

/-- A phrase is detected exactly if it is the first one that stands in title or body. -/
theorem detect?_eq_some_iff_of_text {title body signature : String} (h : signature ∈ textSignatures) :
    detect? title body = some signature ↔
      textSignatures.find? (inText (Text.lower title.toList) (Text.lower body.toList))
        = some signature := by
  unfold detect?
  cases hphrase : textSignatures.find? (inText (Text.lower title.toList) (Text.lower body.toList)) with
  | some phrase => rw [Option.some_or]
  | none =>
    rw [Option.none_or]
    -- what is found now is compiler output
    refine iff_of_false (fun hfound => ?_) (by simp)
    exact not_mem_compilerSignatures h (List.mem_of_find?_eq_some hfound)

/-! ### More text around title and body -/

/-- No phrase has a sigma. -/
theorem isSigmaFree_of_text {signature : String} (h : signature ∈ textSignatures) :
    Text.IsSigmaFree signature.toList :=
  (by decide +kernel : ∀ signature ∈ textSignatures, Text.IsSigmaFree signature.toList) signature h

/-- Spaces are taken out of each part by itself. -/
theorem compact_append (text more : List Char) : compact (text ++ more) = compact text ++ compact more :=
  List.filter_append text more

/-- **A signature is still shown with more text around title and body.** -/
theorem Shows.surrounded {title body signature : String} (h : Shows title body signature)
    (a b c d : String) : Shows (a ++ title ++ b) (c ++ body ++ d) signature := by
  unfold Shows
  simp only [String.toList_append]
  -- Phrases stay found as they have no sigma, compiler output as it is sought apart from its spaces.
  rcases h with ⟨hmem, htitle | hbody⟩ | ⟨hmem, hbody⟩
  · exact .inl ⟨hmem, .inl (Text.infix_lower_append (isSigmaFree_of_text hmem) htitle _ _)⟩
  · exact .inl ⟨hmem, .inr (Text.infix_lower_append (isSigmaFree_of_text hmem) hbody _ _)⟩
  · rw [compact_append, compact_append]
    exact .inr ⟨hmem, hbody.trans (List.infix_append _ _ _)⟩

/-- If more items pass, the first one that passes comes no later. -/
theorem idxOf_find?_le {α : Type} [BEq α] [LawfulBEq α] {p q : α → Bool} (h : ∀ a, p a = true → q a = true)
    {items : List α} {a : α} (ha : items.find? p = some a) :
    ∃ b, items.find? q = some b ∧ items.idxOf b ≤ items.idxOf a := by
  induction items with
  | nil => cases ha
  | cons item rest ih =>
    cases hq : q item with
    | true => exact ⟨item, List.find?_cons_of_pos hq, by simp⟩
    | false =>
      -- this item passes neither test, so both searches go on behind it
      have hp : ¬ p item = true := fun hp => absurd (h item hp) (by simp [hq])
      rw [List.find?_cons_of_neg hp] at ha
      obtain ⟨b, hb, hle⟩ := ih ha
      have hne : ∀ {x : α}, q x = true → (item == x) = false := by
        intro x hx
        refine beq_eq_false_iff_ne.2 ?_
        rintro rfl
        exact absurd hx (by simp [hq])
      refine ⟨b, by rwa [List.find?_cons_of_neg (by simp [hq])], ?_⟩
      rw [List.idxOf_cons, List.idxOf_cons, hne (List.find?_some hb), hne (h a (List.find?_some ha))]
      simpa using hle

/-! ### Spaces -/

/-- The second text is the first one with spaces put in and spaces taken out, anywhere. -/
inductive Respaced : List Char → List Char → Prop
  | nil : Respaced [] []
  | keep (c : Char) {text other : List Char} : Respaced text other → Respaced (c :: text) (c :: other)
  | putIn {text other : List Char} : Respaced text other → Respaced text (' ' :: other)
  | takeOut {text other : List Char} : Respaced text other → Respaced (' ' :: text) other

/-- Another character than a space stays. -/
theorem compact_cons {c : Char} (h : c ≠ ' ') (text : List Char) :
    compact (c :: text) = c :: compact text :=
  List.filter_cons_of_pos (bne_iff_ne.2 h)

/-- Without the spaces nothing has changed. -/
theorem Respaced.compact_eq {text other : List Char} (h : Respaced text other) :
    compact other = compact text := by
  induction h with
  | nil => rfl
  | keep c _ ih =>
    unfold compact at ih ⊢
    rw [List.filter_cons, List.filter_cons, ih]
  | putIn _ ih => exact ih
  | takeOut _ ih => exact ih

/-- **Texts differ by spaces alone exactly if they are the same without them.** -/
theorem respaced_iff {text other : List Char} : Respaced text other ↔ compact other = compact text := by
  refine ⟨Respaced.compact_eq, fun h => ?_⟩
  induction text generalizing other with
  | nil =>
    -- nothing but spaces can have been put in
    induction other with
    | nil => exact .nil
    | cons d other ih =>
      by_cases hd : d = ' '
      · subst hd
        exact .putIn (ih h)
      · rw [compact_cons hd] at h
        cases h
  | cons c text ih =>
    by_cases hc : c = ' '
    · subst hc
      exact .takeOut (ih h)
    · -- spaces may have been put in before the next character that is kept
      rw [compact_cons hc] at h
      induction other with
      | nil => cases h
      | cons d other ihOther =>
        by_cases hd : d = ' '
        · subst hd
          exact .putIn (ihOther h)
        · rw [compact_cons hd] at h
          obtain ⟨rfl, hrest⟩ := List.cons_eq_cons.1 h
          exact .keep d (ih hrest)

instance (text other : List Char) : Decidable (Respaced text other) :=
  decidable_of_iff _ respaced_iff.symm

/-! ### What is detected -/

/-- **Detection goes by rank.** A signature is detected exactly if the report shows it and none of those
before it, and nothing is detected exactly if it shows none. With more text around title and body something
is still detected, of the same rank or a higher one. Spaces in the body, put in or taken out, do not matter
to compiler output. -/
theorem detect?_ranked (title body : String) :
    (∀ signature, detect? title body = some signature ↔
      ∃ before after, signatures = before ++ signature :: after ∧ Shows title body signature ∧
        ∀ other ∈ before, ¬ Shows title body other) ∧
      (detect? title body = none ↔ ∀ signature ∈ signatures, ¬ Shows title body signature) ∧
      (∀ a b c d signature, detect? title body = some signature →
        ∃ first, detect? (a ++ title ++ b) (c ++ body ++ d) = some first ∧
          signatures.idxOf first ≤ signatures.idxOf signature) ∧
      ∀ other : String, Respaced body.toList other.toList → ∀ signature ∈ compilerSignatures,
        (Shows title other signature ↔ Shows title body signature) := by
  refine ⟨?_, ?_, ?_, ?_⟩
  · intro signature
    rw [detect?_eq_find?, List.find?_eq_some_iff_append]
    simp only [decide_eq_true_eq, Bool.not_eq_true', decide_eq_false_iff_not]
    constructor
    · rintro ⟨hshows, before, after, hsplit, hbefore⟩
      exact ⟨before, after, hsplit, hshows, hbefore⟩
    · rintro ⟨before, after, hsplit, hshows, hbefore⟩
      exact ⟨hshows, before, after, hsplit, hbefore⟩
  · rw [detect?_eq_find?, List.find?_eq_none]
    simp only [decide_eq_true_eq]
  · intro a b c d signature hdetected
    rw [detect?_eq_find?] at hdetected ⊢
    -- What the report shows it still shows, so the search for the first one ends no later.
    apply idxOf_find?_le _ hdetected
    intro other hother
    rw [decide_eq_true_iff] at hother ⊢
    exact hother.surrounded a b c d
  · intro other hspaces signature hmem
    rw [shows_iff_of_compiler hmem, shows_iff_of_compiler hmem, hspaces.compact_eq]

/-- Compiler output as it comes, with spaces in it. -/
def caretReport : String := "# include <Python.h>\n  ^~~~~~"

/-- The same output with other spaces. -/
def respacedReport : String := "#  include<Python .h>\n^~~~~~"

/-- The output is detected. With a phrase behind it the phrase is, which is of a higher rank. -/
theorem detect?_ranked_of_caretReport :
    detect? "gcc error" caretReport = some "#include<Python.h>\n^~~~" ∧
      (∃ first, detect? ("A " ++ "gcc error" ++ "!") ("" ++ caretReport ++ " Missing PYTHON.H") = some first ∧
        signatures.idxOf first ≤ signatures.idxOf "#include<Python.h>\n^~~~") ∧
      detect? "A gcc error!" (caretReport ++ " Missing PYTHON.H") = some "missing python.h" ∧
      Respaced caretReport.toList respacedReport.toList ∧
      (Shows "gcc error" respacedReport "#include<Python.h>\n^~~~" ↔
        Shows "gcc error" caretReport "#include<Python.h>\n^~~~") := by
  have hdetected : detect? "gcc error" caretReport = some "#include<Python.h>\n^~~~" := by decide +kernel
  have hspaces : Respaced caretReport.toList respacedReport.toList := by decide +kernel
  obtain ⟨-, -, hmore, hrespaced⟩ := detect?_ranked "gcc error" caretReport
  exact ⟨hdetected, hmore "A " "!" "" " Missing PYTHON.H" _ hdetected, by decide +kernel, hspaces,
    hrespaced respacedReport hspaces _ (by decide)⟩

end Triage.MissingHeaders
