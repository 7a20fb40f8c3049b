import Triage.Proofs.Http.Address
import Triage.Text.Utf8

namespace Triage.Http

/-!
# Characters written by their bytes

What is written by its bytes is read back as these bytes, and so is everything else, unless it looks
like such a byte itself.

* `StartsWithByte`, `HasEscape` — texts that look as if a byte was written in them.
* `percentDecode_cons` — how any other character is read.
* `percentDecode_percentEncode` — writing characters by their bytes does not change what is read.
* `percentDecode_eq_utf8`, `hasEscape_iff` — a text without escapes is read as its own bytes, and any
  other as fewer bytes.
* `not_mem_percentEncode` — no slash and no question mark comes up by writing.
-/

/-- The text starts with the number of a byte, as two hexadecimal digits. -/
def StartsWithByte (text : List Char) : Prop :=
  ∃ high low rest, text = high :: low :: rest ∧ (percentValue? high).isSome ∧
    (percentValue? low).isSome

/-- Somewhere in the text a percent sign is followed by the number of a byte. -/
def HasEscape (text : List Char) : Prop :=
  ∃ before after, text = before ++ '%' :: after ∧ StartsWithByte after

/-- An escape stands at the start of a text or behind it. -/
theorem hasEscape_cons_iff {c : Char} {rest : List Char} :
    HasEscape (c :: rest) ↔ c = '%' ∧ StartsWithByte rest ∨ HasEscape rest := by
  constructor
  · rintro ⟨before, after, htext, hafter⟩
    cases before with
    | nil =>
      obtain ⟨rfl, rfl⟩ := List.cons_eq_cons.1 htext
      exact .inl ⟨rfl, hafter⟩
    | cons _ before =>
      obtain ⟨rfl, rfl⟩ := List.cons_eq_cons.1 htext
      exact .inr ⟨before, after, rfl, hafter⟩
  · rintro (⟨rfl, hrest⟩ | ⟨before, after, rfl, hafter⟩)
    · exact ⟨[], rest, rfl, hrest⟩
    · exact ⟨c :: before, after, rfl, hafter⟩

/-! ### Bytes in writing -/

/-- A digit is read back as its number. -/
theorem percentValue?_percentDigit {n : Nat} (h : n < 16) :
    percentValue? (percentDigit n) = some n := by
  have hall : ∀ n < 16, percentValue? (percentDigit n) = some n := by decide
  exact hall n h

/-- A byte in writing is read back. -/
theorem percentDecode_percentByte (b : UInt8) (rest : List Char) :
    percentDecode (percentByte b ++ rest) = b :: percentDecode rest := by
  have hb : b.toNat < 256 := b.toNat_lt
  have hhigh : percentValue? (percentDigit (b.toNat / 16)) = some (b.toNat / 16) :=
    percentValue?_percentDigit (by omega)
  have hlow : percentValue? (percentDigit (b.toNat % 16)) = some (b.toNat % 16) :=
    percentValue?_percentDigit (by omega)
  -- Two digits make the number of the byte.
  have hsum : b.toNat / 16 * 16 + b.toNat % 16 = b.toNat := by omega
  show percentDecode ('%' :: percentDigit _ :: percentDigit _ :: rest) = _
  rw [percentDecode, hhigh, hlow]
  simp only [hsum, UInt8.ofNat_toNat]

/-- Bytes in writing are read back. -/
theorem percentDecode_percentBytes (bytes : List UInt8) (rest : List Char) :
    percentDecode (bytes.flatMap percentByte ++ rest) = bytes ++ percentDecode rest := by
  induction bytes with
  | nil => rfl
  | cons b bytes ih =>
    rw [List.flatMap_cons, List.append_assoc, percentDecode_percentByte, ih, List.cons_append]

/-- A character that starts no byte in writing is read as itself. -/
theorem percentDecode_cons {c : Char} {rest : List Char} (h : ¬ (c = '%' ∧ StartsWithByte rest)) :
    percentDecode (c :: rest) = String.utf8EncodeChar c ++ percentDecode rest := by
  by_cases hc : c = '%'
  · subst hc
    have hbyte : ¬ StartsWithByte rest := fun hrest => h ⟨rfl, hrest⟩
    -- Behind a percent sign two digits are missing, or one of them is no digit.
    match rest with
    | [] => rfl
    | [_] => rfl
    | high :: low :: after =>
      rw [percentDecode]
      cases hhigh : percentValue? high with
      | none => rfl
      | some m =>
        cases hlow : percentValue? low with
        | none => rfl
        | some n => exact absurd ⟨high, low, after, rfl, by simp [hhigh], by simp [hlow]⟩ hbyte
  · rw [percentDecode]
    exact fun _ _ _ heq _ => hc heq

/-- A byte in writing is read by the values of its digits. -/
theorem percentDecode_byte {high low : Char} {h l : Nat} (hhigh : percentValue? high = some h)
    (hlow : percentValue? low = some l) (rest : List Char) :
    percentDecode ('%' :: high :: low :: rest) = UInt8.ofNat (h * 16 + l) :: percentDecode rest := by
  rw [percentDecode, hhigh, hlow]

/-- A text is read a byte in writing or another character at a time. -/
@[elab_as_elim]
theorem percentDecode_induction {motive : List Char → Prop} (nil : motive [])
    (byte : ∀ high low rest h l, percentValue? high = some h → percentValue? low = some l →
      motive rest → motive ('%' :: high :: low :: rest))
    (other : ∀ c rest, ¬ (c = '%' ∧ StartsWithByte rest) → motive rest → motive (c :: rest))
    (text : List Char) : motive text := by
  fun_induction percentDecode text with
  | case1 high low rest h l hlow hhigh ih => exact byte high low rest h l hhigh hlow ih
  | case2 high low rest hnone ih =>
    refine other _ _ ?_ ih
    rintro ⟨-, _, _, _, ⟨rfl, rfl, rfl⟩, hhigh, hlow⟩
    obtain ⟨h, hh⟩ := Option.isSome_iff_exists.1 hhigh
    obtain ⟨l, hl⟩ := Option.isSome_iff_exists.1 hlow
    exact hnone h l hh hl
  | case3 c rest hne ih =>
    refine other _ _ ?_ ih
    rintro ⟨rfl, high, low, after, rfl, -, -⟩
    exact hne high low after rfl rfl
  | case4 => exact nil

/-- The characters in the number of a byte stand for themselves. -/
theorem isReservedInPath_of_percentValue? {c : Char} (h : (percentValue? c).isSome) :
    isReservedInPath c = false := by
  have hsmall : c.toNat < 128 := by
    by_contra hlarge
    have hlower : 'a' ≤ c ∧ c ≤ 'f' ↔ 97 ≤ c.toNat ∧ c.toNat ≤ 102 := Iff.rfl
    have hupper : 'A' ≤ c ∧ c ≤ 'F' ↔ 65 ≤ c.toNat ∧ c.toNat ≤ 70 := Iff.rfl
    rw [percentValue?, if_neg, if_neg, if_neg] at h
    · cases h
    · rw [hupper]
      omega
    · rw [hlower]
      omega
    · intro hc
      have hdigit : 48 ≤ c.toNat ∧ c.toNat ≤ 57 := Char.isDigit_iff_toNat.1 hc
      omega
  -- Of the characters of ASCII each is looked at.
  have hall : ∀ n < 128, (percentValue? (Char.ofNat n)).isSome →
      isReservedInPath (Char.ofNat n) = false := by decide
  have hc := hall c.toNat hsmall
  rw [Char.ofNat_toNat] at hc
  exact hc h

/-- A text is written a character at a time. -/
theorem percentEncode_cons (isReserved : Char → Bool) (c : Char) (rest : List Char) :
    percentEncode isReserved (c :: rest)
      = (if isReserved c then (String.utf8EncodeChar c).flatMap percentByte else [c])
        ++ percentEncode isReserved rest :=
  List.flatMap_cons

/-- What a text is written as starts with a digit exactly if the text does. -/
theorem percentEncode_eq_cons_iff {text after : List Char} {digit : Char}
    (hdigit : (percentValue? digit).isSome) :
    percentEncode isReservedInPath text = digit :: after ↔
      ∃ rest, text = digit :: rest ∧ percentEncode isReservedInPath rest = after := by
  have hplain := isReservedInPath_of_percentValue? hdigit
  cases text with
  | nil => simp [percentEncode]
  | cons c rest =>
    rw [percentEncode_cons]
    by_cases hc : isReservedInPath c = true
    · have hne : c ≠ digit := by
        rintro rfl
        rw [hc] at hplain
        cases hplain
      -- What is written by its bytes starts with a percent sign, and that is no digit.
      have hpercent : digit ≠ '%' := by
        rintro rfl
        cases hdigit
      obtain ⟨b, bytes, hbytes⟩ := List.exists_cons_of_ne_nil (String.utf8EncodeChar_ne_nil (c := c))
      rw [if_pos hc, hbytes]
      simp [percentByte, hne, hpercent.symm]
    · rw [if_neg hc]
      simp only [List.singleton_append, List.cons.injEq]
      constructor
      · rintro ⟨rfl, hrest⟩
        exact ⟨rest, ⟨rfl, rfl⟩, hrest⟩
      · rintro ⟨_, ⟨rfl, rfl⟩, hrest⟩
        exact ⟨rfl, hrest⟩

/-- The number of a byte is neither made nor undone by writing. -/
theorem startsWithByte_percentEncode_iff {text : List Char} :
    StartsWithByte (percentEncode isReservedInPath text) ↔ StartsWithByte text := by
  constructor
  · rintro ⟨high, low, rest, htext, hhigh, hlow⟩
    obtain ⟨rest', rfl, hrest'⟩ := (percentEncode_eq_cons_iff hhigh).1 htext
    obtain ⟨rest'', rfl, -⟩ := (percentEncode_eq_cons_iff hlow).1 hrest'
    exact ⟨high, low, rest'', rfl, hhigh, hlow⟩
  · rintro ⟨high, low, rest, rfl, hhigh, hlow⟩
    have hrest : percentEncode isReservedInPath (low :: rest)
        = low :: percentEncode isReservedInPath rest :=
      (percentEncode_eq_cons_iff hlow).2 ⟨rest, rfl, rfl⟩
    exact ⟨high, low, _, (percentEncode_eq_cons_iff hhigh).2 ⟨_, rfl, hrest⟩, hhigh, hlow⟩

/-- **What is written is read as before**, escapes or not. -/
theorem percentDecode_percentEncode (text : List Char) :
    percentDecode (percentEncode isReservedInPath text) = percentDecode text := by
  induction text using percentDecode_induction with
  | nil => rfl
  | byte high low rest h l hhigh hlow ih =>
    have hsign : isReservedInPath '%' = false := by decide
    have hhigh' := isReservedInPath_of_percentValue? (Option.isSome_of_eq_some hhigh)
    have hlow' := isReservedInPath_of_percentValue? (Option.isSome_of_eq_some hlow)
    -- An escape is written as it is, for its characters stand for themselves.
    have hwritten : percentEncode isReservedInPath ('%' :: high :: low :: rest)
        = '%' :: high :: low :: percentEncode isReservedInPath rest := by
      simp only [percentEncode_cons, hsign, hhigh', hlow', Bool.false_eq_true, if_false,
        List.singleton_append]
    rw [hwritten, percentDecode_byte hhigh hlow, percentDecode_byte hhigh hlow, ih]
  | other c rest hbyte ih =>
    rw [percentEncode_cons, percentDecode_cons hbyte]
    by_cases hc : isReservedInPath c = true
    · rw [if_pos hc, percentDecode_percentBytes, ih]
    · rw [if_neg hc, List.singleton_append, percentDecode_cons, ih]
      rwa [startsWithByte_percentEncode_iff]

/-- No character that has to be written by its bytes is left, and no slash comes up. -/
theorem not_mem_percentEncode {text : List Char} {mark : Char}
    (hmark : mark ≠ '%' ∧ (percentValue? mark).isNone)
    (h : isReservedInPath mark = true ∨ mark ∉ text) :
    mark ∉ percentEncode isReservedInPath text := by
  intro hmem
  obtain ⟨c, hc, hmem⟩ := List.mem_flatMap.1 hmem
  by_cases hreserved : isReservedInPath c = true
  · rw [if_pos hreserved] at hmem
    obtain ⟨b, -, hb⟩ := List.mem_flatMap.1 hmem
    -- The mark is no digit, for digits have a value.
    have hdigit : ∀ n < 16, mark ≠ percentDigit n := by
      rintro n hn rfl
      rw [percentValue?_percentDigit hn] at hmark
      exact Bool.false_ne_true hmark.2
    have hb' : b.toNat < 256 := b.toNat_lt
    simp only [percentByte, List.mem_cons, List.not_mem_nil, or_false] at hb
    rcases hb with hb | hb | hb
    · exact hmark.1 hb
    · exact hdigit _ (by omega) hb
    · exact hdigit _ (by omega) hb
  · rw [if_neg hreserved, List.mem_singleton] at hmem
    subst hmem
    exact h.elim hreserved fun hnot => hnot hc

/-- No slash comes up by writing. -/
theorem slash_not_mem_percentEncode {text : List Char} (h : '/' ∉ text) :
    '/' ∉ percentEncode isReservedInPath text :=
  not_mem_percentEncode (by decide) (.inr h)

/-! ### Escapes -/

/-- A text without escapes is read as its own bytes. -/
theorem percentDecode_eq_utf8 {text : List Char} (h : ¬ HasEscape text) :
    percentDecode text = Text.utf8 text := by
  induction text with
  | nil => rfl
  | cons c rest ih =>
    rw [hasEscape_cons_iff, not_or] at h
    rw [percentDecode_cons h.1, ih h.2, Text.utf8, Text.utf8, List.flatMap_cons]

/-- The bytes of a text are those of its first character and those of the rest. -/
theorem length_utf8_cons (c : Char) (rest : List Char) :
    (Text.utf8 (c :: rest)).length = (String.utf8EncodeChar c).length + (Text.utf8 rest).length := by
  rw [Text.utf8, Text.utf8, List.flatMap_cons, List.length_append]

/-- Every character has a byte. -/
theorem one_le_length_utf8EncodeChar (c : Char) : 1 ≤ (String.utf8EncodeChar c).length :=
  List.length_pos_iff.2 String.utf8EncodeChar_ne_nil

/-- A text is read as no more bytes than it has, and as fewer if there is an escape: three of its
bytes, at least, stand for one. -/
theorem length_percentDecode (text : List Char) :
    (percentDecode text).length ≤ (Text.utf8 text).length ∧
      (HasEscape text → (percentDecode text).length < (Text.utf8 text).length) := by
  induction text using percentDecode_induction with
  | nil => exact ⟨Nat.le_refl _, fun ⟨before, after, htext, _⟩ => by simp at htext⟩
  | byte high low rest h l hhigh hlow ih =>
    -- One byte is read, for three characters.
    have := one_le_length_utf8EncodeChar '%'
    have := one_le_length_utf8EncodeChar high
    have := one_le_length_utf8EncodeChar low
    rw [percentDecode_byte hhigh hlow, length_utf8_cons, length_utf8_cons, length_utf8_cons,
      List.length_cons]
    exact ⟨by omega, fun _ => by omega⟩
  | other c rest hbyte ih =>
    rw [percentDecode_cons hbyte, hasEscape_cons_iff, or_iff_right hbyte, length_utf8_cons,
      List.length_append]
    exact ⟨by omega, fun hescape => by have := ih.2 hescape; omega⟩

/-- A text has an escape exactly if it is read as fewer bytes than it has. -/
theorem hasEscape_iff {text : List Char} :
    HasEscape text ↔ (percentDecode text).length < (Text.utf8 text).length := by
  refine ⟨(length_percentDecode text).2, fun h => ?_⟩
  by_contra hescape
  rw [percentDecode_eq_utf8 hescape] at h
  exact Nat.lt_irrefl _ h

instance (text : List Char) : Decidable (HasEscape text) :=
  decidable_of_iff _ hasEscape_iff.symm

end Triage.Http
