import Triage.Text.Utf8
import Mathlib.Tactic.Common

namespace Triage.Text

/-!
# Bytes and back

* `decodeUtf8From_last`, `decodeUtf8From_more` — one byte in the middle of a character.
* `decodeUtf8From_utf8EncodeChar` — the bytes of a character are read as that character.
* `decodeUtf8_utf8` — the bytes of a text are read as that text, so that no two texts share them.
* `exists_rest_of_decodeUtf8From` — a character is read from its bytes and no others.
* `strict?_decodeUtf8_eq_some_iff` — nor is a text read from other bytes than its own.
-/

/-- The number of a character is that of a Unicode scalar value. -/
theorem toNat_of_char (c : Char) :
    c.toNat < 0xD800 ∨ 0xDFFF < c.toNat ∧ c.toNat < 0x110000 :=
  c.valid

section Within

variable {value low high b : Nat} (rest : List UInt8) (hlow : low ≤ b) (hhigh : b ≤ high)
  (hb : b < 256)
include hlow hhigh hb

/-- The last byte that is due completes the character. -/
theorem decodeUtf8From_last :
    decodeUtf8From (.within value 1 low high) (UInt8.ofNat b :: rest)
      = some (Char.ofNat (value * 64 + (b - 0x80))) :: decodeUtf8From .start rest := by
  have hbyte : (UInt8.ofNat b).toNat = b := Nat.mod_eq_of_lt hb
  simp [decodeUtf8From, Utf8State.step, hbyte, hlow, hhigh]

/-- Before it, each byte that is due brings six more bits. -/
theorem decodeUtf8From_more (left : Nat) :
    decodeUtf8From (.within value (left + 2) low high) (UInt8.ofNat b :: rest)
      = decodeUtf8From (.within (value * 64 + (b - 0x80)) (left + 1) 0x80 0xBF) rest := by
  have hbyte : (UInt8.ofNat b).toNat = b := Nat.mod_eq_of_lt hb
  simp [decodeUtf8From, Utf8State.step, hbyte, hlow, hhigh]

end Within

/-- The first byte of a character of several bytes. -/
theorem decodeUtf8From_lead {b : Nat} {state : Utf8State} (rest : List UInt8) (hb : b < 256)
    (h : Utf8State.lead b = ([], state)) :
    decodeUtf8From .start (UInt8.ofNat b :: rest) = decodeUtf8From state rest := by
  have hbyte : (UInt8.ofNat b).toNat = b := Nat.mod_eq_of_lt hb
  simp [decodeUtf8From, Utf8State.step, hbyte, h]

/-! The first byte decides on the number of bytes. -/

section Lead

variable {b : Nat}

/-- A byte of ASCII is a character by itself. -/
theorem lead_of_one (h : b < 0x80) : Utf8State.lead b = ([some (Char.ofNat b)], .start) :=
  if_pos h

/-- This byte starts a character of two bytes. -/
theorem lead_of_two (hlow : 0xC2 ≤ b) (hhigh : b < 0xE0) :
    Utf8State.lead b = ([], .within (b - 0xC0) 1 0x80 0xBF) := by
  rw [Utf8State.lead, if_neg (by omega), if_neg (by omega), if_pos hhigh]

/-- The second byte is bounded to leave out longer writings and surrogates. -/
theorem lead_of_three (hlow : 0xE0 ≤ b) (hhigh : b < 0xF0) :
    Utf8State.lead b = ([], .within (b - 0xE0) 2 (if b = 0xE0 then 0xA0 else 0x80)
      (if b = 0xED then 0x9F else 0xBF)) := by
  rw [Utf8State.lead, if_neg (by omega), if_neg (by omega), if_neg (by omega), if_pos hhigh]

/-- The second byte is bounded to leave out longer writings and what is above Unicode. -/
theorem lead_of_four (hlow : 0xF0 ≤ b) (hhigh : b < 0xF5) :
    Utf8State.lead b = ([], .within (b - 0xF0) 3 (if b = 0xF0 then 0x90 else 0x80)
      (if b = 0xF4 then 0x8F else 0xBF)) := by
  rw [Utf8State.lead, if_neg (by omega), if_neg (by omega), if_neg (by omega), if_neg (by omega),
    if_pos hhigh]

/-- Any other byte is an ill-formed piece by itself. -/
theorem lead_of_none (h : 0x80 ≤ b ∧ b < 0xC2 ∨ 0xF5 ≤ b) : Utf8State.lead b = ([none], .start) := by
  simp only [Utf8State.lead]
  split_ifs <;> first | rfl | omega

end Lead

/-- **The bytes of a character are read as that character**, whatever comes after them. -/
theorem decodeUtf8From_utf8EncodeChar (c : Char) (rest : List UInt8) :
    decodeUtf8From .start (String.utf8EncodeChar c ++ rest)
      = some c :: decodeUtf8From .start rest := by
  have hvalid := toNat_of_char c
  have hchar : ∀ n, n = c.toNat → Char.ofNat n = c := by
    rintro n rfl
    exact Char.ofNat_toNat c
  simp only [String.utf8EncodeChar, show c.val.toNat = c.toNat from rfl]
  generalize c.toNat = v at hvalid hchar
  -- The code point decides on the number of bytes; from here on it is a matter of arithmetic.
  split_ifs with hone htwo hthree
  · have hbyte : (UInt8.ofNat v).toNat = v := Nat.mod_eq_of_lt (by omega)
    simp only [List.singleton_append, decodeUtf8From, Utf8State.step, hbyte,
      lead_of_one (show v < 0x80 by omega), hchar v rfl]
  · simp only [List.cons_append, List.nil_append]
    rw [decodeUtf8From_lead _ (by omega) (lead_of_two (by omega) (by omega)),
      decodeUtf8From_last rest (by omega) (by omega) (by omega), hchar _ (by omega)]
  · simp only [List.cons_append, List.nil_append]
    rw [decodeUtf8From_lead _ (by omega) (lead_of_three (by omega) (by omega)),
      decodeUtf8From_more _ (by split <;> omega) (by split <;> omega) (by omega),
      decodeUtf8From_last rest (by omega) (by omega) (by omega), hchar _ (by omega)]
  · simp only [List.cons_append, List.nil_append]
    rw [decodeUtf8From_lead _ (by omega) (lead_of_four (by omega) (by omega)),
      decodeUtf8From_more _ (by split <;> omega) (by split <;> omega) (by omega),
      decodeUtf8From_more _ (by omega) (by omega) (by omega),
      decodeUtf8From_last rest (by omega) (by omega) (by omega), hchar _ (by omega)]

/-- **The bytes of a text are read as that text.** -/
theorem decodeUtf8_utf8 (text : List Char) : decodeUtf8 (utf8 text) = text.map some := by
  induction text with
  | nil => rfl
  | cons c rest ih =>
    rw [decodeUtf8] at ih ⊢
    rw [utf8, List.flatMap_cons, decodeUtf8From_utf8EncodeChar, List.map_cons, ← ih, utf8]

/-- Texts with the same bytes are the same. -/
theorem utf8_injective : Function.Injective utf8 := by
  intro text text' h
  have hdecode := congrArg decodeUtf8 h
  rw [decodeUtf8_utf8, decodeUtf8_utf8] at hdecode
  exact (List.map_inj_right fun _ _ => Option.some.inj).1 hdecode

/-! ### No other bytes -/

section Continuing

variable {value low high : Nat} {bytes : List UInt8} {c : Char} {symbols : List (Option Char)}

/-- In the middle of a character that turns out well-formed, the next byte is in its bounds. -/
theorem exists_byte_of_within {left : Nat}
    (h : decodeUtf8From (.within value left low high) bytes = some c :: symbols) :
    ∃ b rest, bytes = UInt8.ofNat b :: rest ∧ low ≤ b ∧ b ≤ high ∧ b < 256 := by
  cases bytes with
  | nil => simp [decodeUtf8From] at h
  | cons b rest =>
    have hb : low ≤ b.toNat ∧ b.toNat ≤ high := by
      by_contra hb
      simp [decodeUtf8From, Utf8State.step, hb] at h
    exact ⟨b.toNat, rest, by rw [UInt8.ofNat_toNat], hb.1, hb.2, b.toNat_lt⟩

/-- If one byte was due, it completes the character. -/
theorem exists_last_of_within
    (h : decodeUtf8From (.within value 1 low high) bytes = some c :: symbols) :
    ∃ b rest, bytes = UInt8.ofNat b :: rest ∧ low ≤ b ∧ b ≤ high ∧
      c = Char.ofNat (value * 64 + (b - 0x80)) ∧ decodeUtf8From .start rest = symbols := by
  obtain ⟨b, rest, rfl, hlow, hhigh, hb⟩ := exists_byte_of_within h
  rw [decodeUtf8From_last rest hlow hhigh hb] at h
  obtain ⟨hc, hrest⟩ := List.cons.inj h
  exact ⟨b, rest, rfl, hlow, hhigh, (Option.some.inj hc).symm, hrest⟩

/-- If more were due, it brings six bits and the others are still due. -/
theorem exists_more_of_within {left : Nat}
    (h : decodeUtf8From (.within value (left + 2) low high) bytes = some c :: symbols) :
    ∃ b rest, bytes = UInt8.ofNat b :: rest ∧ low ≤ b ∧ b ≤ high ∧
      decodeUtf8From (.within (value * 64 + (b - 0x80)) (left + 1) 0x80 0xBF) rest
        = some c :: symbols := by
  obtain ⟨b, rest, rfl, hlow, hhigh, hb⟩ := exists_byte_of_within h
  rw [decodeUtf8From_more rest hlow hhigh hb] at h
  exact ⟨b, rest, rfl, hlow, hhigh, h⟩

end Continuing

/-- The number of a Unicode scalar value is that of its character. -/
theorem toNat_ofNat_of_scalar {v : Nat} (h : v < 0xD800 ∨ 0xDFFF < v ∧ v < 0x110000) :
    (Char.ofNat v).toNat = v := by
  rw [Char.ofNat, dif_pos h]
  rfl

/-- The bytes of a scalar value, by its number. -/
theorem utf8EncodeChar_ofNat {v : Nat} (h : v < 0xD800 ∨ 0xDFFF < v ∧ v < 0x110000) :
    String.utf8EncodeChar (Char.ofNat v)
      = if v ≤ 0x7F then [UInt8.ofNat v]
        else if v ≤ 0x7FF then [UInt8.ofNat (v / 64 % 32 + 192), UInt8.ofNat (v % 64 + 128)]
        else if v ≤ 0xFFFF then
          [UInt8.ofNat (v / 4096 % 16 + 224), UInt8.ofNat (v / 64 % 64 + 128), UInt8.ofNat (v % 64 + 128)]
        else
          [UInt8.ofNat (v / 262144 % 8 + 240), UInt8.ofNat (v / 4096 % 64 + 128),
            UInt8.ofNat (v / 64 % 64 + 128), UInt8.ofNat (v % 64 + 128)] := by
  have hv : (Char.ofNat v).val.toNat = v := toNat_ofNat_of_scalar h
  rw [String.utf8EncodeChar, hv]

/-- Bytes of ASCII are those of the characters with their numbers. -/
theorem utf8_map_ofNat {bytes : List UInt8} (h : ∀ b ∈ bytes, b.toNat < 0x80) :
    utf8 (bytes.map fun b => Char.ofNat b.toNat) = bytes := by
  induction bytes with
  | nil => rfl
  | cons b rest ih =>
    obtain ⟨hb, hrest⟩ := List.forall_mem_cons.1 h
    have hbyte : String.utf8EncodeChar (Char.ofNat b.toNat) = [b] := by
      rw [utf8EncodeChar_ofNat (by omega), if_pos (by omega), UInt8.ofNat_toNat]
    rw [List.map_cons, utf8, List.flatMap_cons, hbyte, ← utf8, ih hrest, List.singleton_append]

/-! What a character adds up to has just the bytes that it is read from. -/

section Rest

variable {b : Nat} {bytes : List UInt8} {c : Char} {symbols : List (Option Char)}

/-- What is read after the first of two bytes is a character of two bytes. -/
theorem exists_rest_of_two (hlow : 0xC2 ≤ b) (hhigh : b < 0xE0)
    (h : decodeUtf8From (.within (b - 0xC0) 1 0x80 0xBF) bytes = some c :: symbols) :
    ∃ rest, UInt8.ofNat b :: bytes = String.utf8EncodeChar c ++ rest
      ∧ decodeUtf8From .start rest = symbols := by
  obtain ⟨b₁, rest, rfl, hlow₁, hhigh₁, hc, hrest⟩ := exists_last_of_within h
  refine ⟨rest, ?_, hrest⟩
  rw [hc]
  -- From here on it is a matter of arithmetic, on the number of the character.
  generalize hv : (b - 0xC0) * 64 + (b₁ - 0x80) = v
  rw [utf8EncodeChar_ofNat (by omega), if_neg (by omega), if_pos (by omega),
    show v / 64 % 32 + 192 = b by omega, show v % 64 + 128 = b₁ by omega]
  rfl

/-- What is read after the first of three bytes is a character of three bytes. -/
theorem exists_rest_of_three (hlow : 0xE0 ≤ b) (hhigh : b < 0xF0)
    (h : decodeUtf8From (.within (b - 0xE0) 2 (if b = 0xE0 then 0xA0 else 0x80)
      (if b = 0xED then 0x9F else 0xBF)) bytes = some c :: symbols) :
    ∃ rest, UInt8.ofNat b :: bytes = String.utf8EncodeChar c ++ rest
      ∧ decodeUtf8From .start rest = symbols := by
  obtain ⟨b₁, bytes, rfl, hlow₁, hhigh₁, h⟩ := exists_more_of_within h
  obtain ⟨b₂, rest, rfl, hlow₂, hhigh₂, hc, hrest⟩ := exists_last_of_within h
  refine ⟨rest, ?_, hrest⟩
  rw [hc]
  -- The bounds of the second byte leave out longer writings and surrogates.
  have hscalar : 0x80 ≤ b₁ ∧ b₁ ≤ 0xBF ∧ (b = 0xE0 → 0xA0 ≤ b₁) ∧ (b = 0xED → b₁ ≤ 0x9F) := by
    split_ifs at hlow₁ hhigh₁ <;> omega
  generalize hv : ((b - 0xE0) * 64 + (b₁ - 0x80)) * 64 + (b₂ - 0x80) = v
  rw [utf8EncodeChar_ofNat (by omega), if_neg (by omega), if_neg (by omega), if_pos (by omega),
    show v / 4096 % 16 + 224 = b by omega, show v / 64 % 64 + 128 = b₁ by omega,
    show v % 64 + 128 = b₂ by omega]
  rfl

/-- What is read after the first of four bytes is a character of four bytes. -/
theorem exists_rest_of_four (hlow : 0xF0 ≤ b) (hhigh : b < 0xF5)
    (h : decodeUtf8From (.within (b - 0xF0) 3 (if b = 0xF0 then 0x90 else 0x80)
      (if b = 0xF4 then 0x8F else 0xBF)) bytes = some c :: symbols) :
    ∃ rest, UInt8.ofNat b :: bytes = String.utf8EncodeChar c ++ rest
      ∧ decodeUtf8From .start rest = symbols := by
  obtain ⟨b₁, bytes, rfl, hlow₁, hhigh₁, h⟩ := exists_more_of_within h
  obtain ⟨b₂, bytes, rfl, hlow₂, hhigh₂, h⟩ := exists_more_of_within h
  obtain ⟨b₃, rest, rfl, hlow₃, hhigh₃, hc, hrest⟩ := exists_last_of_within h
  refine ⟨rest, ?_, hrest⟩
  rw [hc]
  -- The bounds of the second byte leave out longer writings and what is above Unicode.
  have hscalar : 0x80 ≤ b₁ ∧ b₁ ≤ 0xBF ∧ (b = 0xF0 → 0x90 ≤ b₁) ∧ (b = 0xF4 → b₁ ≤ 0x8F) := by
    split_ifs at hlow₁ hhigh₁ <;> omega
  generalize hv :
    (((b - 0xF0) * 64 + (b₁ - 0x80)) * 64 + (b₂ - 0x80)) * 64 + (b₃ - 0x80) = v
  rw [utf8EncodeChar_ofNat (by omega), if_neg (by omega), if_neg (by omega), if_neg (by omega),
    show v / 262144 % 8 + 240 = b by omega, show v / 4096 % 64 + 128 = b₁ by omega,
    show v / 64 % 64 + 128 = b₂ by omega, show v % 64 + 128 = b₃ by omega]
  rfl

end Rest

/-- **A character is read from its bytes and no others.** -/
theorem exists_rest_of_decodeUtf8From {bytes : List UInt8} {c : Char} {symbols : List (Option Char)}
    (h : decodeUtf8From .start bytes = some c :: symbols) :
    ∃ rest, bytes = String.utf8EncodeChar c ++ rest ∧ decodeUtf8From .start rest = symbols := by
  cases bytes with
  | nil => simp [decodeUtf8From] at h
  | cons first bytes =>
    obtain ⟨b, hb, rfl⟩ : ∃ b, b < 256 ∧ first = UInt8.ofNat b :=
      ⟨first.toNat, first.toNat_lt, by rw [UInt8.ofNat_toNat]⟩
    have hbyte : (UInt8.ofNat b).toNat = b := Nat.mod_eq_of_lt hb
    -- The first byte says how many there are; no other first byte starts a character.
    by_cases hone : b < 0x80
    · simp only [decodeUtf8From, Utf8State.step, hbyte, lead_of_one hone, List.singleton_append] at h
      obtain ⟨hc, hrest⟩ := List.cons.inj h
      obtain rfl := Option.some.inj hc
      refine ⟨bytes, ?_, hrest⟩
      rw [utf8EncodeChar_ofNat (by omega), if_pos (by omega)]
      rfl
    by_cases htwo : 0xC2 ≤ b ∧ b < 0xE0
    · rw [decodeUtf8From_lead bytes hb (lead_of_two htwo.1 htwo.2)] at h
      exact exists_rest_of_two htwo.1 htwo.2 h
    by_cases hthree : 0xE0 ≤ b ∧ b < 0xF0
    · rw [decodeUtf8From_lead bytes hb (lead_of_three hthree.1 hthree.2)] at h
      exact exists_rest_of_three hthree.1 hthree.2 h
    by_cases hfour : 0xF0 ≤ b ∧ b < 0xF5
    · rw [decodeUtf8From_lead bytes hb (lead_of_four hfour.1 hfour.2)] at h
      exact exists_rest_of_four hfour.1 hfour.2 h
    have hnone := lead_of_none (show 0x80 ≤ b ∧ b < 0xC2 ∨ 0xF5 ≤ b by omega)
    simp [decodeUtf8From, Utf8State.step, hbyte, hnone] at h

/-- What has begun as a character is read as something. -/
theorem decodeUtf8From_within_ne_nil (value left low high : Nat) (bytes : List UInt8) :
    decodeUtf8From (.within value left low high) bytes ≠ [] := by
  induction bytes generalizing value left low high with
  | nil => simp [decodeUtf8From]
  | cons b rest ih =>
    simp only [decodeUtf8From, Utf8State.step]
    split_ifs <;> simp [ih]

/-- Bytes are read as something. -/
theorem decodeUtf8_ne_nil (b : UInt8) (rest : List UInt8) : decodeUtf8 (b :: rest) ≠ [] := by
  simp only [decodeUtf8, decodeUtf8From, Utf8State.step, Utf8State.lead]
  split_ifs <;> simp [decodeUtf8From_within_ne_nil]

/-- **The bytes of a text, and no others, are read as that text.** -/
theorem decodeUtf8_eq_map_some_iff {bytes : List UInt8} {text : List Char} :
    decodeUtf8 bytes = text.map some ↔ bytes = utf8 text := by
  constructor
  · intro h
    induction text generalizing bytes with
    | nil =>
      cases bytes with
      | nil => rfl
      | cons b rest => exact absurd h (decodeUtf8_ne_nil b rest)
    | cons c more ih =>
      obtain ⟨rest, rfl, hrest⟩ := exists_rest_of_decodeUtf8From h
      rw [ih hrest]
      rfl
  · rintro rfl
    exact decodeUtf8_utf8 text

/-- The well-formed characters of a list, if all of it is well-formed. -/
theorem mapM_id_eq_some_iff {symbols : List (Option Char)} {text : List Char} :
    symbols.mapM id = some text ↔ symbols = text.map some := by
  induction symbols generalizing text with
  | nil => cases text <;> simp
  | cons symbol rest ih =>
    cases symbol with
    | none => cases text <;> simp
    | some c => cases text <;> simp [Option.bind_eq_some_iff, ih, and_comm]

/-- **The bytes of a text, and no others, are strictly read as that text.** -/
theorem strict?_decodeUtf8_eq_some_iff {bytes : List UInt8} {text : String} :
    strict? (decodeUtf8 bytes) = some text ↔ bytes = utf8 text.toList := by
  rw [← decodeUtf8_eq_map_some_iff, ← mapM_id_eq_some_iff, strict?, Option.map_eq_some_iff]
  constructor
  · rintro ⟨chars, hchars, rfl⟩
    rw [hchars, String.toList_ofList]
  · intro h
    exact ⟨text.toList, h, String.ofList_toList⟩

end Triage.Text
