import Triage.Proofs.Text.Utf8
import Mathlib.Data.Char
import Mathlib.Tactic.Common

namespace Triage.Text

/-!
# The order of bytes

* `utf8EncodeChar_append_lt` — the bytes of a smaller character come before those of a greater one.
* `utf8_lt_utf8_iff` — texts are in the order of their characters exactly if they are in that of their bytes.
-/

/-- Of two sequences of bytes, the one that is smaller at the first difference comes first. -/
theorem cons_ofNat_lt_cons_ofNat_iff {m n : Nat} (hm : m < 256) (hn : n < 256) {bytes others : List UInt8} :
    UInt8.ofNat m :: bytes < UInt8.ofNat n :: others ↔ m < n ∨ m = n ∧ bytes < others := by
  have hmByte : (UInt8.ofNat m).toNat = m := Nat.mod_eq_of_lt hm
  have hnByte : (UInt8.ofNat n).toNat = n := Nat.mod_eq_of_lt hn
  rw [List.cons_lt_cons_iff, UInt8.lt_iff_toNat_lt, ← UInt8.toNat_inj, hmByte, hnByte]

/-- **The bytes of a smaller character come first**, whatever follows them. -/
theorem utf8EncodeChar_append_lt {c d : Char} (h : c < d) (rest rest' : List UInt8) :
    String.utf8EncodeChar c ++ rest < String.utf8EncodeChar d ++ rest' := by
  have hlt : c.toNat < d.toNat := h
  have hc := toNat_of_char c
  have hd := toNat_of_char d
  have hdigits : ∀ n, n / 4096 = n / 64 / 64 ∧ n / 262144 = n / 64 / 64 / 64 := by
    intro n
    rw [Nat.div_div_eq_div_mul, Nat.div_div_eq_div_mul]
    exact ⟨rfl, rfl⟩
  simp only [String.utf8EncodeChar, show c.val.toNat = c.toNat from rfl,
    show d.val.toNat = d.toNat from rfl, hdigits]
  generalize c.toNat = v at hlt hc
  generalize d.toNat = w at hlt hd
  -- With fewer bytes the first one is smaller. With as many, the bytes are digits of the code points.
  split_ifs <;>
    simp (disch := omega) only [List.cons_append, List.nil_append, cons_ofNat_lt_cons_ofNat_iff] <;>
    omega

/-- What has the same start is in the order of what follows it. -/
theorem append_lt_append_iff {start bytes others : List UInt8} :
    start ++ bytes < start ++ others ↔ bytes < others := by
  induction start with
  | nil => rfl
  | cons b start ih =>
    rw [List.cons_append, List.cons_append, List.cons_lt_cons_iff, ih]
    simp

/-- The bytes of the first character come first. -/
theorem utf8_cons (c : Char) (text : List Char) : utf8 (c :: text) = String.utf8EncodeChar c ++ utf8 text :=
  List.flatMap_cons

/-- **The order of characters is the order of bytes.** -/
theorem utf8_lt_utf8_iff {text other : List Char} : utf8 text < utf8 other ↔ text < other := by
  induction text generalizing other with
  | nil =>
    cases other with
    | nil => exact iff_of_false (List.lt_irrefl _) (List.lt_irrefl _)
    | cons d other =>
      have hne : utf8 (d :: other) ≠ [] := by
        rw [utf8_cons]
        simp
      obtain ⟨b, bytes, hbytes⟩ := List.exists_cons_of_ne_nil hne
      rw [hbytes]
      exact iff_of_true (List.nil_lt_cons ..) (List.nil_lt_cons ..)
  | cons c text ih =>
    cases other with
    | nil => exact iff_of_false (List.not_lt_nil _) (List.not_lt_nil _)
    | cons d other =>
      rw [utf8_cons, utf8_cons, List.cons_lt_cons_iff]
      -- The first characters decide, unless they are the same.
      rcases lt_trichotomy c d with h | rfl | h
      · exact iff_of_true (utf8EncodeChar_append_lt h _ _) (.inl h)
      · rw [append_lt_append_iff, ih]
        simp
      · refine iff_of_false (List.lt_asymm (utf8EncodeChar_append_lt h _ _)) ?_
        rintro (h' | ⟨rfl, -⟩)
        · exact lt_asymm h h'
        · exact lt_irrefl _ h

end Triage.Text
