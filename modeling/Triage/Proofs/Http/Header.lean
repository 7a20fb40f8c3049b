import Triage.Http.Header
import Triage.Proofs.Text.Utf8

namespace Triage.Http

/-!
# What is read from headers

* `IsPrintable` — the values that are read as texts, by their bytes.
* `headerText?_eq_some_iff` — such a value is read as the text that has its bytes, and no other is read.
* `head?_valuesOf_eq_some_iff` — the first value under a name, by the header that it stands in.
-/

/-- The bytes are those of printable characters of ASCII, and tabs. -/
def IsPrintable (value : List UInt8) : Prop := ∀ b ∈ value, b = 0x09 ∨ 0x20 ≤ b ∧ b < 0x7F

/-- A value is read as a text exactly if it is printable, and then as the text that has its bytes. -/
theorem headerText?_eq_some_iff {value : List UInt8} {text : List Char} :
    headerText? value = some text ↔ IsPrintable value ∧ value = Text.utf8 text := by
  have hprintable : (value.all fun b => b == 9 || (0x20 ≤ b && b < 0x7F)) = true ↔ IsPrintable value := by
    simp [IsPrintable]
  rw [headerText?, Option.ite_none_right_eq_some, hprintable, Option.some.injEq]
  refine and_congr_right fun hvalue => ?_
  have hascii : ∀ b ∈ value, b.toNat < 0x80 := by
    intro b hb
    obtain rfl | ⟨-, hlt⟩ := hvalue b hb
    · decide
    · exact Nat.lt_trans (UInt8.lt_iff_toNat_lt.1 hlt) (by decide)
  -- What is read has the bytes of the value, and no other text has them.
  have hbytes := Text.utf8_map_ofNat hascii
  constructor
  · rintro rfl
    exact hbytes.symm
  · intro h
    exact Text.utf8_injective (hbytes.trans h)

/-- The first value under a name stands in the first header that has the name. -/
theorem head?_valuesOf_eq_some_iff {name : String} {headers : List Header} {value : List UInt8} :
    (valuesOf name headers).head? = some value ↔ ∃ before given after,
      headers = before ++ (given, value) :: after ∧ given.map Char.toLower = name ∧
        ∀ header ∈ before, header.1.map Char.toLower ≠ name := by
  rw [valuesOf, List.head?_map, List.head?_filter, Option.map_eq_some_iff]
  simp only [List.find?_eq_some_iff_append, beq_iff_eq, Bool.not_eq_true', beq_eq_false_iff_ne]
  constructor
  · rintro ⟨⟨given, value⟩, ⟨hname, before, after, hheaders, hbefore⟩, rfl⟩
    exact ⟨before, given, after, hheaders, hname, hbefore⟩
  · rintro ⟨before, given, after, hheaders, hname, hbefore⟩
    exact ⟨(given, value), ⟨hname, before, after, hheaders, hbefore⟩, rfl⟩

end Triage.Http
