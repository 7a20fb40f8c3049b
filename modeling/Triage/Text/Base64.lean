namespace Triage.Text

/-!
# Bytes in sixty-four characters

* `base64` — three bytes in four characters; a group that is not full is padded.
-/

/-- The character of six bits. -/
def base64Digit (n : Nat) : Char :=
  if n < 26 then Char.ofNat ('A'.toNat + n)
  else if n < 52 then Char.ofNat ('a'.toNat + (n - 26))
  else if n < 62 then Char.ofNat ('0'.toNat + (n - 52))
  else if n = 62 then '+'
  else '/'

/-- The first `count` of the four characters for 24 bits. -/
def base64Group (count bits : Nat) : List Char :=
  [base64Digit (bits / 0x40000 % 64), base64Digit (bits / 0x1000 % 64),
    base64Digit (bits / 0x40 % 64), base64Digit (bits % 64)].take count

/-- Bytes in writing. -/
def base64 : List UInt8 → List Char
  | a :: b :: c :: rest =>
    base64Group 4 (a.toNat * 0x10000 + b.toNat * 0x100 + c.toNat) ++ base64 rest
  | [a, b] => base64Group 3 (a.toNat * 0x10000 + b.toNat * 0x100) ++ ['=']
  | [a] => base64Group 2 (a.toNat * 0x10000) ++ ['=', '=']
  | [] => []

end Triage.Text
