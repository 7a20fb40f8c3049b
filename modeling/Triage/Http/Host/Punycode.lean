namespace Triage.Http

/-!
# Punycode

Text in ASCII: first its ASCII characters, then, after a hyphen, where the other ones go. These are
taken by their code points in ascending order. Each is a number: how many places are passed between it
and the one before, where a text has one place for each code point and each position. Numbers are written in
letters and digits, the lowest place first.

* `punyDecode?` — reads a text.
* `punyEncode` — writes a text.
-/

/-- Numbers stay below this one in reading. -/
def punyLimit : Nat := Nat.pow 2 32

/-- The value of a digit: letters come before decimal digits. -/
def punyValue? (c : Char) : Option Nat :=
  if c.isLower then some (c.toNat - 'a'.toNat)
  else if c.isUpper then some (c.toNat - 'A'.toNat)
  else if c.isDigit then some (c.toNat - '0'.toNat + 26)
  else none

/-- The digit of a value below 36. -/
def punyDigit (value : Nat) : Char :=
  if value < 26 then Char.ofNat ('a'.toNat + value) else Char.ofNat ('0'.toNat + (value - 26))

/-- A digit below this one ends a number; `place` is 36 for the first digit and 36 more for each next. -/
def punyThreshold (place bias : Nat) : Nat := max 1 (min 26 (place - bias))

/-- Divides by 35 as long as the number is large, and counts 36 for each time. -/
def punyShrink (count delta : Nat) : Nat :=
  if 455 < delta then punyShrink (count + 36) (delta / 35) else count + 36 * delta / (delta + 38)
termination_by delta

/-- The bias after a number in a text that now has so many characters. -/
def punyAdapt (delta length : Nat) (isFirst : Bool) : Nat :=
  let delta := if isFirst then delta / 700 else delta / 2
  punyShrink 0 (delta + delta / length)

/-! ### Reading -/

/-- The text so far, the code point and the position that are reached, and the number that is being read:
where it started, its next place and the weight of that. -/
structure PunyReader where
  text : List Char
  code : Nat
  position : Nat
  start : Nat
  bias : Nat
  place : Nat
  weight : Nat

namespace PunyReader

/-- A reader of what comes after the ASCII characters. -/
def after (text : List Char) : PunyReader := ⟨text, 0x80, 0, 0, 72, 36, 1⟩

/-- Inserts a character once its number is complete. -/
def insert? (reader : PunyReader) (position : Nat) : Option PunyReader :=
  let length := reader.text.length + 1
  let code := reader.code + position / length
  if code.isValidChar then
    let next := position % length + 1
    some
      { text := reader.text.insertIdx (position % length) (Char.ofNat code)
        code := code
        position := next
        start := next
        bias := punyAdapt (position - reader.start) length (reader.start == 0)
        place := 36
        weight := 1 }
  else none

/-- One more digit. -/
def step? (reader : PunyReader) (c : Char) : Option PunyReader := do
  let digit ← punyValue? c
  let position := reader.position + digit * reader.weight
  let threshold := punyThreshold reader.place reader.bias
  let weight := reader.weight * (36 - threshold)
  if punyLimit ≤ position then none
  else if digit < threshold then reader.insert? position
  else if punyLimit ≤ weight then none
  else some { reader with position := position, place := reader.place + 36, weight := weight }

/-- The text, if the last number is complete. -/
def read? (reader : PunyReader) : List Char → Option (List Char)
  | [] => if reader.place = 36 then some reader.text else none
  | c :: rest => (reader.step? c).bind (·.read? rest)

end PunyReader

/-- The ASCII characters and the digits of a written text: the last hyphen parts them, unless it comes
first. -/
def punyParts (written : List Char) : List Char × List Char :=
  let digits := (written.reverse.takeWhile (· != '-')).reverse
  let ascii := written.take (written.length - digits.length - 1)
  if ascii.isEmpty then ([], written) else (ascii, digits)

/-- Reads a text. -/
def punyDecode? (written : List Char) : Option (List Char) :=
  let (ascii, digits) := punyParts written
  if ascii.all (·.toNat < 0x80) then (PunyReader.after ascii).read? digits else none

/-! ### Writing -/

/-- The digits of a number. -/
def punyDigits (place bias number : Nat) : List Char :=
  let threshold := punyThreshold place bias
  if number < threshold then [punyDigit number]
  else
    punyDigit (threshold + (number - threshold) % (36 - threshold)) ::
      punyDigits (place + 36) bias ((number - threshold) / (36 - threshold))
termination_by number
decreasing_by
  have one_le : 1 ≤ punyThreshold place bias := Nat.le_max_left ..
  calc (number - punyThreshold place bias) / (36 - punyThreshold place bias)
      ≤ number - punyThreshold place bias := Nat.div_le_self ..
    _ < number := by omega

/-- What is written so far, the places passed since, the bias, and how many characters are written. -/
structure PunyWriter where
  written : List Char
  delta : Nat
  bias : Nat
  count : Nat

namespace PunyWriter

/-- Passes a character of the text on the way through the places of a code point. -/
def pass (code ascii : Nat) (writer : PunyWriter) (c : Char) : PunyWriter :=
  if c.toNat < code then { writer with delta := writer.delta + 1 }
  else if c.toNat = code then
    { written := writer.written ++ punyDigits 36 writer.bias writer.delta
      delta := 0
      bias := punyAdapt writer.delta (writer.count + 1) (writer.count == ascii)
      count := writer.count + 1 }
  else writer

/-- Writes the characters of a text with these code points, which are in ascending order. The code
points before `reached` are passed. -/
def write (text : List Char) (ascii reached : Nat) (writer : PunyWriter) : List Nat → List Char
  | [] => writer.written
  | code :: codes =>
    let delta := writer.delta + (code - reached) * (writer.count + 1)
    let writer := text.foldl (pass code ascii) { writer with delta := delta }
    write text ascii (code + 1) { writer with delta := writer.delta + 1 } codes

end PunyWriter

/-- The code points of a text above ASCII, each once and in ascending order. -/
def wideCodes (text : List Char) : List Nat :=
  (((text.map Char.toNat).filter (0x80 ≤ ·)).mergeSort (· ≤ ·)).eraseDups

/-- Writes a text. -/
def punyEncode (text : List Char) : List Char :=
  let ascii := text.filter (·.toNat < 0x80)
  let written := if ascii.isEmpty then [] else ascii ++ ['-']
  PunyWriter.write text ascii.length 0x80 ⟨written, 0, 72, ascii.length⟩ (wideCodes text)

end Triage.Http
