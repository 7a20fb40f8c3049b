namespace Triage.Text

/-!
# Searching and cutting a text

* `occurs needle text` — `needle` stands somewhere in `text`, as an unbroken run.
* `cutAt c text` — the text before the first `c` and the text after it.
* `splitBy isMark text` — the texts between marks.

Cutting is the same for bytes.
-/

variable {α : Type}

/-- The needle is a run of neighbouring characters of the text. -/
def occurs (needle : List Char) : List Char → Bool
  | [] => needle.isEmpty
  | c :: rest => needle.isPrefixOf (c :: rest) || occurs needle rest

/-- A needle is found exactly if it is an infix of the text. -/
theorem occurs_iff {needle text : List Char} : occurs needle text = true ↔ needle <:+: text := by
  induction text with
  | nil => simp [occurs]
  | cons c rest ih => simp [occurs, ih, List.infix_cons_iff]

/-- The text before the first `c` and the text after it, if `c` is there. -/
def cutAt [BEq α] (c : α) (text : List α) : Option (List α × List α) :=
  match text.dropWhile (· != c) with
  | [] => none
  | _ :: after => some (text.takeWhile (· != c), after)

/-- The texts between marks: one more than there are marks. -/
def splitBy (isMark : α → Bool) : List α → List (List α)
  | [] => [[]]
  | c :: rest =>
    if isMark c then [] :: splitBy isMark rest
    else match splitBy isMark rest with
      | [] => [[c]]
      | first :: others => (c :: first) :: others

/-- Even the empty text has one part. -/
theorem splitBy_ne_nil (isMark : α → Bool) (text : List α) : splitBy isMark text ≠ [] := by
  induction text with
  | nil => simp [splitBy]
  | cons c rest ih =>
    by_cases h : isMark c
    · simp [splitBy, h]
    · cases hs : splitBy isMark rest with
      | nil => exact absurd hs ih
      | cons first others => simp [splitBy, h, hs]

end Triage.Text
