import Triage.Http.Percent
import Triage.Text.Search

namespace Triage.Http

/-!
# Paths

* `dots?` — the segments that stand for the place itself and for the place above it.
* `isDrive` — the segments that are never left upwards.
* `resolve` — a path without dot segments.
* `pathOf` — the path in its resolved form.
-/

/-- A slash of either kind. -/
def isSlash (c : Char) : Bool := c == '/' || c == '\\'

/-- How many dots a segment amounts to, if it is made of one or two. A dot may be written by its
byte. -/
def dots? : List Char → Option Nat
  | ['.'] => some 1
  | ['.', '.'] => some 2
  | '%' :: '2' :: e :: rest =>
    if e = 'e' ∨ e = 'E' then
      match rest with
      | [] => some 1
      | ['.'] => some 2
      | ['%', '2', e] => if e = 'e' ∨ e = 'E' then some 2 else none
      | _ => none
    else none
  | ['.', '%', '2', e] => if e = 'e' ∨ e = 'E' then some 2 else none
  | _ => none

/-- A letter with a colon or a bar, as drives are named. -/
def isDrive : List Char → Bool
  | [letter, mark] => letter.isAlpha && (mark == ':' || mark == '|')
  | _ => false

/-- The place above, for a path in reverse. The top has none, and a drive is not left. -/
def parent : List (List Char) → List (List Char)
  | [] => []
  | segment :: path => if isDrive segment then segment :: path else path

/-- Appends segments to a path, which is in reverse. One dot stays where it is, two dots go up, and
either leaves an empty segment when it is the last. -/
def resolve (path : List (List Char)) : List (List Char) → List (List Char)
  | [] => path
  | segment :: rest =>
    let next := match dots? segment with
      | some n =>
        let path := if n = 2 then parent path else path
        if rest.isEmpty then [] :: path else path
      | none => percentEncode isReservedInPath segment :: path
    resolve next rest

/-- The path in its resolved form, from its part of the address. -/
def pathOf (text : List Char) : List Char :=
  ((resolve [] (Text.splitBy isSlash (text.drop 1))).reverse).flatMap ('/' :: ·)

end Triage.Http
