import Triage.Json.Document
import Mathlib.Tactic.Common

namespace Triage.Json

/-!
# The tokens of a document

A document determines the tokens that it is read from.

* `Document.tokens` — the tokens of a document.
* `read_tokens` — they are read as that document.
* `Reader.spelled`, `Reader.spelled_step` — the tokens that a reader has been given, one step at a time.
* `ofTokens?_eq_some_iff` — so a document is read from its tokens and no others.
-/

namespace Document

mutual

/-- The tokens of a document. -/
def tokens : Document → List Token
  | .null => [.null]
  | .bool b => [.bool b]
  | .numeral x => [.numeral x]
  | .string s => [.string s]
  | .array items => .openBracket :: itemTokens items ++ [.closeBracket]
  | .object members => .openBrace :: memberTokens members ++ [.closeBrace]

/-- The tokens of items, with a comma between two of them. -/
def itemTokens : List Document → List Token
  | [] => []
  | [d] => tokens d
  | d :: next :: rest => tokens d ++ .comma :: itemTokens (next :: rest)

/-- The tokens of members, with a comma between two of them. -/
def memberTokens : List (Key × Document) → List Token
  | [] => []
  | [(key, d)] => .string key :: .colon :: tokens d
  | (key, d) :: next :: rest =>
    .string key :: .colon :: tokens d ++ .comma :: memberTokens (next :: rest)

end

end Document

/-! ### The tokens of a document are read as it -/

/-- The reader after some tokens. -/
def readTokens (reader : Reader) (tokens : List Token) : Option Reader :=
  tokens.foldlM Reader.step reader

/-- A token is taken, and the rest from there. -/
theorem readTokens_cons (reader : Reader) (token : Token) (tokens : List Token) :
    readTokens reader (token :: tokens) = (reader.step token).bind (readTokens · tokens) := rfl

/-- Tokens are taken after those before them. -/
theorem readTokens_append (reader : Reader) (first second : List Token) :
    readTokens reader (first ++ second)
      = (readTokens reader first).bind (readTokens · second) := by
  simp only [readTokens, List.foldlM_append, Option.bind_eq_bind]

/-- The first item of an array is read like any other one. -/
theorem readTokens_firstItem (stack : List Frame) {items : List Document} (h : items ≠ [])
    (tokens : List Token) :
    readTokens (.firstItem stack) (Document.itemTokens items ++ tokens)
      = readTokens (.value (.array [] :: stack)) (Document.itemTokens items ++ tokens) := by
  -- No document starts with the bracket that closes an array, by cases on its kind.
  match items with
  | [d] =>
    cases d <;>
      simp only [Document.itemTokens, Document.tokens, List.cons_append, readTokens_cons] <;> rfl
  | d :: _ :: _ =>
    cases d <;>
      simp only [Document.itemTokens, Document.tokens, List.cons_append, readTokens_cons] <;> rfl

/-- The first key of an object is read like any other one. -/
theorem readTokens_firstKey (stack : List Frame) {members : List (Key × Document)}
    (h : members ≠ []) (tokens : List Token) :
    readTokens (.firstKey stack) (Document.memberTokens members ++ tokens)
      = readTokens (.key [] stack) (Document.memberTokens members ++ tokens) := by
  -- A member starts with its key, which is none of the braces.
  match members with
  | [_] => simp only [Document.memberTokens, List.cons_append, readTokens_cons]; rfl
  | _ :: _ :: _ => simp only [Document.memberTokens, List.cons_append, readTokens_cons]; rfl

mutual

/-- **The tokens of a document are read as it**, wherever a value is due. -/
theorem read_tokens (stack : List Frame) :
    (d : Document) → readTokens (.value stack) d.tokens = some (.complete d stack)
  | .null => rfl
  | .bool _ => rfl
  | .numeral _ => rfl
  | .string _ => rfl
  | .array items => by
    by_cases h : items = []
    · rw [h]
      rfl
    · -- behind the bracket the first item is due
      rw [Document.tokens, List.cons_append, readTokens_cons]
      show readTokens (.firstItem stack) _ = _
      rw [readTokens_firstItem stack h, read_itemTokens stack [] items h]
      rfl
  | .object members => by
    by_cases h : members = []
    · rw [h]
      rfl
    · -- behind the brace the first key is due
      rw [Document.tokens, List.cons_append, readTokens_cons]
      show readTokens (.firstKey stack) _ = _
      rw [readTokens_firstKey stack h, read_memberTokens stack [] members h]
      rfl

/-- Items are put to those before them, and the bracket closes the array. -/
theorem read_itemTokens (stack : List Frame) (before : List Document) :
    (items : List Document) → items ≠ [] →
      readTokens (.value (.array before :: stack)) (Document.itemTokens items ++ [.closeBracket])
        = some (.complete (.array (before.reverse ++ items)) stack)
  | [], h => absurd rfl h
  -- The last item: what follows is the bracket.
  | [d], _ => by
    rw [Document.itemTokens, readTokens_append, read_tokens _ d, Option.bind_some]
    show some (Reader.complete (.array (d :: before).reverse) stack) = _
    rw [List.reverse_cons]
  -- Any other one: what follows is a comma, and the item is put to those before.
  | d :: next :: rest, _ => by
    rw [Document.itemTokens, List.append_assoc, readTokens_append, read_tokens _ d, Option.bind_some,
      List.cons_append, readTokens_cons]
    show readTokens (.value (.array (d :: before) :: stack)) _ = _
    rw [read_itemTokens stack (d :: before) (next :: rest) (List.cons_ne_nil _ _), List.reverse_cons,
      List.append_assoc, List.singleton_append]

/-- Members are put to those before them, and the brace closes the object. -/
theorem read_memberTokens (stack : List Frame) (before : List (Key × Document)) :
    (members : List (Key × Document)) → members ≠ [] →
      readTokens (.key before stack) (Document.memberTokens members ++ [.closeBrace])
        = some (.complete (.object (before.reverse ++ members)) stack)
  | [], h => absurd rfl h
  -- The last member: its key, a colon and its value, and then the brace.
  | [(key, d)], _ => by
    rw [Document.memberTokens, List.cons_append, List.cons_append, readTokens_cons]
    show readTokens (.value (.object before key :: stack)) _ = _
    rw [readTokens_append, read_tokens _ d, Option.bind_some]
    show some (Reader.complete (.object ((key, d) :: before).reverse) stack) = _
    rw [List.reverse_cons]
  | (key, d) :: next :: rest, _ => by
    rw [Document.memberTokens, List.cons_append, List.cons_append, List.cons_append, List.cons_append,
      readTokens_cons]
    -- The value is read inside its member, which the comma completes.
    show readTokens (.value (.object before key :: stack)) _ = _
    rw [List.append_assoc, readTokens_append, read_tokens _ d, Option.bind_some, List.cons_append,
      readTokens_cons]
    show readTokens (.key ((key, d) :: before) stack) _ = _
    rw [read_memberTokens stack ((key, d) :: before) (next :: rest) (List.cons_ne_nil _ _),
      List.reverse_cons, List.append_assoc, List.singleton_append]

end

/-! ### What has been read -/

/-- Items, of which each is followed by a comma. -/
def openItems (items : List Document) : List Token :=
  items.flatMap fun d => d.tokens ++ [.comma]

/-- Members, of which each is followed by a comma. -/
def openMembers (members : List (Key × Document)) : List Token :=
  members.flatMap fun (key, d) => .string key :: .colon :: d.tokens ++ [.comma]

/-- The last item stands behind the others, each with its comma. -/
theorem itemTokens_concat (items : List Document) (d : Document) :
    Document.itemTokens (items ++ [d]) = openItems items ++ d.tokens := by
  induction items with
  | nil => rfl
  | cons first rest ih =>
    -- Behind the first item there is another one, if only the last, so a comma follows.
    have hcons : Document.itemTokens (first :: (rest ++ [d]))
        = first.tokens ++ .comma :: Document.itemTokens (rest ++ [d]) := by
      cases rest <;> rfl
    rw [List.cons_append, hcons, ih]
    simp [openItems]

/-- The last member stands behind the others, each with its comma. -/
theorem memberTokens_concat (members : List (Key × Document)) (key : Key) (d : Document) :
    Document.memberTokens (members ++ [(key, d)])
      = openMembers members ++ .string key :: .colon :: d.tokens := by
  induction members with
  | nil => rfl
  | cons first rest ih =>
    -- Behind the first member there is another one, if only the last, so a comma follows.
    have hcons : Document.memberTokens (first :: (rest ++ [(key, d)]))
        = .string first.1 :: .colon :: first.2.tokens
          ++ .comma :: Document.memberTokens (rest ++ [(key, d)]) := by
      cases rest <;> rfl
    rw [List.cons_append, hcons, ih]
    simp [openMembers]

/-- The tokens of an array or object that is still open. -/
def Frame.spelled : Frame → List Token
  | .array items => .openBracket :: openItems items.reverse
  | .object members key => .openBrace :: openMembers members.reverse ++ [.string key, .colon]

/-- The tokens of what is still open, the innermost of which comes last. -/
def spelledStack (stack : List Frame) : List Token := stack.reverse.flatMap Frame.spelled

/-- What was opened last comes last. -/
@[simp] theorem spelledStack_cons (frame : Frame) (stack : List Frame) :
    spelledStack (frame :: stack) = spelledStack stack ++ frame.spelled := by
  simp [spelledStack]

namespace Reader

/-- The tokens that the reader has been given. -/
def spelled : Reader → List Token
  | .value stack => spelledStack stack
  | .firstItem stack => spelledStack stack ++ [.openBracket]
  | .firstKey stack => spelledStack stack ++ [.openBrace]
  | .key members stack => spelledStack stack ++ .openBrace :: openMembers members.reverse
  | .colon members name stack =>
    spelledStack stack ++ .openBrace :: openMembers members.reverse ++ [.string name]
  | .complete d stack => spelledStack stack ++ d.tokens

/-- A token that opens a value, or is one, is added to those before. -/
theorem spelled_open? {stack : List Frame} {token : Token} {reader : Reader}
    (h : open? stack token = some reader) : reader.spelled = spelledStack stack ++ [token] := by
  -- Of the tokens that may start a value, the brackets open a frame that is empty so far.
  cases token <;> simp only [open?, Option.some.injEq, reduceCtorEq] at h <;> subst h <;> rfl

/-- **Each step adds its token** to those that the reader has been given. -/
theorem spelled_step {reader next : Reader} {token : Token} (h : reader.step token = some next) :
    next.spelled = reader.spelled ++ [token] := by
  unfold step at h
  -- One case for each rule of the grammar, and one where none applies. A value that is due may open
  -- with any of its tokens; every other rule has a token of its own.
  split at h
  all_goals first
    | contradiction
    | simpa [spelled, Frame.spelled, openItems] using spelled_open? h
    | obtain rfl := Option.some.inj h
      simp [spelled, Frame.spelled, Document.tokens, Document.itemTokens, Document.memberTokens,
        itemTokens_concat, memberTokens_concat, openItems, openMembers]

/-- All tokens that are taken are added to those before. -/
theorem spelled_readTokens {reader last : Reader} {tokens : List Token}
    (h : readTokens reader tokens = some last) : last.spelled = reader.spelled ++ tokens := by
  induction tokens generalizing reader with
  | nil =>
    obtain rfl := Option.some.inj h
    rw [List.append_nil]
  | cons token rest ih =>
    rw [readTokens_cons] at h
    obtain ⟨next, hnext, hrest⟩ := Option.bind_eq_some_iff.1 h
    -- The first token is added by its own step, the others by induction.
    rw [ih hrest, spelled_step hnext, List.append_assoc, List.singleton_append]

end Reader

/-- **A document is read from its tokens and no others.** -/
theorem ofTokens?_eq_some_iff {tokens : List Token} {d : Document} :
    Document.ofTokens? tokens = some d ↔ tokens = d.tokens := by
  have hread : Document.ofTokens? tokens
      = (readTokens (.value []) tokens).bind Reader.finish? := rfl
  rw [hread]
  constructor
  · intro h
    obtain ⟨last, hlast, hfinish⟩ := Option.bind_eq_some_iff.1 h
    -- What the reader has been given are all the tokens.
    have hspelled := Reader.spelled_readTokens hlast
    -- The reader can stop only where a document is complete and nothing is open.
    unfold Reader.finish? at hfinish
    split at hfinish
    · obtain rfl := Option.some.inj hfinish
      exact hspelled.symm
    · exact absurd hfinish (by simp)
  · rintro rfl
    rw [read_tokens]
    rfl

end Triage.Json
