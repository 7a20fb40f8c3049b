import Triage.Json.Record
import Triage.Proofs.Json.Texts
import Mathlib.Data.List.Perm.Basic

namespace Triage.Json

/-!
# Members that do not matter

A record is read from the members of its known names. Their order does not matter, nor what else stands
between them.

* `valuesOf`, `fields?_object_eq_some_iff` — the values that stand under a name, of which there may be one
  at most.
* `MemberEdit` — the members of an object are put in another order, or one is put in whose key is not
  among the names.
* `MemberEdit.fields?_eq` — the fields stay the same.
-/

/-! ### The fields of an object -/

/-- The values that stand under a name, in order. -/
def valuesOf (name : String) (members : List (Key × Document)) : List Document :=
  (members.filter (·.1 == some name)).map (·.2)

/-- A name occurs as often as values stand under it. -/
theorem occurrences_eq_length_valuesOf (name : String) (members : List (Key × Document)) :
    Document.occurrences name members = (valuesOf name members).length := by
  rw [Document.occurrences, List.countP_eq_length_filter, valuesOf, List.length_map]

/-- What is found under a name is the first value that stands there. -/
theorem lookup_eq_head?_valuesOf (name : String) (members : List (Key × Document)) :
    members.lookup (some name) = (valuesOf name members).head? := by
  induction members with
  | nil => rfl
  | cons member rest ih =>
    obtain ⟨key, d⟩ := member
    by_cases h : key = some name
    · simp [valuesOf, h]
    · have hkey : (some name == key) = false := beq_eq_false_iff_ne.2 (Ne.symm h)
      simpa [List.lookup_cons, hkey, valuesOf, h] using ih

/-- The values of more members come after those of the first ones. -/
theorem valuesOf_append (name : String) (members more : List (Key × Document)) :
    valuesOf name (members ++ more) = valuesOf name members ++ valuesOf name more := by
  simp [valuesOf]

/-- The first member has a value under its own name only. -/
theorem valuesOf_cons (name : String) (member : Key × Document) (members : List (Key × Document)) :
    valuesOf name (member :: members)
      = (if member.1 = some name then [member.2] else []) ++ valuesOf name members := by
  by_cases h : member.1 = some name <;> simp [valuesOf, h]

/-- A value stands under a name exactly if some member has both. -/
theorem mem_valuesOf {name : String} {members : List (Key × Document)} {d : Document} :
    d ∈ valuesOf name members ↔ (some name, d) ∈ members := by
  simp [valuesOf]

/-- The members of an object are in order for a record: each key denotes a text, and no known name has more
than one value. -/
structure AreReadable (names : List String) (members : List (Key × Document)) : Prop where
  keys : ∀ member ∈ members, member.1.isSome = true
  once : ∀ name ∈ names, (valuesOf name members).length ≤ 1

section Single

variable {names : List String} {name : String} {members before after : List (Key × Document)}
  {member : Key × Document} {d : Document}

/-- What stands under a name with one value at most is that value. -/
theorem head?_valuesOf_eq_some (honce : (valuesOf name members).length ≤ 1)
    (h : (some name, d) ∈ members) : (valuesOf name members).head? = some d := by
  have hmem : d ∈ valuesOf name members := mem_valuesOf.2 h
  match hvalues : valuesOf name members with
  | [] => simp [hvalues] at hmem
  | [e] => simpa [hvalues, eq_comm] using hmem
  | _ :: _ :: _ => simp [hvalues] at honce

/-- Where no member has the name, nothing stands under it. -/
theorem head?_valuesOf_eq_none (h : ∀ member ∈ members, member.1 ≠ some name) :
    (valuesOf name members).head? = none := by
  rw [← lookup_eq_head?_valuesOf, List.lookup_eq_none_iff]
  exact fun member hmem => bne_iff_ne.2 (Ne.symm (h member hmem))

/-- Without the member of a name nothing stands under it. -/
theorem valuesOf_eq_nil_of_once (honce : (valuesOf name (before ++ member :: after)).length ≤ 1)
    (hkey : member.1 = some name) : valuesOf name (before ++ after) = [] := by
  rw [valuesOf_append, valuesOf_cons, if_pos hkey] at honce
  rw [valuesOf_append, ← List.length_eq_zero_iff]
  simp only [List.length_append, List.length_cons, List.length_nil] at honce ⊢
  omega

/-- A member of another name does not matter. -/
theorem valuesOf_of_ne (hkey : member.1 ≠ some name) :
    valuesOf name (before ++ member :: after) = valuesOf name (before ++ after) := by
  rw [valuesOf_append, valuesOf_cons, if_neg hkey, List.nil_append, valuesOf_append]

/-- Without one of them, members are still in order. -/
theorem AreReadable.remove (h : AreReadable names (before ++ member :: after)) :
    AreReadable names (before ++ after) where
  keys other hmem := h.keys other (by
    rcases List.mem_append.1 hmem with hmem | hmem <;> simp [hmem])
  once name hname := by
    by_cases hkey : member.1 = some name
    · simp [valuesOf_eq_nil_of_once (h.once name hname) hkey]
    · rw [← valuesOf_of_ne hkey]
      exact h.once name hname

/-- Another value under the same key does no harm. -/
theorem AreReadable.replace (h : AreReadable names (before ++ member :: after)) (other : Key × Document)
    (hkey : other.1 = member.1) : AreReadable names (before ++ other :: after) where
  keys third hmem := by
    simp only [List.mem_append, List.mem_cons] at hmem
    rcases hmem with hmem | rfl | hmem
    · exact h.keys third (by simp [hmem])
    · rw [hkey]
      exact h.keys member (by simp)
    · exact h.keys third (by simp [hmem])
  once name hname := by
    have hlength := h.once name hname
    rw [valuesOf_append, valuesOf_cons] at hlength ⊢
    rw [hkey]
    split_ifs at hlength ⊢ with hname <;> simpa using hlength

end Single

/-- **The field of a name is the value that stands under it**, if the members are in order. -/
theorem fields?_object_eq_some_iff {names : List String} {least : Nat}
    {members : List (Key × Document)} {field : Fields} :
    (Document.object members).fields? names least = some field ↔
      AreReadable names members ∧ (fun name => (valuesOf name members).head?) = field := by
  have hreadable : (members.all (·.1.isSome) && names.all (Document.occurrences · members ≤ 1)) = true
      ↔ AreReadable names members := by
    simp only [Bool.and_eq_true, List.all_eq_true, decide_eq_true_eq, occurrences_eq_length_valuesOf]
    exact ⟨fun h => ⟨h.1, h.2⟩, fun h => ⟨h.keys, h.once⟩⟩
  rw [Document.fields?]
  by_cases h : AreReadable names members
  · rw [if_pos (hreadable.2 h)]
    simp [h, lookup_eq_head?_valuesOf]
  · rw [if_neg (mt hreadable.1 h)]
    simp [h]

/-- The items of an array are the fields of the names in order. -/
theorem lookup_zip {names : List String} (h : names.Nodup) (items : List Document) {i : Nat}
    (hi : i < names.length) : (names.zip items).lookup names[i] = items[i]? := by
  induction names generalizing items i with
  | nil => exact absurd hi (Nat.not_lt_zero i)
  | cons name rest ih =>
    obtain ⟨hname, hrest⟩ := List.nodup_cons.1 h
    cases items with
    | nil => simp
    | cons d items =>
      cases i with
      | zero => simp
      | succ i =>
        have hlater : i < rest.length := Nat.lt_of_succ_lt_succ hi
        -- The names do not repeat, so a later one is not the first.
        have hne : (rest[i] == name) = false :=
          beq_eq_false_iff_ne.2 fun heq => hname (heq ▸ List.getElem_mem hlater)
        simpa [List.lookup_cons, hne] using ih hrest items hlater

/-! ### Edits -/

/-- Members are put in another order, or one is put in whose key denotes none of the names. -/
inductive MemberEdit (names : List String) : List MemberText → List MemberText → Prop
  | permute {ms more : List MemberText} (h : ms.Perm more) : MemberEdit names ms more
  | insert (before after : List MemberText) {m : MemberText} {key : String} (hkey : m.key = some key)
      (hother : key ∉ names) : MemberEdit names (before ++ after) (before ++ m :: after)

/-- A list that has one entry at most has no other order. -/
theorem eq_of_perm_of_length_le_one {α : Type} {xs ys : List α} (h : xs.Perm ys)
    (hone : xs.length ≤ 1) : xs = ys := by
  -- Two entries might be exchanged; there are not so many.
  match xs, hone with
  | [], _ => exact (List.nil_perm.1 h).symm
  | [x], _ => exact (List.singleton_perm.1 h)

namespace MemberEdit

variable {names : List String} {ms more : List MemberText}

/-- **An edit leaves the values under the names alone**, as there is one at most under each. -/
theorem valuesOf_eq (h : MemberEdit names ms more) (hms : AreReadable names (ms.map (·.member)))
    {name : String} (hname : name ∈ names) :
    valuesOf name (more.map (·.member)) = valuesOf name (ms.map (·.member)) := by
  cases h with
  | permute hperm =>
    have hvalues : (valuesOf name (ms.map (·.member))).Perm (valuesOf name (more.map (·.member))) :=
      ((hperm.map MemberText.member).filter _).map _
    exact (eq_of_perm_of_length_le_one hvalues (hms.once name hname)).symm
  | @insert before after m key hkey hother =>
    have hne : m.member.1 ≠ some name := by
      intro heq
      have hkeyname : key = name := Option.some.inj (hkey.symm.trans heq)
      exact hother (hkeyname ▸ hname)
    rw [List.map_append, List.map_cons, valuesOf_of_ne hne, ← List.map_append]

/-- The keys still denote texts. -/
theorem isSome_of_mem (h : MemberEdit names ms more)
    (hkeys : ∀ member ∈ ms.map (·.member), member.1.isSome = true) :
    ∀ member ∈ more.map (·.member), member.1.isSome = true := by
  cases h with
  | permute hperm => exact fun member hmem => hkeys member ((hperm.map _).mem_iff.2 hmem)
  | @insert before after m key hkey hother =>
    intro member hmem
    have hm : m.member.1.isSome = true := by
      show m.key.isSome = true
      rw [hkey]
      rfl
    simp only [List.map_append, List.map_cons, List.mem_append, List.mem_cons] at hmem hkeys
    rcases hmem with hmem | rfl | hmem
    · exact hkeys member (.inl hmem)
    · exact hm
    · exact hkeys member (.inr hmem)

/-- **The fields of the names stay the same.** -/
theorem fields?_eq (h : MemberEdit names ms more) {least : Nat} {field : Fields}
    (hfield : (Document.object (ms.map (·.member))).fields? names least = some field) :
    ∃ other, (Document.object (more.map (·.member))).fields? names least = some other ∧
      ∀ name ∈ names, other name = field name := by
  -- The fields are the values under the names, and those stay.
  obtain ⟨hms, rfl⟩ := fields?_object_eq_some_iff.1 hfield
  have honce : ∀ name ∈ names, (valuesOf name (more.map (·.member))).length ≤ 1 := by
    intro name hname
    rw [h.valuesOf_eq hms hname]
    exact hms.once name hname
  refine ⟨_, fields?_object_eq_some_iff.2 ⟨⟨h.isSome_of_mem hms.keys, honce⟩, rfl⟩, fun name hname => ?_⟩
  exact congrArg List.head? (h.valuesOf_eq hms hname)

end MemberEdit

end Triage.Json
