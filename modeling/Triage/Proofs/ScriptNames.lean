import Triage.Bot
import Triage.Proofs.Text.ByteOrder
import Mathlib.Data.List.Nodup

namespace Triage

/-!
# Scripts in any order

A directory yields its entries in an order of its own. What is made of them does not depend on it.

* `DirectoryEntry.scriptName?_eq_some_iff` — which entries are scripts, and under which names.
* `pairwise_scriptNames`, `mem_scriptNames_iff` — their names, in the order of bytes.
* `scriptNames_of_perm` — the names do not depend on the order of the entries.
* `Surroundings.IsRelisted` — the same files and directories, with entries in another order.
* `scriptNames_anyOrder` — what is listed, and that nothing else depends on the order either.
-/

variable {ending : String} {entries listing : List DirectoryEntry}

/-- **An entry is a script** if it is a regular file and its name is a text with the ending. -/
theorem DirectoryEntry.scriptName?_eq_some_iff {entry : DirectoryEntry} {name : String} :
    entry.scriptName? ending = some name ↔
      entry = ⟨Text.utf8 name.toList, .file⟩ ∧ ending.toList <:+ name.toList := by
  obtain ⟨bytes, kind⟩ := entry
  by_cases hkind : kind = .file
  · subst hkind
    simp [scriptName?, Option.filter_eq_some_iff, Text.strict?_decodeUtf8_eq_some_iff]
  · simp [scriptName?, hkind]

/-- The names are in order. -/
theorem pairwise_le_scriptNames (ending : String) (entries : List DirectoryEntry) :
    (scriptNames ending entries).Pairwise (· ≤ ·) := by
  have hsorted : (scriptNames ending entries).Pairwise fun name other => decide (name ≤ other) = true := by
    apply List.pairwise_mergeSort
    · intro a b c hab hbc
      exact decide_eq_true (String.le_trans (of_decide_eq_true hab) (of_decide_eq_true hbc))
    · intro a b
      simpa using String.le_total a b
  exact hsorted.imp of_decide_eq_true

/-- Nothing is left out and nothing put in. -/
theorem mem_scriptNames_iff {name : String} :
    name ∈ scriptNames ending entries ↔
      ⟨Text.utf8 name.toList, .file⟩ ∈ entries ∧ ending.toList <:+ name.toList := by
  simp only [scriptNames, List.mem_mergeSort, List.mem_filterMap, DirectoryEntry.scriptName?_eq_some_iff]
  constructor
  · rintro ⟨entry, hentry, rfl, hending⟩
    exact ⟨hentry, hending⟩
  · rintro ⟨hentry, hending⟩
    exact ⟨_, hentry, rfl, hending⟩

/-- Different entries have different names. -/
theorem nodup_scriptNames (h : entries.Nodup) : (scriptNames ending entries).Nodup := by
  apply (List.mergeSort_perm _ _).nodup_iff.2
  refine h.filterMap ?_
  intro entry other name hname hother
  obtain ⟨rfl, -⟩ := DirectoryEntry.scriptName?_eq_some_iff.1 hname
  obtain ⟨rfl, -⟩ := DirectoryEntry.scriptName?_eq_some_iff.1 hother
  rfl

/-- **The names are in the order of their bytes**, each of them once. -/
theorem pairwise_scriptNames (h : entries.Nodup) :
    (scriptNames ending entries).Pairwise fun name other =>
      Text.utf8 name.toList < Text.utf8 other.toList := by
  have hnodup : (scriptNames ending entries).Nodup := nodup_scriptNames h
  refine ((pairwise_le_scriptNames ending entries).and hnodup).imp fun {name other} hpair => ?_
  obtain ⟨hle, hne⟩ := hpair
  rw [Text.utf8_lt_utf8_iff]
  apply String.not_le.1
  intro hge
  exact hne (String.le_antisymm hle hge)

/-- There is one list of the scripts that is in order. -/
theorem scriptNames_eq_of_perm {names : List String} (hsorted : names.Pairwise (· ≤ ·))
    (hperm : (entries.filterMap (·.scriptName? ending)).Perm names) : scriptNames ending entries = names :=
  ((List.mergeSort_perm _ _).trans hperm).eq_of_pairwise (fun _ _ _ _ => String.le_antisymm)
    (pairwise_le_scriptNames ending entries) hsorted

/-- **The names do not depend on the order of the entries.** -/
theorem scriptNames_of_perm (h : listing.Perm entries) :
    scriptNames ending listing = scriptNames ending entries := by
  apply scriptNames_eq_of_perm (pairwise_le_scriptNames ending entries)
  exact (h.filterMap _).trans (List.mergeSort_perm _ _).symm

/-! ### Runs -/

/-- The same files, and directories that can be listed with the same entries, in any order, or stop at
the same fault. -/
structure Surroundings.IsRelisted (surroundings others : Surroundings) : Prop where
  file : others.file = surroundings.file
  entries : ∀ path, Option.Rel List.Perm (others.entries? path) (surroundings.entries? path)
  fault : others.entryFault? = surroundings.entryFault?

variable {surroundings others : Surroundings}

/-- The scripts that a run lists do not depend on the order in which they are yielded. -/
theorem listScripts_of_isRelisted (h : surroundings.IsRelisted others) (config : Config) :
    listScripts config others = listScripts config surroundings := by
  unfold listScripts
  cases config.scriptsDirectory with
  | none => rfl
  | some directory =>
    have hlistings := h.entries directory
    dsimp only
    rw [h.fault]
    generalize others.entries? directory = listed, surroundings.entries? directory = listed' at hlistings ⊢
    cases hlistings with
    | none => rfl
    | some hperm => simp only [scriptNames_of_perm hperm]

/-- Nothing else of a run does either. -/
theorem runBot_of_isRelisted (h : surroundings.IsRelisted others) (config : Config) :
    runBot config others = runBot config surroundings := by
  unfold runBot runReady
  rw [listScripts_of_isRelisted h, h.file]

/-- The table of keywords of a run, if the scripts can be listed. -/
def tableOf (config : Config) (surroundings : Surroundings) : Except BotError KeywordTable :=
  (listScripts config surroundings).map keywordTable

/-- **The order of a directory does not matter.** What is listed are the names of just the regular files with
a text for a name that has the ending, each once and in the order of bytes, whatever the order of the
entries. So runs that find the same files in other orders have the same table, by which every text has the
same hits, and take the same steps. -/
theorem scriptNames_anyOrder (ending : String) {entries : List DirectoryEntry} (hset : entries.Nodup) :
    (scriptNames ending entries).Pairwise (fun name other =>
        Text.utf8 name.toList < Text.utf8 other.toList) ∧
      (∀ name, name ∈ scriptNames ending entries ↔
        ⟨Text.utf8 name.toList, .file⟩ ∈ entries ∧ ending.toList <:+ name.toList) ∧
      (∀ listing : List DirectoryEntry, listing.Perm entries →
        scriptNames ending listing = scriptNames ending entries) ∧
      ∀ (config : Config) (surroundings others : Surroundings), surroundings.IsRelisted others →
        tableOf config others = tableOf config surroundings ∧
          (∀ text : String, (tableOf config others).map (·.classify text)
            = (tableOf config surroundings).map (·.classify text)) ∧
          runBot config others = runBot config surroundings := by
  refine ⟨pairwise_scriptNames hset, fun name => mem_scriptNames_iff, fun listing => scriptNames_of_perm, ?_⟩
  intro config surroundings others hrelisted
  have htable : tableOf config others = tableOf config surroundings := by
    rw [tableOf, tableOf, listScripts_of_isRelisted hrelisted]
  exact ⟨htable, fun text => by rw [htable], runBot_of_isRelisted hrelisted config⟩

/-- Three scripts in no order, and what is none: a name that is no text, a directory, a link, and a name with
another ending. -/
def mixedEntries : List DirectoryEntry :=
  [⟨Text.utf8 "top.py".toList, .file⟩, ⟨Text.utf8 "\u00dc.py".toList, .file⟩,
    ⟨0xFF :: Text.utf8 ".py".toList, .file⟩, ⟨Text.utf8 "lib.py".toList, .directory⟩,
    ⟨Text.utf8 "link.py".toList, .link⟩, ⟨Text.utf8 "README".toList, .file⟩,
    ⟨Text.utf8 "free.py".toList, .file⟩]

/-- A tree with nothing but a directory of these entries. -/
def listedTree (entries : List DirectoryEntry) : Surroundings where
  file _ := .absent
  entries? path := if path = "scripts" then some entries else none

/-- A run that looks for scripts there. -/
def scriptsConfig : Config where
  repository := "octo/hello"
  apiBase := "http://127.0.0.1:8080"
  token := "t"
  eventPath := "event.json"
  requestTimeout := 10000
  retryAttempts := 1
  retryDelay := 1
  scriptsDirectory := some "scripts"
  scriptEnding := ".py"

/-- Yielded in two orders, the entries make one list and one table, by which the three scripts are found. -/
theorem scriptNames_anyOrder_of_mixedEntries :
    mixedEntries.Nodup ∧ mixedEntries.reverse.Perm mixedEntries ∧
      scriptNames ".py" mixedEntries.reverse = scriptNames ".py" mixedEntries ∧
      scriptNames ".py" mixedEntries = ["free.py", "top.py", "\u00dc.py"] ∧
      tableOf scriptsConfig (listedTree mixedEntries.reverse) = tableOf scriptsConfig (listedTree mixedEntries) ∧
      (tableOf scriptsConfig (listedTree mixedEntries)).toOption.map (·.classify "FREE.PY prints \u00fc.py")
        = some [⟨"scripts", "free.py"⟩, ⟨"scripts", "\u00dc.py"⟩] := by
  have hset : mixedEntries.Nodup := by decide +kernel
  have hperm : mixedEntries.reverse.Perm mixedEntries := List.reverse_perm _
  have hrelisted : (listedTree mixedEntries).IsRelisted (listedTree mixedEntries.reverse) := by
    refine ⟨rfl, fun path => ?_, rfl⟩
    unfold listedTree
    by_cases hpath : path = "scripts"
    · simp only [if_pos hpath]
      exact .some hperm
    · simp only [if_neg hpath]
      exact .none
  have hnames : scriptNames ".py" mixedEntries = ["free.py", "top.py", "\u00dc.py"] :=
    scriptNames_eq_of_perm (by decide +kernel) (by decide +kernel)
  have hscripts : tableOf scriptsConfig (listedTree mixedEntries)
      = .ok (keywordTable (some ("scripts", ["free.py", "top.py", "\u00dc.py"]))) := by
    rw [← hnames]
    rfl
  obtain ⟨-, -, horder, hruns⟩ := scriptNames_anyOrder ".py" hset
  obtain ⟨htable, -, -⟩ := hruns scriptsConfig _ _ hrelisted
  refine ⟨hset, hperm, horder _ hperm, hnames, htable, ?_⟩
  rw [hscripts]
  decide +kernel

end Triage
