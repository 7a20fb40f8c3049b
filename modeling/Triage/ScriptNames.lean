import Triage.Text.Utf8

namespace Triage

/-!
# Script names

* `DirectoryEntry` — what a directory holds, by name and kind.
* `EntryFault` — what may go wrong with an entry while a directory is read; `entryPath` — where it stands.
* `scriptNames` — the regular files whose names end as scripts do, in order.
-/

/-- What an entry of a directory is; links are not followed. -/
inductive EntryKind
  | file
  | directory
  | link
  deriving DecidableEq, Repr

/-- An entry of a directory. Its name may be any bytes. -/
structure DirectoryEntry where
  name : List UInt8
  kind : EntryKind
  deriving DecidableEq, Repr

/-- What may go wrong with an entry of a directory that can be read: the entry itself cannot, or it
cannot be told what it is. -/
inductive EntryFault
  | unreadable
  | unknownKind (name : List UInt8)
  deriving DecidableEq, Repr

/-- The path of an entry below the path of its directory. -/
def entryPath (directory : String) (name : List UInt8) : String :=
  let slash := if directory.isEmpty || directory.endsWith "/" then "" else "/"
  directory ++ slash ++ Text.lenient (Text.decodeUtf8 name)

/-- The name of a regular file, if it is a text with this ending. -/
def DirectoryEntry.scriptName? (ending : String) (entry : DirectoryEntry) : Option String :=
  if entry.kind = .file then
    (Text.strict? (Text.decodeUtf8 entry.name)).filter fun name =>
      ending.toList.isSuffixOf name.toList
  else none

/-- The names of the scripts in a directory, in the order of their characters. -/
def scriptNames (ending : String) (entries : List DirectoryEntry) : List String :=
  (entries.filterMap (·.scriptName? ending)).mergeSort (fun a b => decide (a ≤ b))

end Triage
