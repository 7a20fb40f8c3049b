import Triage.Bot

namespace Triage

/-!
# A tree of files

* `FileTree` — a directory with what is below it, in memory.
* `FileTree.follow?` — the place that a path leads to.
* `FileTree.surroundings` — the files that a run finds.
-/

/-- A file by its bytes, a link by those of the file that it leads to, or a directory by its entries,
whose names may be any bytes. -/
inductive FileTree
  | file (bytes : List UInt8)
  | link (bytes : List UInt8)
  | directory (entries : List (List UInt8 × FileTree))

namespace FileTree

/-- What an entry is. -/
def kind : FileTree → EntryKind
  | .file _ => .file
  | .link _ => .link
  | .directory _ => .directory

/-- What stands at a place. -/
def state : FileTree → FileState
  | .file bytes | .link bytes => .file bytes
  | .directory _ => .directory

/-- Where the parts of a path lead from a place, of which `above` holds the places above it, the
nearest one first. Only directories have parts: an empty one and a dot stay there, two dots go up.
Nothing is known above the tree. -/
def follow? (above : List FileTree) (here : FileTree) : List String → Option FileTree
  | [] => some here
  | part :: rest =>
    match here with
    | .directory entries =>
      if part = "" ∨ part = "." then follow? above here rest
      else if part = ".." then
        match above with
        | [] => none
        | parent :: above => follow? above parent rest
      else (entries.lookup (Text.utf8 part.toList)).bind (follow? (here :: above) · rest)
    | _ => none

/-- The place that a path leads to from the top of the tree. An empty path leads nowhere, and one with
a slash in front leads out of the tree. -/
def at? (tree : FileTree) (path : String) : Option FileTree :=
  if path.isEmpty || path.startsWith "/" then none
  else follow? [] tree ((Text.splitBy (· == '/') path.toList).map String.ofList)

/-- The entries of the directory at a place. -/
def entries? : FileTree → Option (List DirectoryEntry)
  | .directory entries => some (entries.map fun (name, entry) => ⟨name, entry.kind⟩)
  | _ => none

/-- The files that a run finds which starts at the top of the tree. -/
def surroundings (tree : FileTree) : Surroundings where
  file path := ((tree.at? path).map state).getD .absent
  entries? path := (tree.at? path).bind entries?

end FileTree

end Triage
