/-!
# Trees of files

A tree of folders and files with a place to stand in it. Paths are followed name by
name; a path that leaves the tree by its root meets folders whose contents are not
known, where no name leads anywhere.
-/

namespace RegionGraph

/-- What stands at a path. -/
inductive FileEntry where
  | folder
  | file (content : String)
deriving DecidableEq

/-- Folders and files by their names from the root on. -/
structure FileTree where
  entries : List (List String × FileEntry)

/-- A place where a path has led to. -/
inductive Place where
  | inside (path : List String)
  | outside
deriving DecidableEq

namespace FileTree

/-- The tree of an empty root folder. -/
def empty : FileTree := ⟨[([], .folder)]⟩

instance : EmptyCollection FileTree := ⟨empty⟩

/-- The names of a path. -/
def names (path : String) : List String := path.splitOn "/"

/-- Add a folder and the folders on the way to it. -/
def addFolder (tree : FileTree) (path : List String) : FileTree :=
  ⟨tree.entries ++ (List.range (path.length + 1)).map fun n => (path.take n, .folder)⟩

/-- Add a file and the folders on the way to it. -/
def addFile (tree : FileTree) (path : List String) (content : String) : FileTree :=
  ⟨(path, .file content) :: (tree.addFolder path.dropLast).entries⟩

/-- What stands at a place. -/
def entry? (tree : FileTree) : Place → Option FileEntry
  | .inside path => tree.entries.lookup path
  | .outside => some .folder

/-- Follow one name of a path. Names lead on from folders only. -/
def step (tree : FileTree) (place : Place) (name : String) : Option Place :=
  match tree.entry? place with
  | some .folder =>
    if name = "" ∨ name = "." then some place
    else
      match place, name with
      | .inside [], ".." => some .outside
      | .inside path, ".." => some (.inside path.dropLast)
      | .outside, ".." => some .outside
      | .outside, _ => none
      | .inside path, name =>
        if (tree.entry? (.inside (path ++ [name]))).isSome then some (.inside (path ++ [name]))
        else none
  | _ => none

/-- Where a path leads from a place. The empty path leads nowhere, and one that starts
    with a slash starts outside. -/
def follow (tree : FileTree) (start : Place) (path : String) : Option Place :=
  if path.isEmpty then none
  else (names path).foldlM tree.step (if path.startsWith "/" then .outside else start)

end FileTree

end RegionGraph
