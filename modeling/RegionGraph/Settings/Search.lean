import RegionGraph.FileTree
import RegionGraph.Settings.Document
import RegionGraph.Settings.Override

/-!
# Looking for the settings file

The environment may name the file. Otherwise it is looked for in the working folder
and up to five folders above, and the nearest one counts.
-/

namespace RegionGraph

/-- The settings file's path in the working folder, and in each of the five folders
    above it as far as there are any, nearest first. -/
def settingsPlaces (working : List String) : List (List String) :=
  (List.range (min 5 working.length + 1)).map fun up =>
    working.take (working.length - up) ++ [settingsFileName]

/-- A path as text. -/
def pathText (path : List String) : String := String.intercalate "/" path

/-- Find the settings file: the path by which it is known, and what stands there. -/
def findSettings (tree : FileTree) (working : List String)
    (environment : List (String × String)) : Except SettingsFault (String × FileEntry) :=
  match environment.lookup settingsPathVariable with
  | some path =>
    match tree.follow (.inside working) path >>= tree.entry? with
    | some entry => .ok (path, entry)
    | none => .error (.absent path)
  | none =>
    let places := settingsPlaces working
    let found := places.findSome? fun path =>
      (tree.entry? (.inside path)).map fun entry => (pathText path, entry)
    found.elim (.error (.nowhere (places.map pathText))) .ok

/-- Load the settings of a file, with overrides of the environment and the command line. -/
def loadSettings (entry : Option FileEntry) (environment arguments : List (String × String)) :
    Except SettingsFault Settings :=
  match entry with
  | some (.file content) => do
    return (← Settings.ofDocument content).override environment arguments
  | _ => .error .unreadable

end RegionGraph
