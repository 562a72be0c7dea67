import RegionGraph.NameMap
import RegionGraph.Text.Classes
import RegionGraph.Text.LetterCase

/-!
# Debug flags

Messages of a component are shown in detail if debugging is enabled for it. Flags
come from arguments and from a variable of the environment, and become the
directives of a message filter.
-/

namespace RegionGraph

/-- The components that write messages. -/
def componentNames : List String :=
  ["neurograph", "neurograph-structures", "neurograph-bundle", "neurograph-engine",
    "neurograph-config", "neurograph-observability"]

/-- The components for which debugging is enabled. Names need not be known ones. -/
structure DebugFlags where
  enabled : NameMap Unit
deriving DecidableEq

namespace DebugFlags

instance : EmptyCollection DebugFlags := ⟨⟨∅⟩⟩

/-- Enable debugging for a component. -/
def enable (flags : DebugFlags) (name : String) : DebugFlags :=
  ⟨flags.enabled.insert name ()⟩

/-- Enable debugging for all components. -/
def enableAll (flags : DebugFlags) : DebugFlags := componentNames.foldl enable flags

/-- The beginning of an argument that enables debugging. -/
def argumentStem : String := "--debug-"

/-- Heed one argument. Arguments about other things change nothing. -/
def heed (flags : DebugFlags) (argument : String) : DebugFlags :=
  if argument = argumentStem ++ "all" then flags.enableAll
  else if argument.startsWith argumentStem then
    flags.enable (String.ofList (argument.toList.drop argumentStem.length))
  else flags

/-- The flags of some arguments. -/
def ofArguments (arguments : List String) : DebugFlags := arguments.foldl heed ∅

/-- Heed the environment's variable: all components, or names with commas between. -/
def heedVariable (flags : DebugFlags) (text : String) : DebugFlags :=
  if text = "all" then flags.enableAll
  else (((text.splitOn ",").map trimBlanks).filter (· ≠ "")).foldl enable flags

/-- Whether debugging is enabled for a component. -/
def isEnabled (flags : DebugFlags) (name : String) : Bool := flags.enabled.contains name

/-- The level of a component's messages. -/
def levelOf (flags : DebugFlags) (name : String) : String :=
  if flags.isEnabled name then "DEBUG" else "INFO"

/-- The names in ascending order. -/
def names (flags : DebugFlags) : List String := flags.enabled.names

/-- The directives of the flags, and after them those for all else. -/
def directives (flags : DebugFlags) (others : String) : String :=
  let target (name : String) := name.map fun c => if c = '-' then '_' else c
  String.intercalate ","
    (flags.names.map (fun name => target name ++ "=debug") ++ [lowerCase others])

/-- The level of all that is not enabled, unless another is asked for. -/
def usualLevel : String := "info"

/-- A component is enabled once its flag is set. -/
theorem isEnabled_enable (flags : DebugFlags) (name : String) :
    (flags.enable name).isEnabled name = true := by
  simp [enable, isEnabled, NameMap.contains, NameMap.get?_insert_self]

end DebugFlags

/-- The environment variable of debug flags. -/
def debugVariable : String := "NEUROGRAPH_DEBUG"

/-- What a user is told about debug flags. -/
def debugHelp : String :=
  "Debug Flags:\n" ++
  "  --debug-all                    Enable debug logging for all crates\n" ++
  "  --debug-\x7bcrate-name\x7d          Enable debug logging for specific crate\n\n" ++
  "Available crates:\n  " ++ String.intercalate ", " componentNames ++ "\n\n" ++
  "Environment Variable:\n  " ++ debugVariable ++
  "=\x7bcrate-name\x7d[,\x7bcrate-name\x7d]  Enable debug for crates (comma-separated)\n  " ++
  debugVariable ++ "=all                               Enable debug for all crates\n"

end RegionGraph
