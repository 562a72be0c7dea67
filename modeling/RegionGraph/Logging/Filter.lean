import RegionGraph.Logging.Directive
import RegionGraph.Logging.Flags

/-!
# Formats and filters of messages

How messages are laid out, and which filters are accepted.
-/

namespace RegionGraph

/-- Layouts of messages. -/
inductive LogFormat where
  | pretty | compact | json
deriving DecidableEq

/-- Why logging does not start. -/
inductive LoggingFault where
  | unknownFormat (name : String)
  | invalidFilter (directives : String)
  | alreadyInstalled
deriving DecidableEq

/-- The text of a fault. -/
def LoggingFault.message : LoggingFault → String
  | unknownFormat name => "Unknown log format '" ++ name ++ "'"
  | invalidFilter directives => "Invalid log filter '" ++ directives ++ "'"
  | alreadyInstalled => "A global tracing subscriber is already installed"

/-- The layout of a name, in any letter case. -/
def LogFormat.ofName (name : String) : Except LoggingFault LogFormat :=
  match lowerCase name with
  | "pretty" => .ok .pretty
  | "compact" => .ok .compact
  | "json" => .ok .json
  | other => .error (.unknownFormat other)

/-- The filter of debug flags, with a level for all else. Directives have commas between
    them, and there may be nothing between two commas. -/
def DebugFlags.filter (flags : DebugFlags) (others : String) : Except LoggingFault String :=
  let directives := flags.directives others
  if (directives.splitOn ",").all fun text => text = "" || isDirective text then .ok directives
  else .error (.invalidFilter directives)

end RegionGraph
