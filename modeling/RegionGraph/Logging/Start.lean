import RegionGraph.Logging.Filter
import RegionGraph.Logging.Runs
import RegionGraph.Settings.Basic

/-!
# Starting to log

Logging starts once. The format is looked at first, then the filter; only then is
the folder of the run made, and only at last does it show whether logging has
already been started.
-/

namespace RegionGraph

/-- What an attempt to start logging has done. -/
structure LogStart where
  result : Except LoggingFault Unit
  directory : LogDirectory
  /-- The logs opened for the run, if it logs to files. -/
  logs : Option (List String)

/-- Runs kept unless another number is asked for. -/
def usualRetention : Nat := 10

/-- Start logging at a moment. -/
def startLogging (settings : LoggingSettings) (flags : DebugFlags) (keep : Nat) (now : Moment)
    (installed : Bool) (directory : LogDirectory) : LogStart :=
  let checked : Except LoggingFault Unit := do
    let _ ← LogFormat.ofName settings.format
    let _ ← flags.filter settings.level
  match checked with
  | .error fault => ⟨.error fault, directory, none⟩
  | .ok () =>
    let result := if installed then .error .alreadyInstalled else .ok ()
    if settings.fileLogging then
      ⟨result, directory.openRun now keep, some LogDirectory.runLogs⟩
    else ⟨result, directory, none⟩

end RegionGraph
