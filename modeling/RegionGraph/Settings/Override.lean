import RegionGraph.Settings.Basic
import RegionGraph.Text.LetterCase
import RegionGraph.Text.Numeral

/-!
# Overriding settings

Settings of a document give way to variables of the environment, and both to
arguments of the command line. An override is given as text; one that should be a
number and is none changes nothing.
-/

namespace RegionGraph

/-- Whether a text turns a setting on. Every other text turns it off. -/
def meansOn (text : String) : Bool := lowerCase text ∈ ["true", "1", "yes"]

/-- A change of settings by a text. -/
abbrev Override := String → Settings → Settings

namespace Override

/-- Change the level of logging. -/
def level : Override := fun text s => { s with logging.level := text }

/-- Change the format of logging. -/
def format : Override := fun text s => { s with logging.format := text }

/-- Turn logging to files on or off. -/
def fileLogging : Override := fun text s => { s with logging.fileLogging := meansOn text }

/-- Change where log files go. -/
def logDirectory : Override := fun text s => { s with logging.directory := text }

/-- Turn counting of computations on or off. -/
def profiling : Override := fun text s => { s with network.profiling := meansOn text }

/-- Change the cycles between progress messages. -/
def logInterval : Override := fun text s =>
  match decimalWord? text with
  | some cycles => { s with network.logInterval := cycles }
  | none => s

/-- Turn compression of bundles on or off. -/
def compression : Override := fun text s => { s with bundle.compression := meansOn text }

/-- Change where bundles are kept. -/
def bundleDirectory : Override := fun text s => { s with bundle.directory := text }

/-- The overrides that the environment can give, by variable. -/
def ofEnvironment : List (String × Override) :=
  [("NEUROGRAPH_LOG_LEVEL", level), ("NEUROGRAPH_PROFILING", profiling),
    ("NEUROGRAPH_LOG_INTERVAL", logInterval), ("NEUROGRAPH_BUNDLE_COMPRESSION", compression),
    ("NEUROGRAPH_BUNDLE_DIR", bundleDirectory)]

/-- The overrides that the command line can give, by argument. -/
def ofArguments : List (String × Override) :=
  [("log_level", level), ("log_format", format), ("file_logging", fileLogging),
    ("log_dir", logDirectory), ("profiling", profiling), ("log_interval", logInterval),
    ("bundle_compression", compression), ("bundle_dir", bundleDirectory)]

/-- Apply those overrides of a table for which a text is given. -/
def apply (table : List (String × Override)) (given : List (String × String))
    (settings : Settings) : Settings :=
  table.foldl (fun s (name, change) =>
    match given.lookup name with
    | some text => change text s
    | none => s) settings

end Override

/-- Settings with the overrides of the environment and then those of the command line. -/
def Settings.override (settings : Settings) (environment arguments : List (String × String)) :
    Settings :=
  Override.apply Override.ofArguments arguments
    (Override.apply Override.ofEnvironment environment settings)

end RegionGraph
