import RegionGraph.Settings.Basic
import RegionGraph.Settings.Fault
import RegionGraph.Toml.Document

/-!
# Settings in a document

A document gives settings by section. What it leaves out has its default and what
is no setting is passed over, but a setting with a value of the wrong type spoils
the document. A section may also list its values in order, without names.
-/

namespace RegionGraph

open Toml (Node)

/-- The values of a section with given fields, if its form is one of a section. -/
def sectionFields (names : List String) : Node → Option (String → Option Node)
  | .table _ entries => some fun name => entries.lookup name
  | .list items => some fun name => (names.zip items).lookup name
  | .tables latestFirst => some fun name => (names.zip latestFirst.reverse).lookup name
  | .moment => some fun _ => none
  | _ => none

/-- A field, or what stands for it when it is missing. -/
def fieldOr {α : Type} (other : α) (read : Node → Option α) : Option Node → Option α
  | some node => read node
  | none => some other

/-- A setting that is on or off. -/
def readFlag : Node → Option Bool
  | .flag on => some on
  | _ => none

/-- A setting that is text. -/
def readText : Node → Option String
  | .text content => some content
  | _ => none

/-- A setting that counts something. -/
def readCount : Node → Option UInt64
  | .integer number => if 0 ≤ number then some (UInt64.ofNat number.toNat) else none
  | _ => none

/-- The settings of networks in a section. -/
def NetworkSettings.ofSection (node : Node) : Option NetworkSettings := do
  let other : NetworkSettings := default
  let field ← sectionFields ["profiling", "log_interval"] node
  return ⟨← fieldOr other.profiling readFlag (field "profiling"),
    ← fieldOr other.logInterval readCount (field "log_interval")⟩

/-- The settings of bundles in a section. -/
def BundleSettings.ofSection (node : Node) : Option BundleSettings := do
  let other : BundleSettings := default
  let field ← sectionFields ["compression", "directory"] node
  return ⟨← fieldOr other.compression readFlag (field "compression"),
    ← fieldOr other.directory readText (field "directory")⟩

/-- The settings of logging in a section. -/
def LoggingSettings.ofSection (node : Node) : Option LoggingSettings := do
  let other : LoggingSettings := default
  let field ← sectionFields ["level", "format", "file_logging", "log_dir"] node
  return ⟨← fieldOr other.level readText (field "level"),
    ← fieldOr other.format readText (field "format"),
    ← fieldOr other.fileLogging readFlag (field "file_logging"),
    ← fieldOr other.directory readText (field "log_dir")⟩

/-- The settings of a document. -/
def Settings.ofDocument (source : String) : Except SettingsFault Settings :=
  let settings : Option Settings := do
    let sections ← Toml.document source
    return ⟨← fieldOr default NetworkSettings.ofSection (sections.lookup "network"),
      ← fieldOr default BundleSettings.ofSection (sections.lookup "bundle"),
      ← fieldOr default LoggingSettings.ofSection (sections.lookup "logging")⟩
  settings.elim (.error .malformed) .ok

end RegionGraph
