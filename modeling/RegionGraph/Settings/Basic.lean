/-!
# Settings

What a user can choose about running graphs, saving them, and logging. Every
setting has a default. A path is text with slashes between its parts.
-/

namespace RegionGraph

/-- Settings of a network. -/
structure NetworkSettings where
  /-- Whether regions count their computations. -/
  profiling : Bool
  /-- Cycles between progress messages; zero for none. -/
  logInterval : UInt64
deriving DecidableEq

/-- Settings of saved bundles. -/
structure BundleSettings where
  compression : Bool
  directory : String
deriving DecidableEq

/-- Settings of logging. -/
structure LoggingSettings where
  level : String
  format : String
  fileLogging : Bool
  directory : String
deriving DecidableEq

/-- All settings. -/
structure Settings where
  network : NetworkSettings
  bundle : BundleSettings
  logging : LoggingSettings
deriving DecidableEq

instance : Inhabited NetworkSettings := ⟨⟨false, 0⟩⟩
instance : Inhabited BundleSettings := ⟨⟨true, "bundles"⟩⟩
instance : Inhabited LoggingSettings := ⟨⟨"info", "pretty", false, "logs"⟩⟩
instance : Inhabited Settings := ⟨⟨default, default, default⟩⟩

/-- A path inside a directory. One slash is put between the two, unless the directory is
    empty or ends in one; an absolute path stands for itself. -/
def joinPath (directory name : String) : String :=
  if name.startsWith "/" then name
  else if directory.isEmpty ∨ directory.endsWith "/" then directory ++ name
  else directory ++ "/" ++ name

/-- Where a bundle of a given name is kept. -/
def BundleSettings.path (settings : BundleSettings) (name : String) : String :=
  joinPath settings.directory name

end RegionGraph
