/-!
# Faults of settings

Why settings cannot be found, read or used.
-/

namespace RegionGraph

/-- What is wrong with the value of a setting. -/
inductive SettingsProblem where
  | notAmong (field : String) (choices : List String)
  | missing (field : String)
deriving DecidableEq

/-- The text of a problem. -/
def SettingsProblem.message : SettingsProblem → String
  | notAmong field choices =>
    "Invalid configuration value for " ++ field ++ ": must be one of " ++
      String.intercalate ", " choices
  | missing field => "Missing required configuration: " ++ field

/-- Why there are no usable settings. -/
inductive SettingsFault where
  /-- The file that the environment names does not exist. -/
  | absent (path : String)
  /-- None of the places searched has a settings file. -/
  | nowhere (searched : List String)
  /-- There is no text to read. -/
  | unreadable
  /-- The text is no document, or a setting has a value of the wrong type. -/
  | malformed
  /-- Some settings have unusable values. -/
  | invalid (problems : List SettingsProblem)
deriving DecidableEq

/-- The name of the settings file. -/
def settingsFileName : String := "neurograph.toml"

/-- The environment variable that names a settings file. -/
def settingsPathVariable : String := "NEUROGRAPH_CONFIG_PATH"

/-- Lines of a list, indented. -/
def itemLines (items : List String) : String :=
  String.intercalate "\n" (items.map ("  - " ++ ·))

/-- The text of a fault. -/
def SettingsFault.message : SettingsFault → String
  | absent path =>
    "Config file not found. Searched: Config file specified by " ++ settingsPathVariable ++
      " not found: " ++ path
  | nowhere searched =>
    "Config file not found. Searched: '" ++ settingsFileName ++
      "' not found in any of these locations:\n" ++ itemLines searched ++ "\n\nSet " ++
      settingsPathVariable ++ " to specify a custom location."
  | unreadable => "Failed to read config file"
  | malformed => "Invalid TOML syntax"
  | invalid problems =>
    "Validation failed: Configuration validation failed:\n" ++
      itemLines (problems.map SettingsProblem.message)

end RegionGraph
