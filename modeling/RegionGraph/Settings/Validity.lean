import RegionGraph.Settings.Basic
import RegionGraph.Settings.Fault
import RegionGraph.Text.LetterCase

/-!
# Valid settings

Levels and formats are among known names, in any letter case, and directories that
are needed have a name.
-/

namespace RegionGraph

/-- The levels that settings may name. -/
def levelNames : List String := ["trace", "debug", "info", "warn", "error"]

/-- The formats that settings may name. -/
def formatNames : List String := ["pretty", "compact", "json"]

/-- A problem that is there unless a condition holds. -/
def problemUnless (condition : Prop) [Decidable condition] (problem : SettingsProblem) :
    List SettingsProblem :=
  if condition then [] else [problem]

/-- All that is wrong with some settings, in the order of the sections' fields. -/
def Settings.problems (settings : Settings) : List SettingsProblem :=
  let logging := settings.logging
  problemUnless (lowerCase logging.level ∈ levelNames) (.notAmong "logging.level" levelNames) ++
    problemUnless (lowerCase logging.format ∈ formatNames)
      (.notAmong "logging.format" formatNames) ++
    problemUnless (logging.fileLogging = false ∨ logging.directory ≠ "")
      (.missing "logging.log_dir") ++
    problemUnless (settings.bundle.directory ≠ "") (.missing "bundle.directory")

/-- Accept settings that have no problem. -/
def Settings.validate (settings : Settings) : Except SettingsFault Unit :=
  match settings.problems with
  | [] => .ok ()
  | problems => .error (.invalid problems)

/-- Validation reports every problem there is, and succeeds only without any. -/
theorem Settings.validate_eq_ok_iff {settings : Settings} :
    settings.validate = .ok () ↔ settings.problems = [] := by
  unfold Settings.validate
  split <;> simp_all

end RegionGraph
