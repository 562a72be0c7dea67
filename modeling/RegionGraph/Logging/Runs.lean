import RegionGraph.Calendar
import RegionGraph.Logging.Flags
import RegionGraph.Text.Scan

/-!
# Folders of log files

Every run logs to a folder of its own, named after the moment it started. When a
run starts, the folders of the oldest runs are removed, so that a number of them is
kept. Folders with other names, and files, stay.
-/

namespace RegionGraph

/-- What stands in the directory of logs. -/
structure LogDirectory where
  folders : List String
  files : List String
deriving DecidableEq

namespace LogDirectory

/-- The directory that holds some folders and files. What is named twice is there once. -/
def holding (folders files : List String) : LogDirectory :=
  ⟨folders.eraseDups, files.eraseDups⟩

/-- A number of at most some digits. Blanks may stand before it. -/
def field (width : Nat) : Scan Nat := do
  let _ ← Scan.run isBlank
  match ← Scan.repeatedAtMost (Scan.oneOf Char.isDigit) width with
  | [] => failure
  | digits => return digits.foldl (fun n c => n * 10 + (c.toNat - '0'.toNat)) 0

/-- A year: four digits at most, or a sign and any number of digits. -/
def year : Scan Int := do
  let _ ← Scan.run isBlank
  match ← Scan.optional (Scan.oneOf fun c => c == '+' || c == '-') with
  | none => return ← field 4
  | some mark =>
    let digits ← Scan.repeated (Scan.oneOf Char.isDigit)
    if digits.isEmpty then failure
    let magnitude : Int := digits.foldl (fun n c => n * 10 + (c.toNat - '0'.toNat)) 0
    return if mark = '-' then -magnitude else magnitude

/-- A moment as folders are named: the date, an underscore, and the time. -/
def moment : Scan Moment := do
  let year ← year
  let month ← field 2
  let day ← field 2
  Scan.one '_'
  let hour ← field 2
  let minute ← field 2
  let second ← field 2
  let moment : Moment := ⟨year, month, day, hour, minute, second⟩
  if moment.isValid ∧ -262143 ≤ year ∧ year ≤ 262142 then return moment else failure

/-- The beginning of a run's folder name. -/
def runStem : String := "run_"

/-- The moment in the name of a run's folder; other names have none. -/
def runMoment? (name : String) : Option Moment :=
  if name.startsWith runStem then
    moment.whole (String.ofList (name.toList.drop runStem.length))
  else none

/-- A number with zeros in front. -/
def padded (width n : Nat) : String :=
  let digits := Nat.toDigits 10 n
  String.ofList (List.replicate (width - digits.length) '0' ++ digits)

/-- The name of the folder of a run. -/
def runName (start : Moment) : String :=
  runStem ++ padded 4 start.year.toNat ++ padded 2 start.month ++ padded 2 start.day ++ "_" ++
    padded 2 start.hour ++ padded 2 start.minute ++ padded 2 start.second

/-- The folders of runs, oldest first. -/
def runs (folders : List String) : List String :=
  let dated := folders.filterMap fun name => (runMoment? name).map fun m => (name, m.rank)
  (dated.mergeSort fun a b => a.2 ≤ b.2).map Prod.fst

/-- The folders to be removed so that a number of runs is kept. -/
def expired (keep : Nat) (folders : List String) : List String :=
  (runs folders).take ((runs folders).length - keep)

/-- Make the folder of a run and remove the oldest ones. The new folder counts among
    those kept; if even it was removed, it is made again. -/
def openRun (directory : LogDirectory) (start : Moment) (keep : Nat) : LogDirectory :=
  let run := runName start
  let others := directory.folders.filter (· ≠ run)
  let kept := others.filter (· ∉ expired keep (run :: others))
  { directory with folders := run :: kept }

/-- The logs of a run in the order of their file names: one for each part of the
    program, and one for all. -/
def runLogs : List String :=
  (NameMap.ofList (componentNames.map fun name => (name ++ ".log", name))).entries.map Prod.snd

end LogDirectory

end RegionGraph
