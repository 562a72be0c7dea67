/-!
# Values of a TOML document

A document is a table of named values, which may be tables again. How a table came
to be decides what may still be added to it: a table of its own header stays open
only under that header, one that was implied by a deeper header may still get its
own, one made by a dotted key takes further dotted keys, and one in braces is
complete.
-/

namespace RegionGraph.Toml

/-- How a table came to be. -/
inductive Origin where
  /-- The document itself, or a table with a header. -/
  | header
  /-- Made on the way to the table of a deeper header. -/
  | implied
  /-- Made by a dotted key. -/
  | dotted
  /-- Written in braces. -/
  | braces
deriving DecidableEq

/-- What stands under a name. -/
inductive Node where
  | text (content : String)
  | integer (number : Int)
  /-- A number with a fraction or an exponent, as written. -/
  | real (written : String)
  | flag (on : Bool)
  /-- A date, a time, or both. -/
  | moment
  | list (items : List Node)
  | table (origin : Origin) (entries : List (String × Node))
  /-- Tables of one repeated header, the latest first. -/
  | tables (latestFirst : List Node)

/-- The entries of a table. -/
abbrev Entries := List (String × Node)

/-- Replace the value under a name, or add it. -/
def Entries.put (entries : Entries) (name : String) (node : Node) : Entries :=
  match entries with
  | [] => [(name, node)]
  | entry :: rest =>
    if entry.1 = name then (name, node) :: rest else entry :: Entries.put rest name node

/-- Change the table at the end of a path. Missing tables on the way are made, with the
    given origin; of repeated tables the latest is entered. A way through anything else
    fails, and a dotted key does not enter a table that has a header. -/
def changeAt (made : Origin) (change : Origin → Entries → Option Entries) :
    List String → Origin → Entries → Option Entries
  | [], origin, entries => change origin entries
  | name :: path, _, entries =>
    match entries.lookup name with
    | none => do
      let inner ← changeAt made change path made []
      return entries.put name (.table made inner)
    | some (.table origin inner) =>
      if origin = .braces ∨ (made = .dotted ∧ origin = .header) then none
      else do
        let inner ← changeAt made change path origin inner
        return entries.put name (.table origin inner)
    | some (.tables (.table origin inner :: earlier)) => do
      let inner ← changeAt made change path origin inner
      return entries.put name (.tables (.table origin inner :: earlier))
    | some _ => none

/-- Add a value under a dotted key: all names but the last lead to a table, in which the
    last must be new. A key of several names only extends tables made by such keys. -/
def addEntry (path : List String) (name : String) (node : Node) (origin : Origin)
    (entries : Entries) : Option Entries :=
  changeAt .dotted (fun reached inner =>
    if (reached = .dotted ↔ path = []) ∨ (inner.lookup name).isSome then none
    else some (inner.put name node)) path origin entries

/-- Open the table of a header: new, or implied so far. -/
def openTable (path : List String) (name : String) (entries : Entries) : Option Entries :=
  changeAt .implied (fun _ inner =>
    match inner.lookup name with
    | none => some (inner.put name (.table .header []))
    | some (.table .implied found) => some (inner.put name (.table .header found))
    | some _ => none) path .header entries

/-- Open one more table of a repeated header. -/
def openNext (path : List String) (name : String) (entries : Entries) : Option Entries :=
  changeAt .implied (fun _ inner =>
    match inner.lookup name with
    | none => some (inner.put name (.tables [.table .header []]))
    | some (.tables earlier) =>
      some (inner.put name (.tables (.table .header [] :: earlier)))
    | some _ => none) path .header entries

end RegionGraph.Toml
