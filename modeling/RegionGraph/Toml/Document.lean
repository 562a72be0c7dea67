import RegionGraph.Toml.Basic
import RegionGraph.Toml.Number

/-!
# TOML documents

A document is read as a list of statements, one a line: headers of tables, and
entries of the table whose header came last. Building the document fails where a
statement contradicts an earlier one.
-/

namespace RegionGraph.Toml

/-- A value without parts. -/
def simpleValue : Scan Node :=
  (do return .text (← text)) <|>
  (do moment; return .moment) <|>
  (do return .real (← decimal)) <|>
  (do return .real (← unreal)) <|>
  (do return .integer (← integer)) <|>
  (do Scan.exactly "true"; return .flag true) <|>
  (do Scan.exactly "false"; return .flag false)

/-- Blanks, line ends and comments, as they may stand within a list. -/
def blanks : Scan Unit := do
  let _ ← Scan.repeated
    ((do let _ ← Scan.oneOf isSpace) <|> newline <|> (do comment; newline))

/-- A list of items in brackets. A comma may follow the last. -/
def bracketed (item : Scan Node) : Scan Node := do
  Scan.one '['
  let items ← Scan.optional (do
    let items ← Scan.separated (Scan.one ',') (do
      blanks
      let node ← item
      blanks
      return node)
    let _ ← Scan.optional (Scan.one ',')
    return items)
  blanks
  Scan.one ']'
  return .list (items.getD [])

/-- A key and its value. -/
def keyed (item : Scan Node) : Scan ((List String × String) × Node) := do
  let names ← key
  Scan.one '='
  spaces
  return (names, ← item)

/-- A table in braces. -/
def braced (item : Scan Node) : Scan Node := do
  Scan.one '\x7b'
  let entries ← Scan.optional (Scan.separated (Scan.one ',') (do
    let entry ← keyed item
    spaces
    return entry))
  spaces
  Scan.one '\x7d'
  let add (table : Entries) : (List String × String) × Node → Option Entries
    | ((path, name), node) => addEntry path name node .braces table
  match (entries.getD []).foldlM add [] with
  | some table => return .table .braces table
  | none => failure

/-- A value, with lists and braces nested to a certain depth. -/
def value : Nat → Scan Node
  | 0 => simpleValue
  | depth + 1 => bracketed (value depth) <|> braced (value depth) <|> simpleValue

/-- What one line of a document says. -/
inductive Statement where
  /-- The following entries belong to a table. -/
  | table (path : List String) (name : String)
  /-- The following entries belong to one more table of a repeated header. -/
  | next (path : List String) (name : String)
  /-- An entry of the current table. -/
  | entry (path : List String) (name : String) (node : Node)

/-- The rest of a line: blanks, perhaps a comment, and the line's end. -/
def lineEnd : Scan Unit := do
  spaces
  let _ ← Scan.optional comment
  newline <|> Scan.atEnd

/-- A line of a document that says something. -/
def statement : Scan Statement :=
  (do
    Scan.exactly "[["
    let (path, name) ← key
    Scan.exactly "]]"
    lineEnd
    return .next path name) <|>
  (do
    Scan.one '['
    let (path, name) ← key
    Scan.one ']'
    lineEnd
    return .table path name) <|>
  (do
    let ((path, name), node) ← keyed (value depthLimit)
    lineEnd
    return .entry path name node)

/-- All statements of a document. Blank lines and comments say nothing. -/
def statements : Scan (List Statement) := do
  let _ ← Scan.optional (Scan.one '\uFEFF')
  spaces
  let lines ← Scan.repeated (do
    let line ← (do return some (← statement)) <|> (do newline; return none) <|>
      (do comment; newline <|> Scan.atEnd; return none)
    spaces
    return line)
  return lines.reduceOption

/-- A document under construction: its entries, and the header of the current table. -/
structure Draft where
  entries : Entries
  current : List String

/-- Add what a statement says. -/
def Draft.add (draft : Draft) : Statement → Option Draft
  | .table path name => do
    return ⟨← openTable path name draft.entries, path ++ [name]⟩
  | .next path name => do
    return ⟨← openNext path name draft.entries, path ++ [name]⟩
  | .entry path name node => do
    let entries ← changeAt .implied (addEntry path name node) draft.current .header draft.entries
    return { draft with entries }

/-- Read a document. -/
def document (source : String) : Option Entries := do
  let draft ← (← statements.whole source).foldlM Draft.add ⟨[], []⟩
  return draft.entries

end RegionGraph.Toml
