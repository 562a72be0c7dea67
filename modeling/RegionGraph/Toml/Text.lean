import RegionGraph.Text.Numeral

/-!
# Text and keys in a TOML document

Text stands in double quotes, where a backslash starts an escape, or in single
quotes, where every character counts for itself; three quotes enclose text of
several lines. A key is one or more names with dots between them.
-/

namespace RegionGraph.Toml

/-- Blanks within a line. -/
def isSpace (c : Char) : Bool := c == ' ' || c == '\t'

/-- Characters that may stand in a comment, and in text but for quotes and escapes. -/
def isPlain (c : Char) : Bool :=
  c == '\t' || (0x20 ≤ c.toNat && c.toNat ≠ 0x7F)

/-- Skip blanks within a line. -/
def spaces : Scan Unit := do
  let _ ← Scan.run isSpace

/-- The end of a line. -/
def newline : Scan Unit := Scan.one '\n' <|> Scan.exactly "\r\n"

/-- A comment, up to the end of its line. -/
def comment : Scan Unit := do
  Scan.one '#'
  let _ ← Scan.run isPlain

/-- A number of hexadecimal digits. -/
def hexDigits : Nat → Nat → Scan Nat
  | 0, value => pure value
  | more + 1, value => do
    match hexValue? (← Scan.oneOf fun _ => true) with
    | some digit => hexDigits more (value * 16 + digit)
    | none => failure

/-- The character of a number, unless it is a surrogate or too large. -/
def scalar (number : Nat) : Scan Char :=
  if number < 0xD800 ∨ (0xE000 ≤ number ∧ number < 0x110000) then pure (Char.ofNat number)
  else failure

/-- A backslash and what it stands for. -/
def escaped : Scan Char := do
  Scan.one '\\'
  match ← Scan.oneOf fun _ => true with
  | 'b' => return '\x08'
  | 't' => return '\t'
  | 'n' => return '\n'
  | 'f' => return '\x0c'
  | 'r' => return '\r'
  | '"' => return '"'
  | '\\' => return '\\'
  | 'u' => scalar (← hexDigits 4 0)
  | 'U' => scalar (← hexDigits 8 0)
  | _ => failure

/-- A backslash at the end of a line, with all blanks and line ends that follow. -/
def continued : Scan (List Char) := do
  Scan.one '\\'
  spaces
  newline
  let _ ← Scan.repeated (newline <|> do let _ ← Scan.oneOf isSpace)
  return []

/-- A character of text between double quotes. -/
def quotedChar : Scan Char :=
  Scan.oneOf (fun c => isPlain c && c ≠ '"' && c ≠ '\\') <|> escaped

/-- A character of text between single quotes. -/
def literalChar : Scan Char := Scan.oneOf fun c => isPlain c && c ≠ '\''

/-- Text of one line between two quotes. -/
def enclosed (quote : Char) (char : Scan Char) : Scan String := do
  Scan.one quote
  let cs ← Scan.repeated char
  Scan.one quote
  return String.ofList cs

/-- As many quotes as stand here, if their number is allowed, without some that have a
    meaning of their own. -/
def quotes (quote : Char) (least greatest without : Nat) : Scan (List Char) := do
  let cs ← Scan.run (· == quote)
  if least ≤ cs.length ∧ cs.length ≤ greatest then return cs.drop without else failure

/-- Text of several lines between three quotes each. A line end right at the start is
    skipped; one or two quotes may stand within the text and before its end. -/
def enclosedLines (quote : Char) (piece : Scan (List Char)) : Scan String := do
  let _ ← (List.replicate 3 quote).forM Scan.one
  let _ ← Scan.optional newline
  let lineEnd : Scan (List Char) := do newline; return ['\n']
  let pieces ← Scan.repeated (piece <|> lineEnd <|> quotes quote 1 2 0)
  let last ← quotes quote 3 5 3
  return String.ofList (pieces.flatten ++ last)

/-- A piece made of one character. -/
def single (char : Scan Char) : Scan (List Char) := do return [← char]

/-- Text of one line. -/
def lineText : Scan String := enclosed '"' quotedChar <|> enclosed '\'' literalChar

/-- Text of any kind. -/
def text : Scan String :=
  enclosedLines '"' (single quotedChar <|> continued) <|>
    enclosedLines '\'' (single literalChar) <|> lineText

/-- Characters of a name without quotes. -/
def isBare (c : Char) : Bool := c.isAlphanum || c == '_' || c == '-'

/-- One name of a key. -/
def keyName : Scan String := lineText <|> do
  let first ← Scan.oneOf isBare
  return String.ofList (first :: (← Scan.run isBare))

/-- Deepest nesting of values, and of tables by one key. -/
def depthLimit : Nat := 79

/-- A key: the names on the way and the last name. -/
def key : Scan (List String × String) := do
  let names ← Scan.separated (Scan.one '.') (do
    spaces
    let name ← keyName
    spaces
    return name)
  match names.getLast? with
  | some last => if names.length ≤ depthLimit then return (names.dropLast, last) else failure
  | none => failure

end RegionGraph.Toml
