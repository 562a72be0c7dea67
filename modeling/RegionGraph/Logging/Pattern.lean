import RegionGraph.Text.Alphanumeric
import RegionGraph.Text.Classes
import RegionGraph.Text.Numeral

/-!
# Patterns of field values

A filter may ask that the value of a field matches a regular expression. Here is
decided which expressions are well formed; what they match is not looked at.

Expressions are read without Unicode's tables: the shorthands for digits, blanks and
words, the bounds of words, and letters in either case are for bytes only. Matches
are of whole characters, so in terms of bytes nothing beyond ASCII can be meant, and
no class of all others. Parts may be nested to a certain depth. In a filter a closing
brace ends the field, so that no count of repetitions and no name in braces is ever
complete.
-/

namespace RegionGraph.Pattern

/-- How the characters of a pattern are understood. -/
structure Mode where
  /-- Letters stand for either case. -/
  caseless : Bool
  /-- Blanks and comments are skipped. -/
  spaced : Bool
  /-- Bytes are matched, not characters. -/
  bytes : Bool

/-- Whether single characters can be matched. Only of bytes is it known which are one
    letter in two cases. -/
def Mode.tellsCharacters (mode : Mode) : Bool := mode.bytes || !mode.caseless

/-- What counts of a part of a pattern. -/
structure Part where
  /-- The names of the groups in it. -/
  names : List String
  /-- How many compound parts lie around each other in it, itself included. -/
  depth : Nat
  repeatable : Bool

namespace Part

/-- A part without parts of its own. -/
def simple : Part := ⟨[], 0, true⟩

/-- A change of mode. -/
def setting : Part := ⟨[], 0, false⟩

/-- A part with something around it: a group with or without a name, a repetition, or the
    brackets of a class. -/
def enclosed (part : Part) (names : List String) : Part :=
  ⟨names ++ part.names, part.depth + 1, true⟩

/-- Several parts as one, be it all in turn or any of them. A single part has nothing
    around it. -/
def joined : List Part → Part
  | [] => simple
  | [part] => part
  | parts => ⟨parts.flatMap names, (parts.map depth).foldr max 0 + 1, true⟩

end Part

/-- Characters without the blanks and comments at their start, seen from inside a
    comment or not. A comment ends with its line. -/
def dropSpace : Bool → List Char → List Char
  | _, [] => []
  | true, c :: rest => dropSpace (c ≠ '\n') rest
  | false, c :: rest =>
    if c = '#' then dropSpace true rest
    else if isBlank c then dropSpace false rest
    else c :: rest

/-- Skip what is no part of a pattern. -/
def skip (mode : Mode) : Scan Unit :=
  if mode.spaced then modify (dropSpace false) else pure ()

/-- What is written by a backslash and the characters after it. -/
inductive Escape where
  | character (number : Nat)
  | byte (number : Nat)
  /-- Digits, blanks or parts of words; or all others. -/
  | shorthand (others : Bool)
  /-- The start or end of the text. -/
  | edge
  /-- A bound of a word, or a place that is none. -/
  | bound

/-- A number of hexadecimal digits. -/
def hexadecimal (mode : Mode) (count : Nat) : Scan Nat := do
  let digits ← (List.replicate count ()).mapM fun _ => do
    skip mode
    match hexValue? (← Scan.oneOf fun _ => true) with
    | some digit => return digit
    | none => failure
  return digits.foldl (fun n digit => n * 16 + digit) 0

/-- The number of a character, written in hexadecimal. -/
def numbered (mode : Mode) (count : Nat) : Scan Escape := do
  let number ← hexadecimal mode count
  if number.isValidChar then return .character number else failure

/-- Read an escape after its backslash. Any mark but an angle bracket may be escaped. -/
def escape (mode : Mode) : Scan Escape := do
  let c ← Scan.oneOf fun _ => true
  match c with
  | 'x' => return .byte (← hexadecimal mode 2)
  | 'u' => numbered mode 4
  | 'U' => numbered mode 8
  | 'd' | 's' | 'w' => return .shorthand false
  | 'D' | 'S' | 'W' => return .shorthand true
  | 'A' | 'z' => return .edge
  | 'b' | 'B' | '<' | '>' => return .bound
  | 'a' => return .character 7
  | 't' => return .character 9
  | 'n' => return .character 10
  | 'v' => return .character 11
  | 'f' => return .character 12
  | 'r' => return .character 13
  | c => if c.toNat < 128 ∧ ¬c.isAlphanum then return .character c.toNat else failure

/-- Succeed if a condition holds. -/
def require (condition : Bool) : Scan Unit :=
  if condition then pure () else failure

/-- Read an escape that stands outside a class. -/
def lone (mode : Mode) : Scan Unit := do
  match ← escape mode with
  | .character _ => require mode.tellsCharacters
  | .byte number => require (if mode.bytes then number < 128 else !mode.caseless)
  | .shorthand others => require (mode.bytes && !others)
  | .edge => pure ()
  | .bound => require mode.bytes

/-- Read a character of a class and give its number, or read a shorthand. -/
def member (mode : Mode) : Scan (Option Nat) := do
  let c ← Scan.oneOf fun _ => true
  let found ← if c = '\\' then escape mode else pure (.character c.toNat)
  match found with
  | .character number | .byte number =>
    require (if mode.bytes then number < 128 else !mode.caseless)
    return some number
  | .shorthand others =>
    require (mode.bytes && !others)
    return none
  | .edge | .bound => failure

/-- Read the minus sign of a range. Before a closing bracket or another minus sign it
    is none. -/
def dash (mode : Mode) : Scan Unit := do
  Scan.one '-'
  skip mode
  match ← get with
  | ']' :: _ | '-' :: _ => failure
  | _ => pure ()

/-- Read a member of a class, or a range of characters in ascending order. -/
def range (mode : Mode) : Scan Unit := do
  let first ← member mode
  skip mode
  if (← Scan.optional (dash mode)).isSome then
    match first, ← member mode with
    | some first, some last => require (first ≤ last)
    | _, _ => failure

/-- The names of classes of ASCII characters. -/
def classNames : List String :=
  ["alnum", "alpha", "ascii", "blank", "cntrl", "digit", "graph", "lower", "print", "punct",
    "space", "upper", "word", "xdigit"]

/-- Read a class by name: whether all others are meant. -/
def namedClass : Scan Bool := do
  Scan.exactly "[:"
  let others ← Scan.optional (Scan.one '^')
  let name ← Scan.run (· ≠ ':')
  Scan.exactly ":]"
  require (String.ofList name ∈ classNames)
  return others.isSome

/-- Read the sign of an operation on classes. -/
def operation : Scan Unit :=
  Scan.exactly "&&" <|> Scan.exactly "--" <|> Scan.exactly "~~"

/-- Read how a class begins, after its bracket. Minus signs here, or else a closing
    bracket, are members. -/
def opening (mode : Mode) : Scan (List Part) := do
  skip mode
  if (← Scan.optional (Scan.one '^')).isSome then require !mode.bytes
  skip mode
  let dashes ← Scan.repeated (do Scan.one '-'; skip mode)
  let found ←
    if dashes.isEmpty then Option.toList <$> Scan.optional (Scan.one ']') else pure dashes
  require (found.isEmpty || mode.tellsCharacters)
  return found.map fun _ => .simple

/-- Read the members of a class and its closing bracket. Given are the operand before
    them, if any, and the members found so far. Every step takes a character, so their
    number bounds the steps. -/
def members (mode : Mode) : Nat → List Part → List Part → Scan Part
  | 0, _, _ => failure
  | more + 1, before, found => do
    skip mode
    if (← Scan.optional (Scan.one ']')).isSome then
      return .joined (before ++ [.joined found])
    if (← Scan.optional operation).isSome then
      return ← members mode more [.joined (before ++ [.joined found])] []
    if let some others ← Scan.optional namedClass then
      require (mode.tellsCharacters && !(mode.bytes && others))
      return ← members mode more before (.simple :: found)
    if (← Scan.optional (Scan.one '[')).isSome then
      let inner ← members mode more [] (← opening mode)
      return ← members mode more before (inner.enclosed [] :: found)
    range mode
    members mode more before (.simple :: found)

/-- Read the flags of a group. Each is named once; those after a minus sign are
    cleared, the others are set. -/
def flags (mode : Mode) : Scan (List Char × Mode) := do
  let letters ← Scan.run fun c => c ∈ ['i', 'm', 's', 'U', 'u', 'R', 'x', '-']
  require (letters.Nodup ∧ letters.getLast? ≠ some '-')
  let shown := letters.takeWhile (· ≠ '-')
  let flag (c : Char) (now : Bool) := if c ∈ letters then c ∈ shown else now
  return (letters,
    { caseless := flag 'i' mode.caseless, spaced := flag 'x' mode.spaced,
      bytes := !flag 'u' !mode.bytes })

/-- The name of a group, up to its closing angle bracket. -/
def groupName : Scan String := do
  let first ← Scan.oneOf fun c => c == '_' || isAlphabetic c
  let more ← Scan.run fun c => c ∈ ['_', '.', '[', ']'] || isAlphanumeric c
  Scan.one '>'
  return String.ofList (first :: more)

/-- How a group begins. -/
inductive GroupHead where
  /-- No group at all: the rest of the group around it is in another mode. -/
  | settings (mode : Mode)
  | group (names : List String) (mode : Mode)

/-- Read how a group begins, after its opening bracket. -/
def groupHead (mode : Mode) : Scan GroupHead := do
  skip mode
  if (← Scan.optional (Scan.exactly "?P<" <|> Scan.exactly "?<")).isSome then
    return .group [← groupName] mode
  if (← Scan.optional (Scan.one '?')).isNone then return .group [] mode
  let (letters, mode) ← flags mode
  if (← Scan.optional (Scan.one ':')).isSome then return .group [] mode
  Scan.one ')'
  require !letters.isEmpty
  return .settings mode

/-- Read the parts of a group, up to its end but without its closing bracket. Given are
    the alternatives so far and the parts before in this one, last first. Every step
    takes a character, so their number bounds the steps. -/
def parts : Nat → Mode → List Part → List Part → Scan Part
  | 0, _, _, _ => failure
  | more + 1, mode, branches, before => do
    let next (part : Part) := parts more mode branches (part :: before)
    skip mode
    match ← get with
    | [] | ')' :: _ => return .joined (.joined before :: branches)
    | c :: rest =>
      set rest
      match c with
      | '|' => parts more mode (.joined before :: branches) []
      | '*' | '+' | '?' =>
        let _ ← Scan.optional (Scan.one '?')
        match before with
        | last :: before =>
          require last.repeatable
          parts more mode branches (last.enclosed [] :: before)
        | [] => failure
      | '{' => failure
      | '(' =>
        match ← groupHead mode with
        | .settings mode => parts more mode branches (.setting :: before)
        | .group names inside =>
          let inner ← parts more inside [] []
          Scan.one ')'
          next (inner.enclosed names)
      | '[' =>
        let inner ← members mode rest.length [] (← opening mode)
        next (inner.enclosed [])
      | '\\' =>
        lone mode
        next .simple
      | '.' =>
        require !mode.bytes
        next .simple
      | '^' | '$' => next .simple
      | _ =>
        require mode.tellsCharacters
        next .simple

/-- How deeply the parts of a pattern may be nested. -/
def greatestDepth : Nat := 250

end RegionGraph.Pattern

namespace RegionGraph

/-- Whether a text is a well-formed regular expression. Groups of one name are refused. -/
def isPattern (text : String) : Bool :=
  match Scan.whole (Pattern.parts (text.length + 1) ⟨false, false, false⟩ [] []) text with
  | some pattern => pattern.depth ≤ Pattern.greatestDepth && pattern.names.Nodup
  | none => false

end RegionGraph
