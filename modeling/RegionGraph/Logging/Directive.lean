import RegionGraph.Logging.Pattern

/-!
# Directives of message filters

A directive names a level for all messages, or a target, a span with some of its
fields, and the level of their messages: `target[span{field=pattern}]=level`.
All parts may be missing, but not all at once.

Parts are found in the text without the blanks around it, but what they say is read
at the same places of the whole text. So blanks in front shift what is read, and no
directive with blanks in front can set a level.
-/

namespace RegionGraph

/-- The levels that a directive can name. -/
def directiveLevels : List String := ["off", "error", "warn", "info", "debug", "trace"]

/-- The number of the level that shows all messages. -/
def greatestLevel : UInt64 := 5

/-- Whether a text gives a level, by name in any letter case or by number. None given
    means all messages. -/
def isLevel (text : String) : Bool :=
  text = "" || lowerCase text ∈ directiveLevels || (decimalWord? text).any (· ≤ greatestLevel)

/-- Whether a text names a field, perhaps with a value or a pattern that its value is to
    match. What follows a second equals sign does not count. -/
def isField (text : String) : Bool :=
  match text.splitOn "=" with
  | _ :: value :: _ => isNumeral value || isPattern value
  | _ => text ≠ ""

/-- The part of a text from one place to another, counted in bytes. -/
def textBetween? (text : String) (first last : Nat) : Option String :=
  String.fromUTF8? (text.toUTF8.extract first last)

namespace Directive

/-- How far the reading of a directive has come. -/
inductive Stage where
  | start
  | target
  | span
  /-- In a field that begins at a place. -/
  | field (place : Nat)
  | fieldsRead
  | spanRead
  /-- In the level, which begins at a place. -/
  | level (place : Nat)

/-- Whether a target may begin with a character. -/
def startsTarget (c : Char) : Bool := c ∈ ['-', ':', '_'] || isAlphanumeric c

/-- Read one more character of a directive, at a place. -/
def Stage.next (text : String) (place : Nat) (c : Char) : Stage → Option Stage
  | .start => if c = '[' then some .span else if startsTarget c then some .target else none
  | .target =>
    some (if c = '=' then .level (place + 1) else if c = '[' then .span else .target)
  | .span => some (if c = ']' then .spanRead else if c = '{' then .field (place + 1) else .span)
  | .field first =>
    if c = '}' then
      if (textBetween? text first place).any isField then some .fieldsRead else none
    else some (.field first)
  | .fieldsRead => if c = ']' then some .spanRead else none
  | .spanRead => if c = '=' then some (.level (place + 1)) else none
  | .level first => some (.level first)

/-- Read the characters of a directive from a place on. -/
def Stage.after (text : String) (stage : Stage) (place : Nat) : List Char → Option Stage
  | [] => some stage
  | c :: rest => do (← stage.next text place c).after text (place + c.utf8Size) rest

end Directive

/-- Whether a directive is well formed. -/
def isDirective (text : String) : Bool :=
  match Directive.Stage.start.after text 0 (trimBlanks text).toList with
  | some .target | some .spanRead => true
  | some (.level first) => (textBetween? text first text.utf8ByteSize).any isLevel
  | _ => false

end RegionGraph
