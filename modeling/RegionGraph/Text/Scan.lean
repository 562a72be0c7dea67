/-!
# Reading text from the left

A scan takes characters off the front of a text. One that fails takes nothing,
so that another may be tried on the same characters.
-/

namespace RegionGraph

/-- Scans that find values. -/
abbrev Scan (α : Type) := StateT (List Char) Option α

namespace Scan

variable {α : Type}

/-- Read one character of a class. -/
def oneOf (accept : Char → Bool) : Scan Char := fun input =>
  match input with
  | c :: rest => if accept c then some (c, rest) else none
  | [] => none

/-- Read one certain character. -/
def one (c : Char) : Scan Unit := do
  let _ ← oneOf (· == c)

/-- Read a certain text. -/
def exactly (text : String) : Scan Unit := text.toList.forM one

/-- Read the characters of a class that come next, however many. -/
def run (accept : Char → Bool) : Scan (List Char) := fun input =>
  some (input.takeWhile accept, input.dropWhile accept)

/-- Succeed at the end of the text only. -/
def atEnd : Scan Unit := fun input =>
  if input.isEmpty then some ((), input) else none

/-- Read what may be missing. -/
def optional (scan : Scan α) : Scan (Option α) :=
  (do return some (← scan)) <|> pure none

/-- Read repeatedly, at most a number of times, until a reading fails. -/
def repeatedAtMost (scan : Scan α) : Nat → Scan (List α)
  | 0 => pure []
  | more + 1 =>
    (do
      let first ← scan
      return first :: (← repeatedAtMost scan more)) <|> pure []

/-- Read repeatedly until a reading fails. A reading that takes characters can succeed
    no more often than there are characters. -/
def repeated (scan : Scan α) : Scan (List α) := fun input =>
  repeatedAtMost scan input.length input

/-- Read several values with separators between them. -/
def separated (separator : Scan Unit) (scan : Scan α) : Scan (List α) := do
  let first ← scan
  return first :: (← repeated (do separator; scan))

/-- Read a whole text. -/
def whole (scan : Scan α) (text : String) : Option α :=
  (do let value ← scan; atEnd; return value : Scan α).run' text.toList

end Scan

end RegionGraph
