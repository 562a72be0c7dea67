/-!
# Classes of characters

Classes of characters are kept as lists of ranges of their numbers. The smallest of them
is here: the characters that Unicode counts as white space, and trimming a text of them.
-/

namespace RegionGraph

/-- Whether a character lies in one of several ranges, given by first and last. -/
def inRanges (ranges : List (Nat × Nat)) (c : Char) : Bool :=
  ranges.any fun (first, last) => first ≤ c.toNat && c.toNat ≤ last

/-- The ranges of blank characters. -/
def blankRanges : List (Nat × Nat) :=
  [(0x9, 0xD), (0x20, 0x20), (0x85, 0x85), (0xA0, 0xA0), (0x1680, 0x1680), (0x2000, 0x200A),
    (0x2028, 0x2029), (0x202F, 0x202F), (0x205F, 0x205F), (0x3000, 0x3000)]

/-- Whether a character is blank. -/
def isBlank (c : Char) : Bool := inRanges blankRanges c

/-- Characters without the blanks at their start. -/
def dropBlanks (cs : List Char) : List Char := cs.dropWhile isBlank

/-- A text without the blanks at its ends. -/
def trimBlanks (text : String) : String :=
  String.ofList (dropBlanks (dropBlanks text.toList).reverse).reverse

end RegionGraph
