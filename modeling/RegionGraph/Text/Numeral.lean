import RegionGraph.Text.LetterCase
import RegionGraph.Text.Scan

/-!
# Numerals

Digits, and texts that write numbers in decimal.
-/

namespace RegionGraph

/-- The value of a hexadecimal digit. -/
def hexValue? (c : Char) : Option Nat :=
  if '0' ≤ c ∧ c ≤ '9' then some (c.toNat - '0'.toNat)
  else if 'a' ≤ c ∧ c ≤ 'f' then some (c.toNat - 'a'.toNat + 10)
  else if 'A' ≤ c ∧ c ≤ 'F' then some (c.toNat - 'A'.toNat + 10)
  else none

/-- The number that a text of decimal digits writes, perhaps after a plus sign, if it
    fits 64 bits. -/
def decimalWord? (text : String) : Option UInt64 :=
  let digits := match text.toList with
    | '+' :: rest => rest
    | all => all
  if digits.isEmpty ∨ ¬digits.all Char.isDigit then none
  else
    let number := digits.foldl (fun n c => n * 10 + (c.toNat - '0'.toNat)) 0
    if number < UInt64.size then some (UInt64.ofNat number) else none

/-- A plus or minus sign, if any. -/
def numeralSign : Scan Unit := do
  let _ ← Scan.optional (Scan.oneOf fun c => c == '+' || c == '-')

/-- The digits of a number, with or without a point among or around them, and its
    exponent, if any. -/
def unsignedNumeral : Scan Unit := do
  let whole ← Scan.run Char.isDigit
  let places ← Scan.optional (do Scan.one '.'; Scan.run Char.isDigit)
  if whole.isEmpty ∧ (places.getD []).isEmpty then failure
  let _ ← Scan.optional (do
    let _ ← Scan.oneOf fun c => c == 'e' || c == 'E'
    numeralSign
    let _ ← Scan.oneOf Char.isDigit
    let _ ← Scan.run Char.isDigit)

/-- The names of numbers that have no digits. -/
def unrealNames : List String := ["inf", "infinity", "nan"]

/-- Whether a text writes a number in floating point, by its digits or by name, in any
    letter case. -/
def isNumeral (text : String) : Bool :=
  let named : Scan Unit := do
    numeralSign
    let name ← Scan.run fun _ => true
    if lowerCase (String.ofList name) ∈ unrealNames then pure () else failure
  (Scan.whole ((do numeralSign; unsignedNumeral) <|> named) text).isSome

end RegionGraph
