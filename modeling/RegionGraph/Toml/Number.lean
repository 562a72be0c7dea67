import RegionGraph.Binary.Format
import RegionGraph.Calendar
import RegionGraph.Toml.Text

/-!
# Numbers and dates in a TOML document

Digits may be grouped by single underscores. Whole numbers fit 64 signed bits and
have no leading zeros; hexadecimal, octal and binary ones have no sign. Positive
numbers with a fraction or exponent stay below the range of 64-bit floating point.
Dates are those of the calendar.
-/

namespace RegionGraph.Toml

/-- Digits of a class, single underscores between them left out. -/
def grouped (isDigit : Char → Bool) : Scan (List Char) := do
  let first ← Scan.oneOf isDigit
  let more ← Scan.repeated
    (Scan.oneOf isDigit <|> do Scan.one '_'; Scan.oneOf isDigit)
  return first :: more

/-- The number that digits of a base write. -/
def ofDigits (base : Nat) (digits : List Char) : Nat :=
  digits.foldl (fun n c => n * base + (hexValue? c).getD 0) 0

/-- A minus or plus sign, if any: whether the number is negative. -/
def sign : Scan Bool := do
  match ← Scan.optional (Scan.oneOf fun c => c == '+' || c == '-') with
  | some c => return c == '-'
  | none => return false

/-- Decimal digits without leading zeros. -/
def wholeDigits : Scan (List Char) :=
  (do
    let first ← Scan.oneOf fun c => '1' ≤ c && c ≤ '9'
    let more ← Scan.repeated
      (Scan.oneOf Char.isDigit <|> do Scan.one '_'; Scan.oneOf Char.isDigit)
    return first :: more) <|> single (Scan.one '0' *> pure '0')

/-- A number that fits 64 signed bits. -/
def bounded (number : Int) : Scan Int :=
  if -2 ^ 63 ≤ number ∧ number < 2 ^ 63 then pure number else failure

/-- A whole number with a mark of its base. -/
def based (mark : String) (base : Nat) : Scan Int := do
  Scan.exactly mark
  let digits ← grouped fun c => (hexValue? c).any (· < base)
  bounded (ofDigits base digits)

/-- A whole number. -/
def integer : Scan Int :=
  based "0x" 16 <|> based "0o" 8 <|> based "0b" 2 <|> do
    let negative ← sign
    let magnitude : Int := ofDigits 10 (← wholeDigits)
    bounded (if negative then -magnitude else magnitude)

/-- Whether `mantissa · 10 ^ exponent` is too large for 64-bit floating point, that is at
    least halfway from its greatest number to the next power of two. The number of digits
    decides all but the closest cases. -/
def overflows (mantissa : Nat) (exponent : Int) : Bool :=
  let limit := (2 ^ 54 - 1) * 2 ^ 970
  let magnitude := Int.ofNat (Nat.toDigits 10 mantissa).length + exponent
  if mantissa = 0 ∨ magnitude < 309 then false
  else if 309 < magnitude then true
  else limit * 10 ^ (-exponent).toNat ≤ mantissa * 10 ^ exponent.toNat

/-- The exponent of a number. -/
def exponent : Scan Int := do
  let _ ← Scan.oneOf fun c => c == 'e' || c == 'E'
  let negative ← sign
  let magnitude : Int := ofDigits 10 (← grouped Char.isDigit)
  return if negative then -magnitude else magnitude

/-- A number with a fraction or an exponent. -/
def decimal : Scan String := do
  let negative ← sign
  let digits ← wholeDigits
  let places ← Scan.optional (do Scan.one '.'; grouped Char.isDigit)
  let power ← Scan.optional exponent
  if places.isNone ∧ power.isNone then failure
  let places := places.getD []
  let power := power.getD 0
  if ¬negative ∧ overflows (ofDigits 10 (digits ++ places)) (power - places.length) then failure
  return String.ofList (digits ++ '.' :: places) ++ "e" ++ toString power

/-- Infinity, or what is no number. -/
def unreal : Scan String := do
  let _ ← sign
  (do Scan.exactly "inf"; return "inf") <|> (do Scan.exactly "nan"; return "nan")

/-- A fixed number of decimal digits, with a value in a range. -/
def fixedDigits (count least greatest : Nat) : Scan Nat := do
  let digits ← (List.replicate count ()).mapM fun _ => Scan.oneOf Char.isDigit
  let value := ofDigits 10 digits
  if least ≤ value ∧ value ≤ greatest then return value else failure

/-- A date. -/
def date : Scan Unit := do
  let year ← fixedDigits 4 0 9999
  Scan.one '-'
  let month ← fixedDigits 2 1 12
  Scan.one '-'
  let _ ← fixedDigits 2 1 (daysOfMonth year month)

/-- A time of day; a minute may have a leap second. -/
def time : Scan Unit := do
  let _ ← fixedDigits 2 0 23
  Scan.one ':'
  let _ ← fixedDigits 2 0 59
  Scan.one ':'
  let _ ← fixedDigits 2 0 60
  let _ ← Scan.optional (do
    Scan.one '.'
    let _ ← Scan.oneOf Char.isDigit
    let _ ← Scan.run Char.isDigit)

/-- The distance of a local time from universal time. -/
def offset : Scan Unit :=
  (do let _ ← Scan.oneOf fun c => c == 'Z' || c == 'z') <|> do
    let _ ← Scan.oneOf fun c => c == '+' || c == '-'
    let _ ← fixedDigits 2 0 23
    Scan.one ':'
    let _ ← fixedDigits 2 0 59

/-- A date, a time, or both. -/
def moment : Scan Unit :=
  (do
    date
    let _ ← Scan.optional (do
      let _ ← Scan.oneOf fun c => c == 'T' || c == 't' || c == ' '
      time
      let _ ← Scan.optional offset)) <|> time

end RegionGraph.Toml
