import RegionGraph.Binary.Format

/-!
# Shortest decimals

Every finite binary number lies in an interval of reals that round to it. Its
shortest decimal is the point of that interval on the coarsest grid of powers of
ten that has one; of two such points the nearer, of two equally near the larger.
Everything is computed in whole numbers. Two notations are offered: plain
positional digits, and the one for inspection that marks whole numbers by a
fraction digit and leaves very large and very small numbers to an exponent.
-/

namespace RegionGraph.Binary

/-- A non-negative number: digits times a power of ten. -/
structure Decimal where
  digits : Nat
  exponent : Int
deriving DecidableEq

namespace Decimal

/-- The interval of numbers that a word stands for, in quarters of its unit. The
    ends belong to it when the significand is even. -/
structure Interval where
  low : Nat
  centre : Nat
  high : Nat
  closed : Bool
deriving DecidableEq

/-- The neighbour below the smallest significand of a binade is half as far away,
    except in the lowest binade. -/
def Interval.around (f : Format) (significand : Nat) (exponent : Int) : Interval where
  low := if significand = 2 ^ f.fractionBits ∧ f.leastExponent < exponent
    then 4 * significand - 1 else 4 * significand - 2
  centre := 4 * significand
  high := 4 * significand + 2
  closed := significand % 2 = 0

/-- Whether a number lies in an interval, both measured in the same unit after
    the interval is scaled. -/
def Interval.holds (interval : Interval) (scale number : Nat) : Bool :=
  if interval.closed then
    interval.low * scale ≤ number && number ≤ interval.high * scale
  else
    interval.low * scale < number && number < interval.high * scale

/-- The point of the grid of ten to the power `place` in the interval that is
    nearest to its centre, if the grid has a point there. The quarter unit is two
    to the power `quarter`. -/
def onGrid? (interval : Interval) (quarter place : Int) : Option Decimal :=
  let scale := 2 ^ quarter.toNat * 10 ^ (-place).toNat
  let step := 2 ^ (-quarter).toNat * 10 ^ place.toNat
  let centre := interval.centre * scale
  let below := centre / step
  let above := below + 1
  let hitsBelow := interval.holds scale (below * step)
  let hitsAbove := interval.holds scale (above * step)
  let aboveNearer := above * step - centre ≤ centre - below * step
  if hitsAbove && (aboveNearer || !hitsBelow) then some ⟨above, place⟩
  else if hitsBelow then some ⟨below, place⟩
  else none

/-- The centre of an interval, written out in full. -/
def expand (interval : Interval) (quarter : Int) : Decimal :=
  ⟨interval.centre * 2 ^ quarter.toNat * 5 ^ (-quarter).toNat, min quarter 0⟩

/-- Try ever finer grids, a bounded number of them; past the bound nothing shorter
    than the full expansion is offered. -/
def search (interval : Interval) (quarter : Int) : Nat → Int → Decimal
  | 0, _ => expand interval quarter
  | more + 1, place =>
    (onGrid? interval quarter place).getD (search interval quarter more (place - 1))

/-- A power of ten that no number of the given bit length exceeds. -/
def startPlace (length : Int) : Int :=
  max (3 * length / 10) (302 * length / 1000) + 1

/-- The shortest decimal of a finite number of a format. Zero has no interval of
    its own and is written as the digit zero. -/
def shortest (f : Format) (significand : Nat) (exponent : Int) : Decimal :=
  if significand = 0 then ⟨0, 0⟩
  else
    search (.around f significand exponent) (exponent - 2) (f.precision + 8)
      (startPlace (exponent + (significand.log2 + 1 : Nat)))

/-- Digits with the decimal point set in place and zeros filled in. -/
def positional (number : Decimal) : String :=
  let digits := Nat.repr number.digits
  if 0 ≤ number.exponent then digits ++ String.ofList (List.replicate number.exponent.toNat '0')
  else
    let places := (-number.exponent).toNat
    let padded := List.replicate (places + 1 - digits.length) '0' ++ digits.toList
    let whole := padded.length - places
    String.ofList (padded.take whole) ++ "." ++ String.ofList (padded.drop whole)

/-- One digit before the point, the rest behind it, and the exponent of ten. -/
def scientific (number : Decimal) : String :=
  let digits := (Nat.repr number.digits).toList
  let exponent := number.exponent + (digits.length - 1 : Nat)
  let fraction := digits.drop 1
  String.ofList (digits.take 1) ++ (if fraction.isEmpty then "" else "." ++ String.ofList fraction)
    ++ "e" ++ toString exponent

/-- The exponent of ten of the leading digit. -/
def magnitude (number : Decimal) : Int :=
  number.exponent + ((Nat.repr number.digits).length - 1 : Nat)

end Decimal

namespace Format

/-- Plain positional text of a word. -/
def display (f : Format) (word : Nat) : String :=
  match f.read word with
  | .undefined _ _ => "NaN"
  | .infinite negative => if negative then "-inf" else "inf"
  | .finite negative significand exponent =>
    (if negative then "-" else "") ++ (Decimal.shortest f significand exponent).positional

/-- Text of a word for inspection: whole numbers show one fraction digit, and
    numbers whose leading digit stands below the fourth decimal place or above
    the sixteenth whole one are written with an exponent. -/
def inspect (f : Format) (word : Nat) : String :=
  match f.read word with
  | .undefined _ _ => "NaN"
  | .infinite negative => if negative then "-inf" else "inf"
  | .finite negative significand exponent =>
    let number := Decimal.shortest f significand exponent
    (if negative then "-" else "") ++
      (if number.digits ≠ 0 ∧ (number.magnitude < -4 ∨ 15 < number.magnitude) then number.scientific
       else if 0 ≤ number.exponent then number.positional ++ ".0"
       else number.positional)

end Format

end RegionGraph.Binary
