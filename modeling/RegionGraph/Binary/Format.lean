/-!
# Binary floating-point words

A format fixes how many bits of significand and exponent a word holds. Reading a
word gives the exact number it stands for, as a sign, a whole significand and a
power of two; nothing here uses machine floating point. Two writers go back:
one accepts only numbers the format holds exactly, the other rounds to the
nearest word and sends a tie to the even neighbour. The product of two words is
the rounded exact product.
-/

-- Powers of whole numbers mean repeated multiplication as the core library defines it. Other
-- libraries bring further instances of powers, equal to these but not the same term.
attribute [instance (default + 1000), default_instance 20000] instPowNat

namespace RegionGraph.Binary

/-- The sizes that determine a format: significant bits, counting the implied
    leading one, and bits of the exponent field. -/
structure Format where
  precision : Nat
  exponentBits : Nat
deriving DecidableEq

/-- Words of 32 bits. -/
def single : Format := ⟨24, 8⟩

/-- Words of 64 bits. -/
def double : Format := ⟨53, 11⟩

/-- What a word stands for. A finite number is its significand times two to the
    exponent. The payload of an undefined result is its fraction, aligned at the
    top of 64 bits so that formats of different size can pass it on. -/
inductive Reading where
  | finite (negative : Bool) (significand : Nat) (exponent : Int)
  | infinite (negative : Bool)
  | undefined (negative : Bool) (payload : Nat)
deriving DecidableEq

namespace Format

variable (f : Format)

/-- Bits of the stored fraction: the leading bit of a normal number is implied. -/
def fractionBits : Nat := f.precision - 1

/-- The exponent field kept for infinities and undefined results. -/
def reserved : Nat := 2 ^ f.exponentBits - 1

/-- The exponent of the smallest positive number. -/
def leastExponent : Int := 3 - 2 ^ (f.exponentBits - 1) - f.precision

/-- Put sign, exponent field and fraction together. A fraction that fills all its
    bits and carries moves into the next exponent, as rounding up needs. -/
def pack (negative : Bool) (field fraction : Nat) : Nat :=
  (if negative then 2 ^ (f.fractionBits + f.exponentBits) else 0)
    + field * 2 ^ f.fractionBits + fraction

/-- The word of an infinity. -/
def infinity (negative : Bool) : Nat := f.pack negative f.reserved 0

/-- The word of an undefined result. The top fraction bit is always set, which
    marks it quiet and keeps it apart from the infinities. -/
def undefinedWord (negative : Bool) (payload : Nat) : Nat :=
  f.pack negative f.reserved
    (payload / 2 ^ (64 - f.fractionBits) ||| 2 ^ (f.fractionBits - 1))

/-- The number that a word stands for. -/
def read (word : Nat) : Reading :=
  let negative := word.testBit (f.fractionBits + f.exponentBits)
  let field := word / 2 ^ f.fractionBits % 2 ^ f.exponentBits
  let fraction := word % 2 ^ f.fractionBits
  if field = f.reserved then
    if fraction = 0 then .infinite negative
    else .undefined negative (fraction * 2 ^ (64 - f.fractionBits))
  else if field = 0 then .finite negative fraction f.leastExponent
  else .finite negative (2 ^ f.fractionBits + fraction) (f.leastExponent + (field - 1 : Nat))

/-- The exponent at which a number is written: as low as its leading bit allows
    within the precision, never below that of the smallest number. -/
def unitExponent (significand : Nat) (exponent : Int) : Int :=
  max f.leastExponent (exponent + (significand.log2 + 1 : Nat) - f.precision)

/-- The word of a significand at its unit exponent. A significand without the
    leading bit is subnormal, and a number past the largest is infinite. -/
def assemble (negative : Bool) (significand : Nat) (unit : Int) : Nat :=
  if significand < 2 ^ f.fractionBits then f.pack negative 0 significand
  else
    let word := f.pack false ((unit - f.leastExponent).toNat + 1)
      (significand - 2 ^ f.fractionBits)
    if f.infinity false ≤ word then f.infinity negative
    else if negative then 2 ^ (f.fractionBits + f.exponentBits) + word
    else word

/-- The word of a number that the format holds without loss. -/
def encode? (negative : Bool) (significand : Nat) (exponent : Int) : Option Nat :=
  let unit := f.unitExponent significand exponent
  let dropped := 2 ^ (unit - exponent).toNat
  if significand % dropped ≠ 0 then none
  else
    let word := f.assemble negative (significand / dropped * 2 ^ (exponent - unit).toNat) unit
    if word = f.infinity negative then none else some word

/-- The word nearest to a number; a tie goes to the even significand. -/
def round (negative : Bool) (significand : Nat) (exponent : Int) : Nat :=
  let unit := f.unitExponent significand exponent
  let dropped := 2 ^ (unit - exponent).toNat
  let kept := significand / dropped
  let twice := 2 * (significand % dropped)
  let up := dropped < twice ∨ (twice = dropped ∧ kept % 2 = 1)
  f.assemble negative ((if up then kept + 1 else kept) * 2 ^ (exponent - unit).toNat) unit

/-- Write a reading without loss. Infinities and undefined results exist in every
    format. -/
def write? : Reading → Option Nat
  | .finite negative significand exponent => f.encode? negative significand exponent
  | .infinite negative => some (f.infinity negative)
  | .undefined negative payload => some (f.undefinedWord negative payload)

/-- The product of two words. An undefined factor, the first before the second,
    is passed on; zero times infinity is undefined with the sign bit set. -/
def product (a b : Nat) : Nat :=
  match f.read a, f.read b with
  | .undefined negative payload, _ => f.undefinedWord negative payload
  | _, .undefined negative payload => f.undefinedWord negative payload
  | .infinite p, .infinite q => f.infinity (p != q)
  | .infinite p, .finite q n _ => if n = 0 then f.undefinedWord true 0 else f.infinity (p != q)
  | .finite p m _, .infinite q => if m = 0 then f.undefinedWord true 0 else f.infinity (p != q)
  | .finite p m d, .finite q n e => f.round (p != q) (m * n) (d + e)

/-- Whether two words compare as equal numbers: an undefined result equals
    nothing, and the two zeros equal each other. -/
def same (a b : Nat) : Bool :=
  match f.read a, f.read b with
  | .finite _ 0 _, .finite _ 0 _ => true
  | .undefined _ _, _ => false
  | _, _ => a = b

end Format

end RegionGraph.Binary
