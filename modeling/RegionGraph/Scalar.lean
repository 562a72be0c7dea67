import RegionGraph.DataError

/-!
# Scalars and lossless conversion

A scalar is one element together with its type. Converting it to another type
goes through the exact number it denotes: every number type can read its
elements as exact numbers and write those exact numbers it holds, and a
conversion is reading followed by writing. Nothing is ever rounded, and values
that are no numbers convert only to their own type.
-/

namespace RegionGraph

open Binary (Reading single double)

namespace ElementType

/-- The number that an element denotes; truth values and handles denote none. -/
def reading? : (type : ElementType) → type.Carrier → Option Reading
  | byte, value => some (.finite false value.toNat 0)
  | int16, value => some (.finite (value.toInt < 0) value.toInt.natAbs 0)
  | uint16, value => some (.finite false value.toNat 0)
  | int32, value => some (.finite (value.toInt < 0) value.toInt.natAbs 0)
  | uint32, value => some (.finite false value.toNat 0)
  | int64, value => some (.finite (value.toInt < 0) value.toInt.natAbs 0)
  | uint64, value => some (.finite false value.toNat 0)
  | real32, value => some (single.read value.bits.toNat)
  | real64, value => some (double.read value.bits.toNat)
  | bool, _ => none
  | handle, _ => none

/-- The element of a type for a whole number in its range. -/
def ofInt? (type : ElementType) (number : Int) : Option type.Carrier :=
  match type with
  | byte => if 0 ≤ number ∧ number < 2 ^ 8 then some (UInt8.ofNat number.toNat) else none
  | int16 => if -2 ^ 15 ≤ number ∧ number < 2 ^ 15 then some (Int16.ofInt number) else none
  | uint16 => if 0 ≤ number ∧ number < 2 ^ 16 then some (UInt16.ofNat number.toNat) else none
  | int32 => if -2 ^ 31 ≤ number ∧ number < 2 ^ 31 then some (Int32.ofInt number) else none
  | uint32 => if 0 ≤ number ∧ number < 2 ^ 32 then some (UInt32.ofNat number.toNat) else none
  | int64 => if -2 ^ 63 ≤ number ∧ number < 2 ^ 63 then some (Int64.ofInt number) else none
  | uint64 => if 0 ≤ number ∧ number < 2 ^ 64 then some (UInt64.ofNat number.toNat) else none
  | real32 | real64 | bool | handle => none

/-- The element of a type for a number, if the type holds exactly that number. -/
def ofReading? (type : ElementType) (reading : Reading) : Option type.Carrier :=
  match type with
  | real32 => (single.write? reading).map (fun word => ⟨UInt32.ofNat word⟩)
  | real64 => (double.write? reading).map (fun word => ⟨UInt64.ofNat word⟩)
  | other => (whole? reading).bind (other.ofInt?)
where
  /-- The whole number that a reading equals. -/
  whole? : Reading → Option Int
    | .finite negative significand exponent =>
      if significand % 2 ^ (-exponent).toNat = 0 then
        let size : Int := ↑(significand / 2 ^ (-exponent).toNat * 2 ^ exponent.toNat)
        some (if negative then -size else size)
      else none
    | .infinite _ | .undefined _ _ => none

end ElementType

/-- One element and its type. -/
structure Scalar where
  type : ElementType
  value : type.Carrier
deriving DecidableEq

namespace Scalar

instance : Inhabited Scalar := ⟨⟨.byte, 0⟩⟩

/-- The same value as a scalar of the target type, if that type holds it. -/
def convert? (scalar : Scalar) (target : ElementType) : Option Scalar :=
  if scalar.type = target then some scalar
  else do
    let reading ← scalar.type.reading? scalar.value
    let value ← target.ofReading? reading
    return ⟨target, value⟩

/-- The element itself, if the scalar is of the given type. -/
def as? (scalar : Scalar) (type : ElementType) : Option type.Carrier :=
  if same : scalar.type = type then some (same ▸ scalar.value) else none

/-- The element of the given type that equals the scalar. -/
def element? (scalar : Scalar) (type : ElementType) : Option type.Carrier :=
  (scalar.convert? type).bind (fun converted => converted.as? type)

/-- Whether two scalars are of one type and compare as equal. -/
def same (a b : Scalar) : Bool :=
  if types : b.type = a.type then a.type.same a.value (types ▸ b.value) else false

/-- The text of a scalar is that of its element. -/
def display (scalar : Scalar) : String := scalar.type.display scalar.value

/-- Converting to the scalar's own type changes nothing. -/
theorem convert?_self (scalar : Scalar) : scalar.convert? scalar.type = some scalar := by
  simp [convert?]

/-- A successful conversion has the type asked for. -/
theorem type_of_convert? {scalar result : Scalar} {target : ElementType}
    (converted : scalar.convert? target = some result) : result.type = target := by
  unfold convert? at converted
  split at converted
  · rename_i same
    exact Option.some.inj converted ▸ same
  · simp only [Option.pure_def, Option.bind_eq_bind, Option.bind_eq_some_iff,
      Option.some.injEq] at converted
    obtain ⟨_, _, _, _, rfl⟩ := converted
    rfl

end Scalar

end RegionGraph
