import RegionGraph.Binary.Decimal

/-!
# Element types

Buffers and parameters hold elements of eleven closed kinds. Each kind has a
carrier, the Lean type of its elements, so that a buffer of one kind cannot hold
an element of another. Floating-point elements are the bits of their word: two
of them are the same element when the bits agree, which is finer than comparing
as numbers, and both notions are given.
-/

namespace RegionGraph

/-- The kinds of element, in the order of their tags. -/
inductive ElementType where
  | byte | int16 | uint16 | int32 | uint32 | int64 | uint64
  | real32 | real64 | bool | handle
deriving DecidableEq, Inhabited

/-- A floating-point element of 32 bits. -/
structure Real32 where
  bits : UInt32
deriving DecidableEq, Inhabited

/-- A floating-point element of 64 bits. -/
structure Real64 where
  bits : UInt64
deriving DecidableEq, Inhabited

/-- A reference that the graph passes on but never looks into. -/
structure Handle where
  id : UInt64
deriving DecidableEq, Inhabited

namespace ElementType

/-- The elements of a type. -/
abbrev Carrier : ElementType → Type
  | byte => UInt8
  | int16 => Int16
  | uint16 => UInt16
  | int32 => Int32
  | uint32 => UInt32
  | int64 => Int64
  | uint64 => UInt64
  | real32 => Real32
  | real64 => Real64
  | bool => Bool
  | handle => Handle

instance (type : ElementType) : DecidableEq type.Carrier := by
  cases type <;> exact inferInstance

/-- The element of fresh storage. -/
def zero : (type : ElementType) → type.Carrier
  | byte => 0
  | int16 => 0
  | uint16 => 0
  | int32 => 0
  | uint32 => 0
  | int64 => 0
  | uint64 => 0
  | real32 => ⟨0⟩
  | real64 => ⟨0⟩
  | bool => false
  | handle => ⟨0⟩

/-- Every element type, in tag order. -/
def all : List ElementType :=
  [byte, int16, uint16, int32, uint32, int64, uint64, real32, real64, bool, handle]

/-- The position of a type in the order of tags. -/
def tag : ElementType → Nat
  | byte => 0
  | int16 => 1
  | uint16 => 2
  | int32 => 3
  | uint32 => 4
  | int64 => 5
  | uint64 => 6
  | real32 => 7
  | real64 => 8
  | bool => 9
  | handle => 10

/-- The type with a given tag. -/
def ofTag? (tag : Nat) : Option ElementType := all[tag]?

/-- Tags are positions in the list of all types. -/
theorem ofTag?_tag (type : ElementType) : ofTag? type.tag = some type := by
  cases type <;> rfl

/-- The written name of a type. -/
def name : ElementType → String
  | byte => "Byte"
  | int16 => "Int16"
  | uint16 => "UInt16"
  | int32 => "Int32"
  | uint32 => "UInt32"
  | int64 => "Int64"
  | uint64 => "UInt64"
  | real32 => "Real32"
  | real64 => "Real64"
  | bool => "Bool"
  | handle => "Handle"

/-- The type of a name. ASCII letters may be in either case. -/
def ofName? (text : String) : Option ElementType :=
  all.find? (fun type => type.name.toList.map Char.toLower = text.toList.map Char.toLower)

/-- Bytes that one element takes. -/
def width : ElementType → Nat
  | byte | bool => 1
  | int16 | uint16 => 2
  | int32 | uint32 | real32 => 4
  | int64 | uint64 | real64 | handle => 8

/-- The types whose elements are whole numbers. -/
def isInteger : ElementType → Bool
  | byte | int16 | uint16 | int32 | uint32 | int64 | uint64 => true
  | real32 | real64 | bool | handle => false

/-- The types whose elements are floating-point numbers. -/
def isReal : ElementType → Bool
  | real32 | real64 => true
  | _ => false

/-- The types whose elements are numbers. -/
def isNumeric (type : ElementType) : Bool := type.isInteger || type.isReal

/-- Whether two elements compare as equal: as numbers for floating point, where
    an undefined result differs from itself, and as elements elsewhere. -/
def same : (type : ElementType) → type.Carrier → type.Carrier → Bool
  | real32, a, b => Binary.single.same a.bits.toNat b.bits.toNat
  | real64, a, b => Binary.double.same a.bits.toNat b.bits.toNat
  | byte, a, b => a == b
  | int16, a, b => a == b
  | uint16, a, b => a == b
  | int32, a, b => a == b
  | uint32, a, b => a == b
  | int64, a, b => a == b
  | uint64, a, b => a == b
  | bool, a, b => a == b
  | handle, a, b => a == b

/-- The text of an element. -/
def display : (type : ElementType) → type.Carrier → String
  | byte, value => Nat.repr value.toNat
  | int16, value => toString value.toInt
  | uint16, value => Nat.repr value.toNat
  | int32, value => toString value.toInt
  | uint32, value => Nat.repr value.toNat
  | int64, value => toString value.toInt
  | uint64, value => Nat.repr value.toNat
  | real32, value => Binary.single.display value.bits.toNat
  | real64, value => Binary.double.display value.bits.toNat
  | bool, value => if value then "true" else "false"
  | handle, value => "handle:" ++ Nat.repr value.id.toNat

end ElementType

end RegionGraph
