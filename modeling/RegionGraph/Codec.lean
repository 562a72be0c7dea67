import RegionGraph.Buffer
import RegionGraph.Params
import RegionGraph.Text.Utf8

/-!
# Binary codecs

A codec writes the values of a type as bytes and reads them back from the front
of a run of bytes, leaving the rest. Numbers are little-endian of fixed width,
lengths and counts take eight bytes and stand before what they count, and a
choice between several forms is a number of four bytes before the form. Codecs
of compound types are built from those of their parts, so what holds of the
parts and of each way to combine them holds of every stored record.
-/

namespace RegionGraph

/-- Why bytes could not be read. -/
inductive DecodeError where
  /-- The bytes end within a value of fixed width. -/
  | truncated
  /-- The bytes end within a text. -/
  | truncatedText
  | badBool (found : Nat)
  | badOption (found : Nat)
  | badVariant (found count : Nat)
  | badText (fault : Utf8.Fault)
deriving DecidableEq

/-- The text of a reading fault. -/
def DecodeError.message : DecodeError → String
  | truncated => "io error: unexpected end of file"
  | truncatedText => "io error: "
  | badBool found =>
    "invalid u8 while decoding bool, expected 0 or 1, found " ++ Nat.repr found
  | badOption found => "tag for enum is not valid, found " ++ Nat.repr found
  | badVariant found count =>
    "invalid value: integer `" ++ Nat.repr found ++ "`, expected variant index 0 <= i < "
      ++ Nat.repr count
  | badText fault => "string is not valid utf8: " ++ fault.message

/-- A reader takes a value from the front of the bytes and leaves the rest. -/
abbrev Reader (α : Type) := StateT (List UInt8) (Except DecodeError) α

/-- A way to write values as bytes and to read them back. -/
structure Codec (α : Type) where
  encode : α → List UInt8
  decode : Reader α

namespace Codec

variable {α β : Type}

/-- Read a value and ignore whatever follows it. -/
def decodeAll (codec : Codec α) (bytes : List UInt8) : Except DecodeError α :=
  (codec.decode bytes).map Prod.fst

/-- One byte. -/
def readByte : Reader UInt8
  | [] => .error .truncated
  | byte :: rest => .ok (byte, rest)

/-- The low bytes of a number, lowest first. -/
def littleEndian : Nat → Nat → List UInt8
  | 0, _ => []
  | width + 1, number => UInt8.ofNat number :: littleEndian width (number / 256)

/-- Read a number of a given width, lowest byte first. -/
def readLittleEndian : Nat → Reader Nat
  | 0 => pure 0
  | width + 1 => do
    let low ← readByte
    let high ← readLittleEndian width
    return low.toNat + 256 * high

/-- Read as many values as a count says. -/
def readMany (item : Reader α) : Nat → Reader (List α)
  | 0 => pure []
  | count + 1 => do
    let first ← item
    let rest ← readMany item count
    return first :: rest

/-- Take the given number of bytes for a text. -/
def readText (count : Nat) : Reader String := fun bytes =>
  if bytes.length < count then .error .truncatedText
  else
    match Utf8.decode (bytes.take count) with
    | .ok text => .ok (text, bytes.drop count)
    | .error fault => .error (.badText fault)

/-- The values of one type in the form of another. -/
def via (codec : Codec α) (pack : α → β) (unpack : β → α) : Codec β where
  encode value := codec.encode (unpack value)
  decode := do return pack (← codec.decode)

/-- Numbers of a width; what does not fit is cut off. -/
def number (width : Nat) : Codec Nat := ⟨littleEndian width, readLittleEndian width⟩

/-- Single bytes. -/
def uint8 : Codec UInt8 := (number 1).via UInt8.ofNat UInt8.toNat

/-- Words of two bytes. -/
def uint16 : Codec UInt16 := (number 2).via UInt16.ofNat UInt16.toNat

/-- Words of four bytes. -/
def uint32 : Codec UInt32 := (number 4).via UInt32.ofNat UInt32.toNat

/-- Words of eight bytes. -/
def uint64 : Codec UInt64 := (number 8).via UInt64.ofNat UInt64.toNat

/-- Signed words of two bytes. -/
def int16 : Codec Int16 := uint16.via UInt16.toInt16 Int16.toUInt16

/-- Signed words of four bytes. -/
def int32 : Codec Int32 := uint32.via UInt32.toInt32 Int32.toUInt32

/-- Signed words of eight bytes. -/
def int64 : Codec Int64 := uint64.via UInt64.toInt64 Int64.toUInt64

/-- A truth value is a byte zero or one. -/
def bool : Codec Bool where
  encode value := [if value then 1 else 0]
  decode := do
    let byte ← readByte
    if byte = 0 then return false
    else if byte = 1 then return true
    else throw (.badBool byte.toNat)

/-- A count takes eight bytes. -/
def count : Codec Nat := number 8

/-- A text is its length in bytes and its bytes. -/
def text : Codec String where
  encode value :=
    let bytes := Utf8.encode value
    count.encode bytes.length ++ bytes
  decode := do readText (← count.decode)

/-- One value after the other. -/
def pair (first : Codec α) (second : Codec β) : Codec (α × β) where
  encode value := first.encode value.1 ++ second.encode value.2
  decode := do
    let left ← first.decode
    let right ← second.decode
    return (left, right)

/-- A value and one whose type depends on it. -/
def dependent {family : α → Type} (first : Codec α) (second : (a : α) → Codec (family a)) :
    Codec ((a : α) × family a) where
  encode value := first.encode value.1 ++ (second value.1).encode value.2
  decode := do
    let left ← first.decode
    let right ← (second left).decode
    return ⟨left, right⟩

/-- A list is its length and its items. -/
def list (item : Codec α) : Codec (List α) where
  encode values := count.encode values.length ++ values.flatMap item.encode
  decode := do readMany item.decode (← count.decode)

/-- A value that may be missing is a byte zero, or a byte one and the value. -/
def option (item : Codec α) : Codec (Option α) where
  encode
    | none => [0]
    | some value => 1 :: item.encode value
  decode := do
    let byte ← readByte
    if byte = 0 then return none
    else if byte = 1 then return some (← item.decode)
    else throw (.badOption byte.toNat)

/-- A name map is the list of its bindings; reading takes them in any order, and
    of several for one name the last. -/
def nameMap (item : Codec α) : Codec (NameMap α) :=
  (list (pair text item)).via NameMap.ofList NameMap.entries

/-- The number of a form among a given number of forms. -/
def variant (forms : Nat) : Codec (Fin forms) where
  encode form := uint32.encode (UInt32.ofNat form.val)
  decode := do
    let found ← uint32.decode
    if known : found.toNat < forms then return ⟨found.toNat, known⟩
    else throw (.badVariant found.toNat forms)

/-! ### The types of the graph -/

/-- An element type is a choice among eleven forms. -/
def elementType : Codec ElementType where
  encode type := uint32.encode (UInt32.ofNat type.tag)
  decode := do
    let found ← uint32.decode
    match ElementType.ofTag? found.toNat with
    | some type => return type
    | none => throw (.badVariant found.toNat ElementType.all.length)

/-- Elements are written in the width of their type. -/
def element : (type : ElementType) → Codec type.Carrier
  | .byte => uint8
  | .int16 => int16
  | .uint16 => uint16
  | .int32 => int32
  | .uint32 => uint32
  | .int64 => int64
  | .uint64 => uint64
  | .real32 => uint32.via Real32.mk Real32.bits
  | .real64 => uint64.via Real64.mk Real64.bits
  | .bool => bool
  | .handle => uint64.via Handle.mk Handle.id

/-- A scalar is its type and its element. -/
def scalar : Codec Scalar :=
  (dependent elementType element).via (fun s => ⟨s.1, s.2⟩) (fun s => ⟨s.type, s.value⟩)

/-- A parameter value is a scalar, a text or a sequence. -/
def value : Codec Value where
  encode
    | .scalar s => (variant 3).encode 0 ++ scalar.encode s
    | .text content => (variant 3).encode 1 ++ text.encode content
    | .sequence items => (variant 3).encode 2 ++ (list scalar).encode items
  decode := do
    match ← (variant 3).decode with
    | 0 => return .scalar (← scalar.decode)
    | 1 => return .text (← text.decode)
    | 2 => return .sequence (← (list scalar).decode)

/-- A buffer is its type, its elements and whether it is allocated. -/
def buffer : Codec Buffer :=
  (pair (dependent elementType (fun type => list (element type))) bool).via
    (fun b => ⟨b.1.1, b.1.2, b.2⟩) (fun b => (⟨b.type, b.elements⟩, b.allocated))

/-- A reindexing rule is a run or a list of positions. -/
def reindex : Codec Reindex where
  encode
    | .range offset length => (variant 2).encode 0 ++ (pair uint64 uint64).encode (offset, length)
    | .indices positions => (variant 2).encode 1 ++ (list uint64).encode positions
  decode := do
    match ← (variant 2).decode with
    | 0 =>
      let (offset, length) ← (pair uint64 uint64).decode
      return .range offset length
    | 1 => return .indices (← (list uint64).decode)

end Codec

end RegionGraph
