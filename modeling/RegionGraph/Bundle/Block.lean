import RegionGraph.Bundle.File

/-!
# Compressed blocks

A compressor to run with. Nothing that is shown of files rests on it: they are written
and read with any other that unpacks what it packed.

A block is a run of sequences. Each has a token, literal bytes, and a reference
to bytes already written; the last has literals only. The reader is told an
upper bound on the size of the contents and refuses any block that would exceed
it, refers before the start, or keeps no distance from the ends: away from them
literals leave room for a further sequence and references stop five bytes short
of the bound. The writer stores everything as literals of one sequence, which
every reader of the format accepts.
-/

namespace RegionGraph.Block

/-- Bytes that extend a length: each adds its value, and the first below 255 is
    the last. -/
def lengthTail : List UInt8 → Option (Nat × List UInt8)
  | [] => none
  | byte :: rest =>
    if byte = 255 then (lengthTail rest).map (fun (length, after) => (255 + length, after))
    else some (byte.toNat, rest)

/-- A length of four bits, extended when all are set. -/
def length (nibble : Nat) (bytes : List UInt8) : Option (Nat × List UInt8) :=
  if nibble = 15 then (lengthTail bytes).map (fun (more, after) => (15 + more, after))
  else some (nibble, bytes)

/-- Repeat bytes from a distance back, one at a time, so that a reference may
    reach into what it writes. The last byte written comes first. At distance zero there
    is nothing to repeat, and the bytes are zeros. -/
def repeatBack (offset : Nat) : Nat → List UInt8 → List UInt8
  | 0, written => written
  | count + 1, written =>
    let byte := if offset = 0 then 0 else written.getD (offset - 1) 0
    repeatBack offset count (byte :: written)

/-- The shortest reference. -/
def leastMatch : Nat := 4

/-- Read the sequence of a token. Gives the bytes written so far, the last one first,
    and, unless the sequence is the last, what follows it.

    Far from both ends the distance rules are not looked at: a sequence of few
    literals and a short reference fits in any case. -/
def sequence (size : Nat) (token : Nat) (bytes written : List UInt8) :
    Option (List UInt8 × Option (List UInt8)) := do
  let (literals, bytes) ← length (token / 16) bytes
  let roomy := literals < 15 ∧ 17 ≤ bytes.length ∧ written.length + 32 ≤ size
  let close := size < written.length + literals + 12 ∨ bytes.length < literals + 8
  if ¬roomy ∧ close then
    if bytes.length = literals ∧ written.length + literals ≤ size then
      return (bytes.reverse ++ written, none)
    else none
  else
    let written := (bytes.take literals).reverse ++ written
    match bytes.drop literals with
    | low :: high :: bytes =>
      let offset := low.toNat + 256 * high.toNat
      let nibble := token % 16
      let (more, bytes) ← length nibble bytes
      let count := more + leastMatch
      if written.length < offset then none
      else if nibble = 15 ∧ bytes.length < 4 then none
      else if ¬(roomy ∧ nibble < 15 ∧ 8 ≤ offset) ∧ size < written.length + count + 5 then none
      else return (repeatBack offset count written, some bytes)
    | _ => none

/-- Read sequences up to the last. Every one takes at least its token, so the
    number of bytes bounds their number. -/
def sequences (size : Nat) : Nat → List UInt8 → List UInt8 → Option (List UInt8)
  | more + 1, token :: bytes, written => do
    match ← sequence size token.toNat bytes written with
    | (written, none) => return written
    | (written, some bytes) => sequences size more bytes written
  | _, _, _ => none

/-- The contents of a block of at most the given size. Contents of size zero have
    one block only, the single byte zero. -/
def decode (size : Nat) (block : List UInt8) : Option (List UInt8) :=
  if size = 0 then if block = [0] then some [] else none
  else (sequences size block.length block []).map List.reverse

/-- The bytes that write the part of a length above fifteen. -/
def encodeTail (length : Nat) : List UInt8 :=
  List.replicate (length / 255) 255 ++ [UInt8.ofNat (length % 255)]

/-- A block that stores its contents as literals. -/
def encode (contents : List UInt8) : List UInt8 :=
  if contents.length < 15 then UInt8.ofNat (contents.length * 16) :: contents
  else 0xF0 :: encodeTail (contents.length - 15) ++ contents

/-- The largest size of contents that a block is made of. -/
def largest : Nat := 0x7E000000

/-- Contents are packed as literals, unless they are too large for a block. -/
def pack (contents : List UInt8) : Except String (List UInt8) :=
  if largest < contents.length then .error "Compression input too long."
  else .ok (encode contents)

/-- The contents of a block, whose size is told and has to be one that a block may have. -/
def unpack (size : Nat) (block : List UInt8) : Except String (List UInt8) :=
  if largest < size then .error "Given size parameter is too big"
  else
    match decode size block with
    | some contents => .ok contents
    | none => .error "Decompression failed. Input invalid or too long?"

/-- Blocks of literals are written, and all blocks are read. -/
def compressor : Compressor := ⟨pack, unpack⟩

end RegionGraph.Block
