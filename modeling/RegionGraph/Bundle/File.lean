import RegionGraph.Bundle.Layout

/-!
# Bundle files

A file is a header of 26 bytes and the stored data: five magic bytes, the format
version, a byte of flags, the size of the contents before compression, and a
checksum of the data as stored. Reading checks these in a fixed order, so that a
file that is no bundle at all is told from one that is damaged.

Files do not compress themselves: what packs the contents and unpacks them again is
a parameter of writing and of reading.
-/

namespace RegionGraph

/-- What packs bytes into a block and unpacks it again. Both may fail, for a reason
    in words. A block need not tell how many bytes it stands for: unpacking is told
    their number, which has at most 31 bits. -/
structure Compressor where
  compress : List UInt8 → Except String (List UInt8)
  decompress : Nat → List UInt8 → Except String (List UInt8)

namespace Bundle

/-- The first bytes of every file. -/
def magic : List UInt8 := [0x4E, 0x47, 0x52, 0x50, 0x48]

/-- The length of the header. -/
def headerLength : Nat := 26

/-- A hash of the stored data, which any change of one byte changes: every step is
    a bijection of the hash for a fixed byte, and of the byte for a fixed hash. -/
def checksum (data : List UInt8) : UInt64 :=
  data.foldl (fun hash byte => (hash ^^^ byte.toUInt64) * 1099511628211) 14695981039346656037

/-- A file with the given flags, recorded size and stored data. -/
def file (flags : UInt8) (size : Nat) (data : List UInt8) : List UInt8 :=
  magic ++ Codec.littleEndian 4 formatVersion.toNat ++ [flags] ++ Codec.littleEndian 8 size
    ++ Codec.littleEndian 8 (checksum data).toNat ++ data

/-- Contents with the header in front, compressed on request. -/
def frame (compressor : Compressor) (payload : List UInt8) (compress : Bool) :
    Except BundleError (List UInt8) := do
  if compress then
    let block ← (compressor.compress payload).mapError .compression
    return file 1 payload.length block
  else
    return file 0 payload.length payload

/-- The number that bytes stand for, the first being the lowest. -/
def littleEndianValue (bytes : List UInt8) : Nat :=
  bytes.foldr (fun byte high => byte.toNat + 256 * high) 0

/-- The contents of a file. Bits of the flags other than the lowest mean nothing. The
    size is only looked at when there is something to unpack. -/
def unframe (compressor : Compressor) (bytes : List UInt8) : Except BundleError (List UInt8) :=
  let field (offset count : Nat) : Nat := littleEndianValue ((bytes.drop offset).take count)
  let data := bytes.drop headerLength
  if bytes.length < magic.length then .error .truncatedHeader
  else if bytes.take magic.length ≠ magic then .error (.invalidMagic (bytes.take magic.length))
  else if bytes.length < headerLength then .error .truncatedHeader
  else if field 5 4 ≠ formatVersion.toNat then
    .error (.versionMismatch (UInt32.ofNat (field 5 4)) formatVersion)
  else if (checksum data).toNat ≠ field 18 8 then .error .checksumMismatch
  else if field 9 1 % 2 = 0 then .ok data
  else
    let size := field 10 8
    if 2 ^ 31 ≤ size then .error (.compression "payload too large")
    else
      (compressor.decompress size data).mapError fun cause =>
        .compression ("Decompression failed: " ++ cause)

/-- The bytes of a bundle file. -/
def toBytes (compressor : Compressor) (bundle : Bundle) (compress : Bool) :
    Except BundleError (List UInt8) :=
  frame compressor (codec.encode bundle) compress

/-- The bundle in the bytes of a file. -/
def ofBytes (compressor : Compressor) (bytes : List UInt8) : Except BundleError Bundle := do
  let payload ← unframe compressor bytes
  match codec.decodeAll payload with
  | .ok bundle => .ok bundle
  | .error cause => .error (.unreadable cause)

end Bundle

end RegionGraph
