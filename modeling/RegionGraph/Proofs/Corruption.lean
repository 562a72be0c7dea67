import RegionGraph.Proofs.Files

/-!
# Damaged bundle files are refused

One step of the checksum is invertible in the hash, since a product with an odd number is,
and different bytes give different hashes. So a change of one byte reaches the end of the
data: whatever follows it, the checksums differ. A file records its magic bytes, its version
and its checksum at fixed places, and readers compare each with what it has to be. Hence no
file with one of these bytes or one byte of the data changed is read, and the first field
that is wrong names the fault.

The flags and the recorded size are not guarded.
-/

namespace RegionGraph.Bundle

/-! ### Changed bytes -/

/-- Bytes that differ from others at one position only. -/
def Changes (bytes : List UInt8) (position : Nat) (changed : List UInt8) : Prop :=
  ∃ former byte, bytes[position]? = some former ∧ byte ≠ former ∧ changed = bytes.set position byte

/-- A change is within the bytes. -/
theorem Changes.inside {bytes changed : List UInt8} {position : Nat}
    (changes : Changes bytes position changed) : position < bytes.length := by
  obtain ⟨former, byte, found, _, _⟩ := changes
  exact (List.getElem?_eq_some_iff.mp found).1

/-- A change keeps the number of bytes. -/
theorem Changes.length {bytes changed : List UInt8} {position : Nat}
    (changes : Changes bytes position changed) : changed.length = bytes.length := by
  obtain ⟨former, byte, _, _, rfl⟩ := changes
  exact List.length_set

/-- A change makes other bytes. -/
theorem Changes.ne {bytes changed : List UInt8} {position : Nat}
    (changes : Changes bytes position changed) : changed ≠ bytes := by
  have inside := changes.inside
  obtain ⟨former, byte, found, different, rfl⟩ := changes
  intro same
  have here := List.getElem?_set_self (a := byte) inside
  rw [same, found] at here
  exact different (Option.some.inj here).symm

section Runs

variable {front back changed : List UInt8} {position : Nat}
  (changes : Changes (front ++ back) position changed)

include changes

/-- A change of the first of two runs of bytes. -/
theorem Changes.inFront (before : position < front.length) :
    ∃ other, Changes front position other ∧ changed = other ++ back := by
  obtain ⟨former, byte, found, different, rfl⟩ := changes
  rw [List.getElem?_append_left before] at found
  exact ⟨_, ⟨former, byte, found, different, rfl⟩, List.set_append_left _ _ before⟩

/-- A change of the second of two runs of bytes. -/
theorem Changes.inBack (behind : front.length ≤ position) :
    ∃ other, Changes back (position - front.length) other ∧ changed = front ++ other := by
  obtain ⟨former, byte, found, different, rfl⟩ := changes
  rw [List.getElem?_append_right behind] at found
  exact ⟨_, ⟨former, byte, found, different, rfl⟩, List.set_append_right _ _ behind⟩

end Runs

/-! ### The checksum -/

/-- The hash after one more byte. -/
def mix (hash : UInt64) (byte : UInt8) : UInt64 := (hash ^^^ byte.toUInt64) * 1099511628211

/-- The factor is odd, so a product with it can be undone. -/
theorem product_injective (left right : UInt64)
    (same : left * 1099511628211 = right * 1099511628211) : left = right := by
  have undone (hash : UInt64) : hash * 1099511628211 * 14886173955864302971 = hash := by
    have inverse : (1099511628211 * 14886173955864302971 : UInt64) = 1 := by decide
    rw [UInt64.mul_assoc, inverse, UInt64.mul_one]
  rw [← undone left, ← undone right, same]

/-- A byte keeps different hashes apart. -/
theorem mix_hash_injective (left right : UInt64) (byte : UInt8)
    (same : mix left byte = mix right byte) : left = right :=
  (UInt64.xor_left_inj byte.toUInt64).mp (product_injective _ _ same)

/-- Different bytes lead a hash to different hashes. -/
theorem mix_byte_injective (hash : UInt64) (left right : UInt8)
    (same : mix hash left = mix hash right) : left = right :=
  UInt8.toUInt64_inj.mp ((UInt64.xor_right_inj hash).mp (product_injective _ _ same))

/-- The same bytes keep different hashes apart, however many they are. -/
theorem foldl_mix_injective (data : List UInt8) (left right : UInt64)
    (same : data.foldl mix left = data.foldl mix right) : left = right := by
  induction data generalizing left right with
  | nil => exact same
  | cons byte rest inductionHypothesis =>
    exact mix_hash_injective left right byte (inductionHypothesis _ _ same)

/-- A changed byte changes the hash, whatever comes before and after it. -/
theorem foldl_mix_ne (data changed : List UInt8) (position : Nat)
    (changes : Changes data position changed) (hash : UInt64) :
    changed.foldl mix hash ≠ data.foldl mix hash := by
  obtain ⟨former, byte, found, different, rfl⟩ := changes
  induction data generalizing position hash with
  | nil => cases found
  | cons first rest inductionHypothesis =>
    cases position with
    | zero =>
      -- From here on the hashes differ, and the bytes are the same.
      intro same
      have bytes : byte = first :=
        mix_byte_injective hash byte first (foldl_mix_injective rest _ _ same)
      exact different (bytes.trans (Option.some.inj found))
    | succ earlier => exact inductionHypothesis earlier (mix hash first) found

/-- A changed byte changes the checksum. -/
theorem checksum_ne (data changed : List UInt8) (position : Nat)
    (changes : Changes data position changed) : checksum changed ≠ checksum data :=
  foldl_mix_ne data changed position changes 14695981039346656037

/-! ### Numbers in the header -/

/-- As many bytes that stand for one number are the same bytes. -/
theorem littleEndianValue_injective (left right : List UInt8) (length : left.length = right.length)
    (same : littleEndianValue left = littleEndianValue right) : left = right := by
  induction left generalizing right with
  | nil => exact (List.eq_nil_of_length_eq_zero length.symm).symm
  | cons low high inductionHypothesis =>
    cases right with
    | nil => cases length
    | cons otherLow otherHigh =>
      have small := low.toNat_lt
      have otherSmall := otherLow.toNat_lt
      change low.toNat + 256 * littleEndianValue high =
        otherLow.toNat + 256 * littleEndianValue otherHigh at same
      have lows : low = otherLow := UInt8.toNat_inj.mp (by omega)
      have highs := inductionHypothesis otherHigh (Nat.succ.inj length) (by omega)
      rw [lows, highs]

/-- The number that bytes stand for is less than one with a further byte. -/
theorem littleEndianValue_lt (bytes : List UInt8) :
    littleEndianValue bytes < 256 ^ bytes.length := by
  induction bytes with
  | nil => exact Nat.one_pos
  | cons low high inductionHypothesis =>
    have small := low.toNat_lt
    rw [List.length_cons, Nat.pow_succ']
    change low.toNat + 256 * littleEndianValue high < _
    omega

/-- A changed byte changes the number that bytes stand for. -/
theorem littleEndianValue_ne (bytes changed : List UInt8) (position : Nat)
    (changes : Changes bytes position changed) :
    littleEndianValue changed ≠ littleEndianValue bytes := fun same =>
  changes.ne (littleEndianValue_injective changed bytes changes.length same)

/-! ### What readers refuse -/

/-- Neither contents nor a bundle are read from the bytes, for a given reason, whatever
unpacks the data. -/
structure Refused (bytes : List UInt8) (fault : BundleError) : Prop where
  contents : ∀ compressor, unframe compressor bytes = .error fault
  bundle : ∀ compressor, ofBytes compressor bytes = .error fault

/-- Without contents there is no bundle. -/
theorem refused_of_unframe (bytes : List UInt8) (fault : BundleError)
    (contents : ∀ compressor, unframe compressor bytes = .error fault) : Refused bytes fault :=
  ⟨contents, fun compressor => by rw [ofBytes, contents compressor]; rfl⟩

/-- The magic bytes are five. -/
theorem length_magic : magic.length = 5 := rfl

/-- A file has to begin with the magic bytes. -/
theorem refused_of_start (start rest : List UInt8) (length : start.length = 5)
    (wrong : start ≠ magic) : Refused (start ++ rest) (.invalidMagic start) := by
  have begins : (start ++ rest).take magic.length = start := List.take_left' length
  have long : ¬(start ++ rest).length < magic.length := by
    rw [List.length_append, length, length_magic]
    exact Nat.not_lt.mpr (Nat.le_add_right 5 rest.length)
  refine refused_of_unframe _ _ fun compressor => ?_
  rw [unframe, if_neg long, begins, if_pos wrong]

/-- The version that is told is not that of the format. -/
theorem version_ne (version : List UInt8) (versioned : version.length = 4)
    (wrong : littleEndianValue version ≠ formatVersion.toNat) :
    UInt32.ofNat (littleEndianValue version) ≠ formatVersion := by
  intro same
  have small := versioned ▸ littleEndianValue_lt version
  have told := congrArg UInt32.toNat same
  rw [UInt32.toNat_ofNat', Nat.mod_eq_of_lt small] at told
  exact wrong told

section Versioned

variable (version rest : List UInt8) (versioned : version.length = 4) (long : 17 ≤ rest.length)

include versioned long

/-- What reading finds in a file that begins as it should and has a whole header. -/
theorem fields_versioned :
    ¬(magic ++ (version ++ rest)).length < magic.length ∧
    (magic ++ (version ++ rest)).take magic.length = magic ∧
    ¬(magic ++ (version ++ rest)).length < headerLength ∧
    ((magic ++ (version ++ rest)).drop 5).take 4 = version ∧
    ∀ count, (magic ++ (version ++ rest)).drop (9 + count) = rest.drop count := by
  have total : (magic ++ (version ++ rest)).length = 9 + rest.length := by
    rw [List.length_append, List.length_append, versioned, length_magic, ← Nat.add_assoc]
  refine ⟨?_, List.take_left, ?_, ?_, fun count => ?_⟩
  · rw [total, length_magic]
    omega
  · rw [total, headerLength]
    omega
  · rw [List.drop_left' length_magic, List.take_left' versioned]
  · rw [← List.append_assoc, ← List.drop_drop, List.drop_left']
    rw [List.length_append, length_magic, versioned]

/-- The magic bytes have to be followed by the version of the format. -/
theorem refused_of_version (wrong : littleEndianValue version ≠ formatVersion.toNat) :
    Refused (magic ++ (version ++ rest))
      (.versionMismatch (UInt32.ofNat (littleEndianValue version)) formatVersion) := by
  obtain ⟨named, begins, whole, recorded, _⟩ := fields_versioned version rest versioned long
  refine refused_of_unframe _ _ fun compressor => ?_
  simp only [unframe, if_neg named, begins, ne_eq, not_true_eq_false, if_false, if_neg whole,
    recorded, if_pos wrong]

/-- A file of the right version has to record the checksum of its data. -/
theorem refused_of_checksum (right : littleEndianValue version = formatVersion.toNat)
    (marks sum data : List UInt8) (marked : marks.length = 9) (summed : sum.length = 8)
    (parts : rest = marks ++ (sum ++ data))
    (wrong : (checksum data).toNat ≠ littleEndianValue sum) :
    Refused (magic ++ (version ++ rest)) .checksumMismatch := by
  obtain ⟨named, begins, whole, recorded, behind⟩ := fields_versioned version rest versioned long
  have tail : (magic ++ (version ++ rest)).drop 18 = sum ++ data := by
    rw [behind 9, parts, List.drop_left' marked]
  have stored : (magic ++ (version ++ rest)).drop headerLength = data := by
    rw [headerLength, show 26 = 18 + 8 from rfl, ← List.drop_drop, tail, List.drop_left' summed]
  refine refused_of_unframe _ _ fun compressor => ?_
  simp only [unframe, if_neg named, begins, ne_eq, not_true_eq_false, if_false, if_neg whole,
    recorded, right, stored, tail, List.take_left' summed]
  exact if_pos wrong

end Versioned

/-! ### Changed files -/

/-- A file is refused if any guarded byte of it is changed: one of the magic bytes, of the
version, of the checksum, or of the data. -/
structure Guarded (out : List UInt8) : Prop where
  start : ∀ position changed, Changes out position changed → position < 5 →
    Refused changed (.invalidMagic (changed.take 5))
  version : ∀ position changed, Changes out position changed → 5 ≤ position → position < 9 →
    ∃ found, found ≠ formatVersion ∧ Refused changed (.versionMismatch found formatVersion)
  sum : ∀ position changed, Changes out position changed → 18 ≤ position →
    position < headerLength → Refused changed .checksumMismatch
  data : ∀ position changed, Changes out position changed → headerLength ≤ position →
    Refused changed .checksumMismatch

/-- The fields of a file and its data are guarded. -/
theorem guarded_file (flags : UInt8) (size : Nat) (data : List UInt8) :
    Guarded (file flags size data) := by
  let version := Codec.littleEndian 4 formatVersion.toNat
  let marks := flags :: Codec.littleEndian 8 size
  let sum := Codec.littleEndian 8 (checksum data).toNat
  have marked : marks.length = 9 := rfl
  have parts : file flags size data = magic ++ (version ++ (marks ++ (sum ++ data))) := rfl
  have right : littleEndianValue version = formatVersion.toNat :=
    littleEndianValue_littleEndian 4 formatVersion.toNat
  have counted : littleEndianValue sum = (checksum data).toNat :=
    (littleEndianValue_littleEndian 8 _).trans (Nat.mod_eq_of_lt (checksum data).toNat_lt)
  have long (otherSum otherData : List UInt8) (length : otherSum.length = 8) :
      17 ≤ (marks ++ (otherSum ++ otherData)).length := by
    rw [List.length_append, List.length_append, marked, length]
    omega
  -- What stands behind the flags and the size, which nothing guards.
  have later (position : Nat) (changed : List UInt8)
      (changes : Changes (file flags size data) position changed) (behind : 18 ≤ position) :
      ∃ tail, Changes (sum ++ data) (position - 5 - 4 - 9) tail ∧
        changed = magic ++ (version ++ (marks ++ tail)) := by
    obtain ⟨_, inner, rfl⟩ := (parts ▸ changes).inBack (by rw [length_magic]; omega)
    obtain ⟨_, last, rfl⟩ := inner.inBack (show 4 ≤ position - 5 by omega)
    obtain ⟨tail, here, rfl⟩ := last.inBack (show 9 ≤ position - 5 - 4 by omega)
    exact ⟨tail, here, rfl⟩
  constructor
  case start =>
    intro position changed changes early
    obtain ⟨start, here, rfl⟩ := (parts ▸ changes).inFront (length_magic ▸ early)
    have length : start.length = 5 := here.length
    rw [List.take_left' length]
    exact refused_of_start start _ length here.ne
  case version =>
    intro position changed changes behind early
    obtain ⟨_, inner, rfl⟩ := (parts ▸ changes).inBack (length_magic ▸ behind)
    obtain ⟨other, here, rfl⟩ := inner.inFront (show position - 5 < 4 by omega)
    have length : other.length = 4 := here.length
    have wrong : littleEndianValue other ≠ formatVersion.toNat :=
      right ▸ littleEndianValue_ne version other _ here
    exact ⟨UInt32.ofNat (littleEndianValue other), version_ne other length wrong,
      refused_of_version other _ length (long sum data rfl) wrong⟩
  case sum =>
    intro position changed changes behind early
    obtain ⟨_, inner, rfl⟩ := later position changed changes behind
    rw [headerLength] at early
    obtain ⟨other, here, rfl⟩ := inner.inFront (show position - 5 - 4 - 9 < 8 by omega)
    have length : other.length = 8 := here.length
    refine refused_of_checksum version _ rfl (long other data length) right marks other data marked
      length rfl ?_
    exact Ne.symm (counted ▸ littleEndianValue_ne sum other _ here)
  case data =>
    intro position changed changes behind
    rw [headerLength] at behind
    obtain ⟨_, inner, rfl⟩ := later position changed changes (by omega)
    obtain ⟨other, here, rfl⟩ := inner.inBack (show 8 ≤ position - 5 - 4 - 9 by omega)
    refine refused_of_checksum version _ rfl (long sum other rfl) right marks sum other marked rfl
      rfl ?_
    rw [counted]
    exact fun same => checksum_ne data other _ here (UInt64.toNat_inj.mp same)

/-- Files are guarded, whichever way they are written, whatever compressor packs their data
and whichever would unpack them: a change of one byte of the magic bytes, the version, the
checksum or the data, wherever and whatever it is, is noticed, and told for what it is. So no
bundle is ever read from such a file.

That the data are guarded is an induction over what follows the changed byte: at it the hashes
part, and no later byte lets them meet again. The other fields have fixed places and one right
value each, looked at in the order in which the faults are told. -/
theorem guarded_of_frame (payload : List UInt8) (compress : Bool) (compressor : Compressor)
    (out : List UInt8) (framed : frame compressor payload compress = .ok out) : Guarded out := by
  cases compress with
  | false =>
    cases framed
    exact guarded_file _ _ _
  | true =>
    obtain ⟨block, _, rfl⟩ := block_of_frame compressor payload out framed
    exact guarded_file _ _ _

/-- A plain text. -/
def greeting : List UInt8 := Codec.text.encode "hello world"

/-- Of a plain file and of a compressed one, a byte amid the data may not change, nor one of
the checksum, of the version or of the magic bytes. -/
theorem guarded_sampleFiles :
    let plain := file 0 greeting.length greeting
    let compressed := file 1 sampleContents.length sampleBlock
    (frame Block.compressor greeting false = .ok plain ∧
      Refused (plain.set 40 0) .checksumMismatch ∧
      Refused (plain.set 18 0) .checksumMismatch ∧
      (∃ found, Refused (plain.set 5 2) (.versionMismatch found formatVersion)) ∧
      Refused (plain.set 0 0) (.invalidMagic [0, 0x47, 0x52, 0x50, 0x48])) ∧
    frame ⟨packSample, Block.unpack⟩ sampleContents true = .ok compressed ∧
      Refused (compressed.set 100 9) .checksumMismatch ∧
      Refused (compressed.set 25 0) .checksumMismatch ∧
      (∃ found, Refused (compressed.set 8 1) (.versionMismatch found formatVersion)) ∧
      Refused (compressed.set 4 0) (.invalidMagic [0x4E, 0x47, 0x52, 0x50, 0]) := by
  intro plain compressed
  have written : frame Block.compressor greeting false = .ok plain := rfl
  have packed : frame ⟨packSample, Block.unpack⟩ sampleContents true = .ok compressed :=
    frame_sampleContents
  have short : Guarded plain := guarded_of_frame greeting false Block.compressor plain written
  have long : Guarded compressed := guarded_of_frame sampleContents true _ compressed packed
  refine ⟨⟨written, ?_, ?_, ?_, ?_⟩, packed, ?_, ?_, ?_, ?_⟩
  · exact short.data 40 _ ⟨_, 0, rfl, by decide, rfl⟩ (by decide)
  · exact short.sum 18 _ ⟨_, 0, rfl, by decide, rfl⟩ (by decide) (by decide)
  · obtain ⟨found, _, refused⟩ := short.version 5 _ ⟨1, 2, rfl, by decide, rfl⟩ (by decide)
      (by decide)
    exact ⟨found, refused⟩
  · exact short.start 0 _ ⟨_, 0, rfl, by decide, rfl⟩ (by decide)
  · exact long.data 100 _ ⟨7, 9, by decide +kernel, by decide, rfl⟩ (by decide)
  · exact long.sum 25 _ ⟨172, 0, by decide +kernel, by decide, rfl⟩ (by decide) (by decide)
  · obtain ⟨found, _, refused⟩ := long.version 8 _ ⟨0, 1, rfl, by decide, rfl⟩ (by decide)
      (by decide)
    exact ⟨found, refused⟩
  · exact long.start 4 _ ⟨_, 0, rfl, by decide, rfl⟩ (by decide)

end RegionGraph.Bundle
