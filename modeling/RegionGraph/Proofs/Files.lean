import RegionGraph.Bundle.Block
import RegionGraph.Proofs.RoundTrips

/-!
# Bundle files are read back

A file is the header and the stored data, and reading finds in it what was written: the
header has fixed places for its fields, and the recorded checksum is that of the data
behind it. Stored data are the contents themselves or a block of them. Of the compressor
nothing is used but that it unpacks its own blocks when told the recorded size, and the
one that stores literals is such a compressor. With the codec of bundles this shows that
a file gives back its bundle, in whatever order the tags were written.
-/

namespace RegionGraph

/-- A compressor unpacks its own blocks: told how many bytes it packed, it gives these bytes
    back. It can be told, so it packs no more bytes than a number of 31 bits counts. -/
def Compressor.Restores (compressor : Compressor) : Prop :=
  ∀ contents block, compressor.compress contents = .ok block →
    contents.length < 2 ^ 31 ∧ compressor.decompress contents.length block = .ok contents

/-! ### Blocks of literals -/

namespace Block

/-- The bytes of a long length are read back. -/
theorem lengthTail_encodeTail (length : Nat) (rest : List UInt8) :
    lengthTail (encodeTail length ++ rest) = some (length, rest) := by
  have bytes (full : Nat) : lengthTail (List.replicate full 255 ++
      UInt8.ofNat (length % 255) :: rest) = some (255 * full + length % 255, rest) := by
    induction full with
    | zero =>
      have low : (UInt8.ofNat (length % 255)).toNat = length % 255 :=
        Utf8.toNat_byte _ (Nat.lt_trans (Nat.mod_lt _ (by decide)) (by decide))
      have last : UInt8.ofNat (length % 255) ≠ 255 := by
        intro same
        have full : length % 255 = 255 := low.symm.trans (congrArg UInt8.toNat same)
        omega
      rw [List.replicate_zero, List.nil_append, lengthTail, if_neg last, low, Nat.mul_zero,
        Nat.zero_add]
    | succ more inductionHypothesis =>
      rw [List.replicate_succ, List.cons_append, lengthTail, if_pos rfl, inductionHypothesis,
        Option.map_some]
      dsimp only
      rw [← Nat.add_assoc, Nat.add_comm 255, ← Nat.mul_succ]
  rw [encodeTail, List.append_assoc, List.singleton_append, bytes, Nat.div_add_mod]

/-- A sequence that has only literals left, as many as there is room for, is the last. -/
theorem sequence_literals (contents bytes : List UInt8) (token : Nat)
    (counted : length (token / 16) bytes = some (contents.length, contents)) :
    sequence contents.length token bytes [] = some (contents.reverse, none) := by
  have notRoomy : ¬(contents.length < 15 ∧ 17 ≤ contents.length ∧
      ([] : List UInt8).length + 32 ≤ contents.length) := by omega
  have close : contents.length < ([] : List UInt8).length + contents.length + 12 ∨
      contents.length < contents.length + 8 := by omega
  have fits : contents.length = contents.length ∧
      ([] : List UInt8).length + contents.length ≤ contents.length :=
    ⟨rfl, Nat.le_of_eq (Nat.zero_add _)⟩
  rw [sequence, counted]
  change ite _ (ite _ _ _) _ = _
  rw [if_pos ⟨notRoomy, close⟩, if_pos fits, List.append_nil]
  rfl

/-- A block of literals unpacks to its contents. -/
theorem decode_encode (contents : List UInt8) :
    decode contents.length (encode contents) = some contents := by
  by_cases empty : contents = []
  · rw [empty]
    rfl
  · have some : contents.length ≠ 0 := fun none => empty (List.eq_nil_of_length_eq_zero none)
    rw [decode, if_neg some, encode]
    split
    case isTrue short =>
      have token : (UInt8.ofNat (contents.length * 16)).toNat / 16 = contents.length := by
        rw [Utf8.toNat_byte _ (by omega), Nat.mul_div_cancel _ (by decide)]
      have counted : length ((UInt8.ofNat (contents.length * 16)).toNat / 16) contents =
          Option.some (contents.length, contents) := by
        rw [token, length, if_neg (by omega)]
      rw [List.length_cons, sequences, sequence_literals contents _ _ counted]
      exact congrArg Option.some (List.reverse_reverse contents)
    case isFalse long =>
      have counted : length ((0xF0 : UInt8).toNat / 16)
          (encodeTail (contents.length - 15) ++ contents) =
            Option.some (contents.length, contents) := by
        have token : (0xF0 : UInt8).toNat / 16 = 15 := rfl
        have total : 15 + (contents.length - 15) = contents.length := by omega
        rw [token, length, if_pos rfl, lengthTail_encodeTail, Option.map_some]
        exact congrArg (fun total => Option.some (total, contents)) total
      rw [List.cons_append, List.length_cons, sequences, sequence_literals contents _ _ counted]
      exact congrArg Option.some (List.reverse_reverse contents)

/-- Contents that are packed are not too large to be unpacked. -/
theorem length_of_pack (contents block : List UInt8) (packed : pack contents = .ok block) :
    contents.length ≤ largest := by
  by_cases large : largest < contents.length
  · rw [pack, if_pos large] at packed
    cases packed
  · exact Nat.not_lt.mp large

/-- Any block of contents that are not too large is unpacked as it reads. -/
theorem unpack_of_decode (contents block : List UInt8) (fits : contents.length ≤ largest)
    (reads : decode contents.length block = some contents) :
    unpack contents.length block = .ok contents := by
  rw [unpack, if_neg (Nat.not_lt.mpr fits), reads]

/-- Blocks of literals are unpacked. -/
theorem restores_compressor : compressor.Restores := by
  intro contents block (packed : pack contents = .ok block)
  have fits : contents.length ≤ largest := length_of_pack contents block packed
  have bounded : largest < 2 ^ 31 := by decide
  rw [pack, if_neg (Nat.not_lt.mpr fits)] at packed
  cases packed
  exact ⟨Nat.lt_of_le_of_lt fits bounded,
    unpack_of_decode contents _ fits (decode_encode contents)⟩

end Block

namespace Bundle

/-- Bytes of a number stand for it, but for what does not fit. -/
theorem littleEndianValue_littleEndian (width number : Nat) :
    littleEndianValue (Codec.littleEndian width number) = number % 256 ^ width := by
  induction width generalizing number with
  | zero => rw [Nat.pow_zero, Nat.mod_one]; rfl
  | succ more inductionHypothesis =>
    have low : (UInt8.ofNat number).toNat = number % 256 := UInt8.toNat_ofNat'
    have high := inductionHypothesis (number / 256)
    rw [littleEndianValue] at high
    rw [Codec.littleEndian, littleEndianValue, List.foldr_cons, high, low, Nat.pow_succ',
      Nat.mod_mul]

/-- What reading finds in a file whose header is whole. -/
theorem unframe_file (compressor : Compressor) (flags : UInt8) (size : Nat) (data : List UInt8)
    (small : size < 2 ^ 64) :
    unframe compressor (file flags size data) =
      if flags.toNat % 2 = 0 then .ok data
      else if 2 ^ 31 ≤ size then .error (.compression "payload too large")
      else
        (compressor.decompress size data).mapError fun cause =>
          .compression ("Decompression failed: " ++ cause) := by
  have length : (file flags size data).length = headerLength + data.length := by
    simp only [file, List.length_append, Codec.length_littleEndian]
    rfl
  have starts : (file flags size data).take magic.length = magic := rfl
  have version : littleEndianValue (((file flags size data).drop 5).take 4) =
      formatVersion.toNat := littleEndianValue_littleEndian 4 formatVersion.toNat
  have sum : littleEndianValue (((file flags size data).drop 18).take 8) =
      (checksum data).toNat := by
    refine (littleEndianValue_littleEndian 8 (checksum data).toNat).trans ?_
    exact Nat.mod_eq_of_lt (checksum data).toNat_lt
  have recorded : littleEndianValue (((file flags size data).drop 10).take 8) = size :=
    (littleEndianValue_littleEndian 8 size).trans (Nat.mod_eq_of_lt small)
  have marks : littleEndianValue (((file flags size data).drop 9).take 1) = flags.toNat := rfl
  have rest : (file flags size data).drop headerLength = data := rfl
  have named : ¬(file flags size data).length < magic.length := by
    rw [length]
    exact Nat.not_lt.mpr (Nat.le_trans (by decide) (Nat.le_add_right headerLength data.length))
  have whole : ¬(file flags size data).length < headerLength := by omega
  simp only [unframe, if_neg named, starts, if_neg whole, version, rest, sum, marks, recorded,
    ne_eq, not_true_eq_false, if_false]

/-- A plain file has its contents. -/
theorem unframe_plain (compressor : Compressor) (size : Nat) (contents : List UInt8)
    (small : size < 2 ^ 64) : unframe compressor (file 0 size contents) = .ok contents := by
  rw [unframe_file compressor 0 size contents small]
  rfl

/-- A file of a block has the contents that the block unpacks to. -/
theorem unframe_compressed (compressor : Compressor) (size : Nat) (contents block : List UInt8)
    (small : size < 2 ^ 31) (unpacked : compressor.decompress size block = .ok contents) :
    unframe compressor (file 1 size block) = .ok contents := by
  have flagged : ¬(1 : UInt8).toNat % 2 = 0 := by decide
  rw [unframe_file compressor 1 size block (by omega), if_neg flagged,
    if_neg (Nat.not_le.mpr small), unpacked]
  rfl

/-- A compressed file is one of a block of the contents, and records their size. -/
theorem block_of_frame (compressor : Compressor) (payload bytes : List UInt8)
    (written : frame compressor payload true = .ok bytes) :
    ∃ block, compressor.compress payload = .ok block ∧ bytes = file 1 payload.length block := by
  cases packed : compressor.compress payload with
  | ok block =>
    rw [frame, if_pos rfl, packed] at written
    cases written
    exact ⟨block, rfl, rfl⟩
  | error cause =>
    rw [frame, if_pos rfl, packed] at written
    cases written

/-- The bytes of a bundle file, with the tags in a given order. -/
def toBytesTagged (compressor : Compressor) (tags : List (String × String)) (bundle : Bundle)
    (compress : Bool) : Except BundleError (List UInt8) :=
  frame compressor (bundle.encodeTagged tags) compress

/-- A way to write a bundle gives it back. Plain files are always written, and read without
    a look at the compressor. Compressed ones are read back whenever they can be written, if
    the compressor unpacks its own blocks. -/
structure ReadsBack (compressor : Compressor) (bundle : Bundle)
    (write : Bool → Except BundleError (List UInt8)) : Prop where
  /-- The eight bytes of a length can tell the lengths of all that memory holds. -/
  plain : (codec.encode bundle).length < 2 ^ 64 →
    ∃ bytes, write false = .ok bytes ∧ ofBytes compressor bytes = .ok bundle
  compressed : compressor.Restores →
    ∀ bytes, write true = .ok bytes → ofBytes compressor bytes = .ok bundle

/-- The order of the tags does not change how many bytes the contents take. -/
theorem length_encodeTagged (bundle : Bundle) (tags : List (String × String))
    (order : tags.Perm bundle.metadata.tags.entries) :
    (bundle.encodeTagged tags).length = (codec.encode bundle).length := by
  have items := (order.flatMap_right (Codec.pair Codec.text Codec.text).encode).length_eq
  simp only [codec, encodeTagged, Codec.bundleFields, Codec.metadata, Codec.pair, Codec.list,
    List.length_append, order.length_eq] at items ⊢
  omega

/-- Contents that are a bundle's are read as that bundle. -/
theorem ofBytes_of_unframe (compressor : Compressor) (bundle : Bundle)
    (tags : List (String × String)) (order : tags.Perm bundle.metadata.tags.entries)
    (small : (bundle.encodeTagged tags).length < 2 ^ 64) (bytes : List UInt8)
    (contents : unframe compressor bytes = .ok (bundle.encodeTagged tags)) :
    ofBytes compressor bytes = .ok bundle := by
  have read := decode_encodeTagged bundle tags order small []
  rw [List.append_nil] at read
  have decoded : codec.decodeAll (bundle.encodeTagged tags) = .ok bundle := by
    rw [Codec.decodeAll, read]
    rfl
  rw [ofBytes, contents, Traversal.ok_bind, decoded]

/-- A bundle is given back whatever the order of its tags. -/
theorem readsBack_toBytesTagged (compressor : Compressor) (bundle : Bundle)
    (tags : List (String × String)) (order : tags.Perm bundle.metadata.tags.entries) :
    bundle.ReadsBack compressor (bundle.toBytesTagged compressor tags) where
  plain small := by
    rw [← length_encodeTagged bundle tags order] at small
    exact ⟨file 0 (bundle.encodeTagged tags).length (bundle.encodeTagged tags), rfl,
      ofBytes_of_unframe compressor bundle tags order small _ (unframe_plain _ _ _ small)⟩
  compressed restores bytes written := by
    obtain ⟨block, packed, rfl⟩ := block_of_frame compressor _ bytes written
    obtain ⟨told, unpacked⟩ := restores _ block packed
    exact ofBytes_of_unframe compressor bundle tags order (by omega) _
      (unframe_compressed compressor _ _ block told unpacked)

/-- A bundle is read back from the bytes it is written as, plain or compressed, whatever the
    compressor: of this only that it unpacks its own blocks is used, and for compressed files
    only. The tags may be written in any order.

    The header is read field by field at its fixed places, the data by what the compressor
    promises, and the contents by the codec of bundles, which is a structural recursion over
    everything a bundle is made of. -/
theorem readsBack_toBytes (compressor : Compressor) (bundle : Bundle) :
    bundle.ReadsBack compressor (bundle.toBytes compressor) ∧
      ∀ tags, tags.Perm bundle.metadata.tags.entries →
        bundle.ReadsBack compressor (bundle.toBytesTagged compressor tags) :=
  ⟨bundle.readsBack_toBytesTagged compressor bundle.metadata.tags.entries (List.Perm.refl _),
    bundle.readsBack_toBytesTagged compressor⟩

/-- A bundle with an unallocated buffer that has an element, an undefined number in a mixed
    sequence, and two tags. -/
def sampleBundle : Bundle where
  version := 7
  metadata := ⟨1, "é", "", NameMap.ofList [("a", "1"), ("b", "2")]⟩
  topology := some ⟨[⟨"x", "T"⟩],
    [⟨⟨"x", "", "x", "in", some (.range 1 2), 3⟩, [⟨.int16, [-1], false⟩]⟩], 9⟩
  records := NameMap.ofList [("x", ⟨"T",
    NameMap.ofList [("p", .sequence [⟨.real32, ⟨0x7FC00001⟩⟩, ⟨.handle, ⟨5⟩⟩])],
    [1, 2], NameMap.ofList [("out", ⟨.bool, [true], true⟩)], true⟩)]

/-- The contents of a file of the sample, with its tags the other way round. -/
def sampleContents : List UInt8 := sampleBundle.encodeTagged [("b", "2"), ("a", "1")]

/-- A block of the sample contents that refers back wherever four bytes repeat. -/
def sampleBlock : List UInt8 :=
  [98, 7, 0, 0, 0, 1, 0, 1, 0, 18, 2, 7, 0, 51, 0, 195, 169, 9, 0, 5, 18, 0, 4, 34, 0, 20, 98,
    9, 0, 20, 50, 9, 0, 20, 97, 9, 0, 36, 49, 1, 10, 0, 4, 8, 0, 20, 120, 9, 0, 20, 84, 9, 0, 4,
    8, 0, 20, 120, 96, 0, 5, 17, 0, 4, 105, 0, 33, 105, 110, 19, 0, 1, 5, 0, 7, 128, 0, 23, 3,
    166, 0, 0, 28, 0, 0, 4, 0, 0, 2, 0, 64, 255, 255, 0, 9, 8, 0, 11, 31, 0, 0, 2, 0, 15, 126, 0,
    7, 16, 112, 109, 0, 0, 4, 0, 0, 2, 0, 2, 0, 1, 112, 192, 127, 10, 0, 0, 0, 5, 17, 0, 7, 118,
    0, 36, 1, 2, 104, 0, 0, 128, 0, 0, 2, 0, 48, 111, 117, 116, 112, 0, 176, 1, 0, 0, 0, 0, 0, 0,
    0, 1, 1, 1]

/-- Packs the sample contents into this block, and all others as literals. -/
def packSample (contents : List UInt8) : Except String (List UInt8) :=
  if contents = sampleContents then .ok sampleBlock else Block.pack contents

/-- The block of the sample contents is unpacked, and so are blocks of literals. -/
theorem restores_packSample : (Compressor.mk packSample Block.unpack).Restores := by
  intro contents block (packed : packSample contents = .ok block)
  by_cases sample : contents = sampleContents
  · rw [packSample, if_pos sample] at packed
    rw [← Except.ok.inj packed, sample]
    have small : sampleContents.length < 2 ^ 31 := by decide +kernel
    have fits : sampleContents.length ≤ Block.largest := by decide +kernel
    have reads : Block.decode sampleContents.length sampleBlock = some sampleContents := by
      decide +kernel
    refine ⟨small, ?_⟩
    dsimp only
    exact Block.unpack_of_decode sampleContents sampleBlock fits reads
  · rw [packSample, if_neg sample] at packed
    exact Block.restores_compressor contents block packed

/-- The compressed file of the sample contents. -/
theorem frame_sampleContents :
    frame ⟨packSample, Block.unpack⟩ sampleContents true =
      .ok (file 1 sampleContents.length sampleBlock) := by
  have packed : packSample sampleContents = .ok sampleBlock := by
    rw [packSample, if_pos rfl]
  rw [frame, if_pos rfl]
  dsimp only
  rw [packed]
  rfl

/-- The sample is given back by its plain file and by its compressed one, with the tags the
    other way round. -/
theorem readsBack_sampleBundle :
    let compressor : Compressor := ⟨packSample, Block.unpack⟩
    (∃ bytes, sampleBundle.toBytesTagged compressor [("b", "2"), ("a", "1")] false = .ok bytes ∧
        ofBytes compressor bytes = .ok sampleBundle) ∧
      sampleBundle.toBytesTagged compressor [("b", "2"), ("a", "1")] true =
        .ok (file 1 sampleContents.length sampleBlock) ∧
      ofBytes compressor (file 1 sampleContents.length sampleBlock) = .ok sampleBundle := by
  intro compressor
  have sample := (readsBack_toBytes compressor sampleBundle).2 _ (List.Perm.swap _ _ _)
  have written : sampleBundle.toBytesTagged compressor [("b", "2"), ("a", "1")] true =
      .ok (file 1 sampleContents.length sampleBlock) := frame_sampleContents
  exact ⟨sample.plain (by decide +kernel), written,
    sample.compressed restores_packSample _ written⟩

end Bundle

end RegionGraph
