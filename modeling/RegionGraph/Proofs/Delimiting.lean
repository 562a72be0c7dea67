import RegionGraph.Builtin.Accumulator
import RegionGraph.Builtin.CounterSource
import RegionGraph.Proofs.Files

/-!
# Written values tell where they end

A reader asks for one byte after the other and for texts of a known length, and nothing it
does depends on bytes it has not asked for. So bytes behind those it took change nothing, and
neither do bytes behind those it refused, unless it refused them for being too few. This
passes from the readers of bytes and texts through every way to combine readers, up to the
states of implementations and to bundles.

Together with the codecs' reading back what they wrote it leaves one possibility for bytes
that were cut off: had the reader taken the part for a value, it would have left over what
was cut off. So it is no value at all, and no value is written as the beginning of another.
-/

namespace RegionGraph

/-- The bytes end before the value does. -/
def DecodeError.EndsEarly (cause : DecodeError) : Prop :=
  cause = .truncated ∨ cause = .truncatedText

namespace Codec

variable {α β ε : Type}

/-! ### Readers that look at nothing they do not take -/

/-- A reader that does not depend on what comes later. -/
structure Incremental (reader : Reader α) : Prop where
  /-- With more bytes behind, it takes the same value and leaves them too. -/
  takes : ∀ bytes value rest, reader bytes = .ok (value, rest) →
    ∀ more, reader (bytes ++ more) = .ok (value, rest ++ more)
  /-- A lack of bytes apart, it refuses for the same cause. -/
  refuses : ∀ bytes cause, reader bytes = .error cause → ¬cause.EndsEarly →
    ∀ more, reader (bytes ++ more) = .error cause

/-- To give a value takes no bytes. -/
theorem incremental_pure (value : α) : Incremental (pure value : Reader α) where
  takes bytes found rest read more := by
    cases read
    rfl
  refuses bytes cause refused := by cases refused

/-- To refuse takes no bytes. -/
theorem incremental_throw (cause : DecodeError) : Incremental (throw cause : Reader α) where
  takes bytes value rest read := by cases read
  refuses bytes found refused _ more := by
    cases refused
    rfl

/-- One reader after the other, if the first fails. -/
theorem bind_error (first : Reader α) (next : α → Reader β) (bytes : List UInt8)
    (cause : DecodeError) (refused : first bytes = .error cause) :
    (first >>= next) bytes = .error cause := by
  change (first bytes >>= fun outcome => next outcome.1 outcome.2) = _
  rw [refused]
  rfl

/-- One reader after the other. The second is handed what the first leaves, and more bytes
    behind the whole are more bytes behind that. -/
theorem Incremental.bind {first : Reader α} {next : α → Reader β} (head : Incremental first)
    (tail : ∀ value, Incremental (next value)) : Incremental (first >>= next) where
  takes bytes value rest read more := by
    cases front : first bytes with
    | error cause =>
      rw [bind_error _ _ _ _ front] at read
      cases read
    | ok taken =>
      obtain ⟨found, middle⟩ := taken
      rw [bind_ok _ _ _ _ _ front] at read
      rw [bind_ok _ _ _ _ _ (head.takes _ _ _ front more)]
      exact (tail found).takes _ _ _ read more
  refuses bytes cause refused long more := by
    cases front : first bytes with
    | error found =>
      rw [bind_error _ _ _ _ front] at refused
      cases refused
      exact bind_error _ _ _ _ (head.refuses _ _ front long more)
    | ok taken =>
      obtain ⟨found, middle⟩ := taken
      rw [bind_ok _ _ _ _ _ front] at refused
      rw [bind_ok _ _ _ _ _ (head.takes _ _ _ front more)]
      exact (tail found).refuses _ _ refused long more

/-- A single byte. -/
theorem incremental_readByte : Incremental readByte where
  takes bytes value rest read more := by
    cases bytes with
    | nil => cases read
    | cons byte others =>
      cases read
      rfl
  refuses bytes cause refused long := by
    cases bytes with
    | nil =>
      cases refused
      exact absurd (Or.inl rfl) long
    | cons byte others => cases refused

/-- Numbers, byte by byte. -/
theorem incremental_readLittleEndian (width : Nat) : Incremental (readLittleEndian width) := by
  induction width with
  | zero => exact incremental_pure 0
  | succ more inductionHypothesis =>
    apply incremental_readByte.bind
    intro low
    apply inductionHypothesis.bind
    intro high
    exact incremental_pure _

/-- As many values as a count says, one after the other. -/
theorem Incremental.readMany {item : Reader α} (incremental : Incremental item) (count : Nat) :
    Incremental (Codec.readMany item count) := by
  induction count with
  | zero => exact incremental_pure []
  | succ more inductionHypothesis =>
    apply incremental.bind
    intro first
    apply inductionHypothesis.bind
    intro rest
    exact incremental_pure _

/-- What decides whether bytes are a text is only looked at when all of them are there. -/
theorem readText_append (count : Nat) (bytes more : List UInt8) (enough : count ≤ bytes.length) :
    readText count (bytes ++ more) =
      (readText count bytes).map fun (content, rest) => (content, rest ++ more) := by
  have longer : count ≤ (bytes ++ more).length := by
    rw [List.length_append]
    omega
  rw [readText, readText, if_neg (Nat.not_lt.mpr longer), if_neg (Nat.not_lt.mpr enough),
    List.take_append_of_le_length enough, List.drop_append_of_le_length enough]
  cases Utf8.decode (bytes.take count) with
  | ok content => rfl
  | error fault => rfl

/-- Too few bytes for a text are refused for that. -/
theorem readText_short (count : Nat) (bytes : List UInt8) (short : ¬count ≤ bytes.length) :
    readText count bytes = .error .truncatedText :=
  if_pos (Nat.not_le.mp short)

/-- Texts of a known length. -/
theorem incremental_readText (count : Nat) : Incremental (readText count) where
  takes bytes value rest read more := by
    by_cases enough : count ≤ bytes.length
    · rw [readText_append count bytes more enough, read]
      rfl
    · rw [readText_short count bytes enough] at read
      cases read
  refuses bytes cause refused long more := by
    by_cases enough : count ≤ bytes.length
    · rw [readText_append count bytes more enough, refused]
      rfl
    · rw [readText_short count bytes enough] at refused
      cases refused
      exact absurd (Or.inr rfl) long

/-- A byte that says which of two readers goes on, and may say neither. -/
theorem incremental_marked {absent present : Reader α} (first : Incremental absent)
    (second : Incremental present) (refusal : UInt8 → DecodeError) :
    Incremental (readByte >>= fun byte =>
      if byte = 0 then absent else if byte = 1 then present else throw (refusal byte)) := by
  apply incremental_readByte.bind
  intro byte
  by_cases no : byte = 0
  · rw [if_pos no]
    exact first
  · rw [if_neg no]
    by_cases yes : byte = 1
    · rw [if_pos yes]
      exact second
    · rw [if_neg yes]
      exact incremental_throw _

/-! ### Ways to combine codecs -/

/-- Numbers take as many bytes as they are wide, and no other. -/
theorem incremental_number (width : Nat) : Incremental (number width).decode :=
  incremental_readLittleEndian width

/-- Values in another form. -/
theorem Incremental.via {codec : Codec α} (incremental : Incremental codec.decode) (pack : α → β)
    (unpack : β → α) : Incremental (codec.via pack unpack).decode :=
  incremental.bind fun _ => incremental_pure _

/-- One value after the other, the second codec depending on the first value. -/
theorem Incremental.dependent {family : α → Type} {first : Codec α}
    {second : (a : α) → Codec (family a)} (left : Incremental first.decode)
    (right : ∀ a, Incremental (second a).decode) :
    Incremental (Codec.dependent first second).decode :=
  left.bind fun a => (right a).bind fun _ => incremental_pure _

/-- One value after the other. -/
theorem Incremental.pair {first : Codec α} {second : Codec β} (left : Incremental first.decode)
    (right : Incremental second.decode) : Incremental (Codec.pair first second).decode :=
  left.bind fun _ => right.bind fun _ => incremental_pure _

/-- Lists of values. -/
theorem Incremental.list {item : Codec α} (incremental : Incremental item.decode) :
    Incremental (Codec.list item).decode :=
  (incremental_number 8).bind fun count => incremental.readMany count

/-- Values that may be missing. -/
theorem Incremental.option {item : Codec α} (incremental : Incremental item.decode) :
    Incremental (Codec.option item).decode :=
  incremental_marked (incremental_pure none) (incremental.bind fun _ => incremental_pure _) _

/-- Forms among several. -/
theorem incremental_variant (forms : Nat) : Incremental (variant forms).decode := by
  apply ((incremental_number 4).via _ _).bind
  intro found
  by_cases known : found.toNat < forms
  · rw [dif_pos known]
    exact incremental_pure _
  · rw [dif_neg known]
    exact incremental_throw _

/-! ### The codecs of the library -/

/-- Single bytes. -/
theorem incremental_uint8 : Incremental uint8.decode := (incremental_number 1).via _ _

/-- Words of two bytes. -/
theorem incremental_uint16 : Incremental uint16.decode := (incremental_number 2).via _ _

/-- Words of four bytes. -/
theorem incremental_uint32 : Incremental uint32.decode := (incremental_number 4).via _ _

/-- Words of eight bytes. -/
theorem incremental_uint64 : Incremental uint64.decode := (incremental_number 8).via _ _

/-- Truth values: one byte, which is a mark without anything behind it. -/
theorem incremental_bool : Incremental bool.decode :=
  incremental_marked (incremental_pure false) (incremental_pure true) _

/-- Texts: their length says where they end. -/
theorem incremental_text : Incremental text.decode :=
  (incremental_number 8).bind incremental_readText

/-- Maps by name are read as lists of bindings. -/
theorem Incremental.nameMap {item : Codec α} (incremental : Incremental item.decode) :
    Incremental (Codec.nameMap item).decode :=
  (incremental_text.pair incremental).list.via _ _

/-- Element types. A tag that belongs to none is refused whatever follows. -/
theorem incremental_elementType : Incremental elementType.decode := by
  apply incremental_uint32.bind
  intro found
  cases ElementType.ofTag? found.toNat with
  | some type => exact incremental_pure type
  | none => exact incremental_throw _

/-- Elements of every type. -/
theorem incremental_element (type : ElementType) : Incremental (element type).decode := by
  cases type with
  | byte => exact incremental_uint8
  | int16 => exact incremental_uint16.via _ _
  | uint16 => exact incremental_uint16
  | int32 => exact incremental_uint32.via _ _
  | uint32 => exact incremental_uint32
  | int64 => exact incremental_uint64.via _ _
  | uint64 => exact incremental_uint64
  | real32 => exact incremental_uint32.via _ _
  | real64 => exact incremental_uint64.via _ _
  | bool => exact incremental_bool
  | handle => exact incremental_uint64.via _ _

/-- Scalars: the type says how many bytes the element takes. -/
theorem incremental_scalar : Incremental scalar.decode :=
  (incremental_elementType.dependent incremental_element).via _ _

/-- Buffers: the type and the number of elements say where they end. -/
theorem incremental_buffer : Incremental buffer.decode :=
  ((incremental_elementType.dependent fun type => (incremental_element type).list).pair
    incremental_bool).via _ _

/-- Parameter values of every form. -/
theorem incremental_value : Incremental value.decode := by
  apply (incremental_variant 3).bind
  intro form
  match form with
  | 0 => exact incremental_scalar.bind fun _ => incremental_pure _
  | 1 => exact incremental_text.bind fun _ => incremental_pure _
  | 2 => exact incremental_scalar.list.bind fun _ => incremental_pure _

/-- Reindexing rules of both forms. -/
theorem incremental_reindex : Incremental reindex.decode := by
  apply (incremental_variant 2).bind
  intro form
  match form with
  | 0 => exact (incremental_uint64.pair incremental_uint64).bind fun _ => incremental_pure _
  | 1 => exact incremental_uint64.list.bind fun _ => incremental_pure _

/-- Records of regions, one field after the other. -/
theorem incremental_regionRecord : Incremental regionRecord.decode :=
  (incremental_text.pair (incremental_value.nameMap.pair (incremental_uint8.list.pair
    (incremental_buffer.nameMap.pair incremental_bool)))).via _ _

/-- What is recorded of a link that does not change while the network runs. -/
theorem incremental_linkSpec : Incremental linkSpec.decode :=
  (incremental_text.pair (incremental_text.pair (incremental_text.pair (incremental_text.pair
    (incremental_reindex.option.pair incremental_uint32))))).via _ _

/-- Records of links. -/
theorem incremental_linkRecord : Incremental linkRecord.decode :=
  (incremental_linkSpec.pair incremental_buffer.list).via _ _

/-- Topologies. -/
theorem incremental_topology : Incremental topology.decode :=
  (((incremental_text.pair incremental_text).via _ _).list.pair
    (incremental_linkRecord.list.pair incremental_uint64)).via _ _

/-- Bundles: all their fields, and at last the tags brought into order. -/
theorem incremental_bundle : Incremental Bundle.codec.decode :=
  (incremental_uint32.pair ((incremental_uint64.pair (incremental_text.pair (incremental_text.pair
    (incremental_text.pair incremental_text).list))).pair (incremental_topology.option.pair
      incremental_regionRecord.nameMap))).bind fun _ => incremental_pure _

/-! ### Bytes that are read to their end -/

section Whole

variable {reader : Reader α} (incremental : Incremental reader) {written : List UInt8} {value : α}
  (read : reader written = .ok (value, []))

include incremental read

/-- Bytes that follow a value are left. -/
theorem Incremental.followed (rest : List UInt8) : reader (written ++ rest) = .ok (value, rest) :=
  incremental.takes written value [] read rest

/-- Bytes that are cut off are no value: it would leave what was cut off. Nor are they refused
    for anything but their end, as the whole is not. -/
theorem Incremental.cutOff (length : Nat) (short : length < written.length) :
    ∃ cause : DecodeError, cause.EndsEarly ∧ reader (written.take length) = .error cause := by
  cases part : reader (written.take length) with
  | ok taken =>
    obtain ⟨other, rest⟩ := taken
    -- Read on with what was cut off, the part leaves at least that, and the whole leaves nothing.
    have whole := incremental.takes _ _ _ part (written.drop length)
    rw [List.take_append_drop, read] at whole
    have left : [] = rest ++ written.drop length := congrArg Prod.snd (Except.ok.inj whole)
    have none : written.drop length = [] := (List.append_eq_nil_iff.mp left.symm).2
    have long : written.length ≤ length := List.drop_eq_nil_iff.mp none
    exact absurd short (Nat.not_lt.mpr long)
  | error cause =>
    by_cases early : cause.EndsEarly
    · exact ⟨cause, early, rfl⟩
    · have whole := incremental.refuses _ _ part early (written.drop length)
      rw [List.take_append_drop, read] at whole
      cases whole

/-- No bytes that are a value begin those of another. -/
theorem Incremental.alone {others : List UInt8} {other : α}
    (readOther : reader others = .ok (other, [])) (begins : others <+: written) :
    other = value ∧ others = written := by
  obtain ⟨rest, rfl⟩ := begins
  have whole := incremental.followed readOther rest
  rw [read] at whole
  cases whole
  exact ⟨rfl, (List.append_nil others).symm⟩

end Whole

/-! ### Stored values -/

/-- The bytes that a value is written as tell where they end. What writes a value and what
    reading gives are relations, as there may be several ways to write a value and to keep
    what was written. -/
structure Delimited (Writes : α → List UInt8 → Prop) (Reads : List UInt8 → Except ε α → Prop)
    (refusal : DecodeError → ε) (value : α) (written : List UInt8) : Prop where
  /-- Whatever follows the bytes, the value is read. -/
  followed : ∀ rest, Reads (written ++ rest) (.ok value)
  /-- Wherever the bytes are cut off, they are refused as ending early. -/
  cutOff : ∀ length < written.length, ∃ cause : DecodeError, cause.EndsEarly ∧
    Reads (written.take length) (.error (refusal cause))
  /-- No other value is written as the beginning of the bytes. -/
  alone : ∀ other others, Writes other others → others <+: written →
    other = value ∧ others = written

/-- What an incremental reader reads back is delimited. -/
theorem Incremental.delimited {reader : Reader α} (incremental : Incremental reader)
    {Writes : α → List UInt8 → Prop} {Reads : List UInt8 → Except ε α → Prop}
    {refusal : DecodeError → ε}
    (readBack : ∀ value written, Writes value written → written.length < 2 ^ 64 →
      reader written = .ok (value, []))
    (reads : ∀ bytes, Reads bytes (((reader bytes).map Prod.fst).mapError refusal))
    (value : α) (written : List UInt8) (writes : Writes value written)
    (small : written.length < 2 ^ 64) : Delimited Writes Reads refusal value written := by
  have read := readBack value written writes small
  constructor
  · intro rest
    have outcome := reads (written ++ rest)
    rw [incremental.followed read rest] at outcome
    exact outcome
  · intro length short
    obtain ⟨cause, early, refused⟩ := incremental.cutOff read length short
    have outcome := reads (written.take length)
    rw [refused] at outcome
    exact ⟨cause, early, outcome⟩
  · intro other others writesOther begins
    have smallOther : others.length < 2 ^ 64 := Nat.lt_of_le_of_lt begins.length_le small
    exact incremental.alone read (readBack other others writesOther smallOther) begins

end Codec

/-! ### States -/

/-- The types of the states that implementations save. -/
inductive StateType where
  | uint64 | int32 | bool | text | int64List
  | pair (first second : StateType)

namespace StateType

/-- The states of a type. -/
def Carrier : StateType → Type
  | uint64 => UInt64
  | int32 => Int32
  | bool => Bool
  | text => String
  | int64List => List Int64
  | pair first second => first.Carrier × second.Carrier

/-- How the states of a type are written and read. -/
def codec : (type : StateType) → Codec type.Carrier
  | uint64 => Codec.uint64
  | int32 => Codec.int32
  | bool => Codec.bool
  | text => Codec.text
  | int64List => Codec.list Codec.int64
  | pair first second => Codec.pair first.codec second.codec

/-- States of every type are read back, by induction over what they are made of. -/
theorem roundTrips_codec (type : StateType) : type.codec.RoundTrips := by
  induction type with
  | uint64 => exact Codec.roundTrips_uint64
  | int32 => exact Codec.roundTrips_uint32.via _ _ fun _ => rfl
  | bool => exact Codec.roundTrips_bool
  | text => exact Codec.roundTrips_text
  | int64List => exact (Codec.roundTrips_uint64.via _ _ fun _ => rfl).list
  | pair first second left right => exact left.pair right

/-- States of every type are read as far as they go, by induction over what they are made of. -/
theorem incremental_codec (type : StateType) : Codec.Incremental type.codec.decode := by
  induction type with
  | uint64 => exact Codec.incremental_uint64
  | int32 => exact Codec.incremental_uint32.via _ _
  | bool => exact Codec.incremental_bool
  | text => exact Codec.incremental_text
  | int64List => exact (Codec.incremental_uint64.via _ _).list
  | pair first second left right => exact left.pair right

/-- Counter sources and accumulators save states of these types. -/
example (source : CounterSource) (accumulator : Accumulator) :
    Implementation.save source = .ok (StateType.uint64.codec.encode source.ticks) ∧
      Implementation.save accumulator = .ok (StateType.int64List.codec.encode accumulator.sums) :=
  ⟨rfl, rfl⟩

/-- A state is written in one way. -/
def Writes (type : StateType) (state : type.Carrier) (written : List UInt8) : Prop :=
  written = type.codec.encode state

/-- What restoring a state from bytes gives. -/
def Reads (type : StateType) (bytes : List UInt8) (outcome : Except GraphError type.Carrier) :
    Prop :=
  decodeState type.codec bytes = outcome

/-- A state is read back from its bytes. -/
theorem decode_of_writes (type : StateType) (state : type.Carrier) (written : List UInt8)
    (writes : type.Writes state written) (small : written.length < 2 ^ 64) :
    type.codec.decode written = .ok (state, []) := by
  rw [Writes] at writes
  subst writes
  simpa only [List.append_nil] using type.roundTrips_codec.faithful state small []

end StateType

/-! ### Bundles -/

namespace Bundle

/-- The contents of a file of a bundle. They are written with the tags in name order, and may
    have them in any other. -/
def Writes (bundle : Bundle) (contents : List UInt8) : Prop :=
  ∃ tags : List (String × String), tags.Perm bundle.metadata.tags.entries ∧
    contents = bundle.encodeTagged tags

/-- What opening a file with certain contents gives: there is such a file, and it does not
    matter which of them it is, plain or compressed, nor what unpacks it. -/
def Reads (contents : List UInt8) (outcome : Except BundleError Bundle) : Prop :=
  (∃ file, ∀ compressor, unframe compressor file = .ok contents) ∧
    ∀ compressor file, unframe compressor file = .ok contents → ofBytes compressor file = outcome

/-- A bundle is read back from its contents. -/
theorem decode_of_writes (bundle : Bundle) (contents : List UInt8) (writes : bundle.Writes contents)
    (small : contents.length < 2 ^ 64) : codec.decode contents = .ok (bundle, []) := by
  obtain ⟨tags, order, rfl⟩ := writes
  simpa only [List.append_nil] using decode_encodeTagged bundle tags order small []

/-- Files with the same contents open as what these are read as. -/
theorem reads_contents (contents : List UInt8) :
    Reads contents (((codec.decode contents).map Prod.fst).mapError .unreadable) := by
  -- Any contents can be kept in a plain file, whatever size it records.
  refine ⟨⟨file 0 0 contents, fun compressor => unframe_plain compressor 0 contents (by decide)⟩,
    fun compressor file opened => ?_⟩
  rw [ofBytes, opened, Traversal.ok_bind, Codec.decodeAll]
  cases codec.decode contents <;> rfl

end Bundle

namespace Codec

/-- Stored values tell where they end: states of every type in what restoring makes of them,
    and bundles, with their tags in any order, in what opening a file makes of its contents.
    Both say in their own words that the bytes could not be read.

    The eight bytes of a length can tell the lengths of all that memory holds, so the bytes of
    a value are fewer than they can count.

    That a reader takes what it needs from the front, and nothing that comes after, is kept by
    all ways of combining readers, so it holds of every codec by the recursion over what it is
    made of. -/
theorem delimited_stored :
    (∀ (type : StateType) (state : type.Carrier) (written : List UInt8),
      type.Writes state written → written.length < 2 ^ 64 →
        Delimited type.Writes type.Reads .stateUnreadable state written) ∧
    (∀ (bundle : Bundle) (contents : List UInt8),
      bundle.Writes contents → contents.length < 2 ^ 64 →
        Delimited Bundle.Writes Bundle.Reads .unreadable bundle contents) ∧
    ∀ cause : DecodeError,
      (GraphError.stateUnreadable cause).message =
        "Implementation error: State decoding failed: " ++ cause.message ∧
      (BundleError.unreadable cause).message = "Deserialization error: " ++ cause.message := by
  refine ⟨?states, ?bundles, fun cause => ⟨rfl, rfl⟩⟩
  case states =>
    intro type
    exact type.incremental_codec.delimited type.decode_of_writes fun _ => rfl
  case bundles =>
    exact incremental_bundle.delimited Bundle.decode_of_writes Bundle.reads_contents

/-- A text of one character, which takes two bytes, and two numbers. -/
def sampleState : (StateType.pair .text .int64List).Carrier := ("é", ([1, -2] : List Int64))

/-- The sample state is not taken for a shorter one where its second number is cut off, nor
    where its character is. The sample bundle opens from its contents with a byte behind them,
    and not from all but the last of them. -/
theorem delimited_samples :
    (∃ cause : DecodeError, cause.EndsEarly ∧
      decodeState (StateType.pair .text .int64List).codec
          [2, 0, 0, 0, 0, 0, 0, 0, 0xC3, 0xA9, 2, 0, 0, 0, 0, 0, 0, 0, 1, 0, 0, 0, 0, 0, 0, 0] =
        .error (.stateUnreadable cause)) ∧
      (∃ cause : DecodeError, cause.EndsEarly ∧
        decodeState (StateType.pair .text .int64List).codec [2, 0, 0, 0, 0, 0, 0, 0, 0xC3] =
          .error (.stateUnreadable cause)) ∧
      Bundle.ofBytes Block.compressor (Bundle.file 0 0 (Bundle.sampleContents ++ [7])) =
        .ok Bundle.sampleBundle ∧
      ∃ cause : DecodeError, cause.EndsEarly ∧
        Bundle.ofBytes Block.compressor (Bundle.file 0 0 Bundle.sampleContents.dropLast) =
          .error (.unreadable cause) := by
  have state := delimited_stored.1 (.pair .text .int64List) sampleState _ rfl (by decide)
  have bundle := delimited_stored.2.1 Bundle.sampleBundle Bundle.sampleContents
    ⟨_, List.Perm.swap _ _ _, rfl⟩ (by decide +kernel)
  refine ⟨state.cutOff 26 (by decide), state.cutOff 9 (by decide), ?_, ?_⟩
  · exact (bundle.followed [7]).2 _ _ (Bundle.unframe_plain _ _ _ (by decide))
  · obtain ⟨cause, early, reads⟩ := bundle.cutOff (Bundle.sampleContents.length - 1) (by decide +kernel)
    rw [← List.dropLast_eq_take] at reads
    exact ⟨cause, early, reads.2 _ _ (Bundle.unframe_plain _ _ _ (by decide))⟩

end Codec

end RegionGraph
