import RegionGraph.Bundle.Layout
import RegionGraph.Proofs.Codecs
import RegionGraph.Proofs.NameMaps
import RegionGraph.Proofs.Texts

/-!
# Stored records are read back

Every codec of the library reads back what it writes, and every way to combine codecs
passes this on. Counts have eight bytes, so what is written must not be longer than they
can say; as every value takes at least a byte, no list in it is longer either. The codecs
of the records of a bundle then follow one by one, each from those of its fields.
-/

namespace RegionGraph

namespace Codec

variable {α β : Type}

/-- A codec reads back every value that is written in fewer bytes than a count can say,
    and writes no value as nothing. -/
structure RoundTrips (codec : Codec α) : Prop where
  positive : ∀ value, 0 < (codec.encode value).length
  faithful : ∀ value, (codec.encode value).length < 2 ^ 64 → codec.Faithful value

/-! ### Ways to combine codecs -/

/-- Numbers of a width keep the types whose values they are. -/
theorem roundTrips_number (width : Nat) (positive : 0 < width) (pack : Nat → β)
    (unpack : β → Nat) (fits : ∀ value, unpack value < 256 ^ width)
    (inverse : ∀ value, pack (unpack value) = value) :
    ((number width).via pack unpack).RoundTrips where
  positive value := by
    cases width with
    | zero => exact absurd positive (Nat.lt_irrefl 0)
    | succ more => exact Nat.succ_pos _
  faithful value _ :=
    faithful_via (number width) pack unpack value (faithful_number width _ (fits value))
      (inverse value)

/-- Values in another form are read back if packing undoes unpacking. -/
theorem RoundTrips.via {codec : Codec α} (roundTrips : codec.RoundTrips) (pack : α → β)
    (unpack : β → α) (inverse : ∀ value, pack (unpack value) = value) :
    (codec.via pack unpack).RoundTrips where
  positive value := roundTrips.positive (unpack value)
  faithful value small :=
    faithful_via codec pack unpack value (roundTrips.faithful (unpack value) small) (inverse value)

/-- One value after the other, the second codec depending on the first value. -/
theorem RoundTrips.dependent {family : α → Type} {first : Codec α}
    {second : (a : α) → Codec (family a)} (left : first.RoundTrips)
    (right : ∀ a, (second a).RoundTrips) : (Codec.dependent first second).RoundTrips where
  positive value := by
    rw [Codec.dependent, List.length_append]
    exact Nat.add_pos_left (left.positive value.1) _
  faithful value small rest := by
    obtain ⟨a, b⟩ := value
    rw [Codec.dependent, List.length_append] at small
    rw [Codec.dependent]
    dsimp only at small ⊢
    rw [List.append_assoc, bind_ok _ _ _ _ _ (left.faithful a (by omega) _),
      bind_ok _ _ _ _ _ ((right a).faithful b (by omega) rest)]
    rfl

/-- One value after the other. -/
theorem RoundTrips.pair {first : Codec α} {second : Codec β} (left : first.RoundTrips)
    (right : second.RoundTrips) : (Codec.pair first second).RoundTrips where
  positive value := by
    rw [Codec.pair, List.length_append]
    exact Nat.add_pos_left (left.positive value.1) _
  faithful value small rest := by
    obtain ⟨a, b⟩ := value
    rw [Codec.pair, List.length_append] at small
    rw [Codec.pair]
    dsimp only at small ⊢
    rw [List.append_assoc, bind_ok _ _ _ _ _ (left.faithful a (by omega) _),
      bind_ok _ _ _ _ _ (right.faithful b (by omega) rest)]
    rfl

/-- A count takes eight bytes. -/
theorem length_littleEndian (width number : Nat) : (littleEndian width number).length = width := by
  induction width generalizing number with
  | zero => rfl
  | succ more inductionHypothesis =>
    rw [littleEndian, List.length_cons, inductionHypothesis]

/-- Items that take at least a byte each take no fewer bytes than they are. -/
theorem length_le_flatMap {item : Codec α} (roundTrips : item.RoundTrips) (values : List α) :
    values.length ≤ (values.flatMap item.encode).length := by
  induction values with
  | nil => exact Nat.le_refl 0
  | cons first others inductionHypothesis =>
    have taken := roundTrips.positive first
    rw [List.flatMap_cons, List.length_append, List.length_cons]
    omega

/-- An item takes no more bytes than all items. -/
theorem length_encode_le (item : Codec α) (values : List α) (value : α)
    (member : value ∈ values) :
    (item.encode value).length ≤ (values.flatMap item.encode).length := by
  obtain ⟨before, after, rfl⟩ := List.append_of_mem member
  rw [List.flatMap_append, List.flatMap_cons, List.length_append, List.length_append]
  omega

/-- Lists of values. -/
theorem RoundTrips.list {item : Codec α} (roundTrips : item.RoundTrips) :
    (Codec.list item).RoundTrips where
  positive values := by
    rw [Codec.list, List.length_append, count, Codec.number, length_littleEndian]
    exact Nat.add_pos_left (by decide) _
  faithful values small := by
    rw [Codec.list, List.length_append] at small
    refine faithful_list item values ?_ fun value member => ?_
    · have bounded := length_le_flatMap roundTrips values
      omega
    · have bounded := length_encode_le item values value member
      exact roundTrips.faithful value (by omega)

/-- Values that may be missing. -/
theorem RoundTrips.option {item : Codec α} (roundTrips : item.RoundTrips) :
    (Codec.option item).RoundTrips where
  positive value := by
    cases value with
    | none => exact Nat.succ_pos _
    | some value => exact Nat.succ_pos _
  faithful value small rest := by
    cases value with
    | none => rfl
    | some value =>
      have shorter : (item.encode value).length < 2 ^ 64 := Nat.lt_of_succ_lt small
      change (readByte >>= _) _ = _
      rw [bind_ok readByte _ 1 _ (item.encode value ++ rest) rfl]
      change (item.decode >>= _) _ = _
      rw [bind_ok _ _ _ _ _ (roundTrips.faithful value shorter rest)]
      rfl

/-- Forms among few enough. -/
theorem roundTrips_variant (forms : Nat) (few : forms ≤ 2 ^ 32) : (variant forms).RoundTrips where
  positive form := Nat.succ_pos _
  faithful form _ rest := by
    have word : uint32.Faithful (UInt32.ofNat form.val) :=
      faithful_via (number 4) _ _ _ (faithful_number 4 _ (UInt32.toNat_lt _)) UInt32.ofNat_toNat
    have same : (UInt32.ofNat form.val).toNat = form.val :=
      UInt32.toNat_ofNat_of_lt' (Nat.lt_of_lt_of_le form.isLt few)
    rw [variant]
    dsimp only
    rw [bind_ok _ _ _ _ _ (word rest)]
    simp only [same, form.isLt, dite_true]
    rfl

/-! ### The codecs of single values -/

/-- Single bytes. -/
theorem roundTrips_uint8 : uint8.RoundTrips :=
  roundTrips_number 1 (by decide) _ _ UInt8.toNat_lt fun _ => UInt8.ofNat_toNat

/-- Words of two bytes: whatever word is written fits them. -/
theorem roundTrips_uint16 : uint16.RoundTrips :=
  roundTrips_number 2 (by decide) _ _ UInt16.toNat_lt fun _ => UInt16.ofNat_toNat

/-- Words of four bytes. -/
theorem roundTrips_uint32 : uint32.RoundTrips :=
  roundTrips_number 4 (by decide) _ _ UInt32.toNat_lt fun _ => UInt32.ofNat_toNat

/-- Words of eight bytes. -/
theorem roundTrips_uint64 : uint64.RoundTrips :=
  roundTrips_number 8 (by decide) _ _ UInt64.toNat_lt fun _ => UInt64.ofNat_toNat

/-- Truth values. -/
theorem roundTrips_bool : bool.RoundTrips where
  positive _ := Nat.succ_pos _
  faithful value _ rest := by cases value <;> rfl

/-- A number of bytes that are a text are taken for it. -/
theorem readText_encode (content : String) (rest : List UInt8) :
    readText (Utf8.encode content).length (Utf8.encode content ++ rest) = .ok (content, rest) := by
  rw [readText, List.length_append, if_neg (by omega), List.take_left, Utf8.decode_encode]
  simp only [List.drop_left]

/-- Texts. -/
theorem roundTrips_text : text.RoundTrips where
  positive content := by
    rw [text, List.length_append, count, number, length_littleEndian]
    exact Nat.add_pos_left (by decide) _
  faithful content small rest := by
    rw [text, List.length_append] at small
    have length : count.Faithful (Utf8.encode content).length :=
      faithful_number 8 _ (by omega)
    rw [text]
    dsimp only
    rw [List.append_assoc, bind_ok count.decode _ _ _ _ (length _)]
    exact readText_encode content rest

/-- Maps by name. Their bindings are written in ascending order, but any order is read. -/
theorem RoundTrips.nameMap {item : Codec α} (roundTrips : item.RoundTrips) :
    (Codec.nameMap item).RoundTrips :=
  (roundTrips_text.pair roundTrips).list.via _ _ fun map =>
    map.ofList_of_perm map.entries (List.Perm.refl _)

/-- Element types. -/
theorem roundTrips_elementType : elementType.RoundTrips where
  positive _ := Nat.succ_pos _
  faithful type _ rest := by cases type <;> rfl

/-- Elements of every type. Floating-point elements are their bits. -/
theorem roundTrips_element (type : ElementType) : (element type).RoundTrips := by
  cases type with
  | byte => exact roundTrips_uint8
  | int16 => exact roundTrips_uint16.via _ _ fun _ => rfl
  | uint16 => exact roundTrips_uint16
  | int32 => exact roundTrips_uint32.via _ _ fun _ => rfl
  | uint32 => exact roundTrips_uint32
  | int64 => exact roundTrips_uint64.via _ _ fun _ => rfl
  | uint64 => exact roundTrips_uint64
  | real32 => exact roundTrips_uint32.via _ _ fun _ => rfl
  | real64 => exact roundTrips_uint64.via _ _ fun _ => rfl
  | bool => exact roundTrips_bool
  | handle => exact roundTrips_uint64.via _ _ fun _ => rfl

/-! ### The codecs of the records of a graph -/

/-- Scalars. The type that stands in front says how the element is read. -/
theorem roundTrips_scalar : scalar.RoundTrips :=
  (roundTrips_elementType.dependent roundTrips_element).via _ _ fun _ => rfl

/-- Buffers. Their type, written once, says how all elements are read. -/
theorem roundTrips_buffer : buffer.RoundTrips :=
  ((roundTrips_elementType.dependent fun type => (roundTrips_element type).list).pair
    roundTrips_bool).via _ _ fun _ => rfl

/-- A form and what is written behind it are read back if, after the form, the reader takes
    what was written there. -/
theorem form_then {forms : Nat} (few : forms ≤ 2 ^ 32) (form : Fin forms)
    (next : Fin forms → Reader α) (written rest : List UInt8) (value : α)
    (taken : next form (written ++ rest) = .ok (value, rest)) :
    ((variant forms).decode >>= next) (((variant forms).encode form ++ written) ++ rest) =
      .ok (value, rest) := by
  have formRead := (roundTrips_variant forms few).faithful form (by decide : 4 < 2 ^ 64)
  rw [List.append_assoc, bind_ok _ _ _ _ _ (formRead _), taken]

/-- What is written behind a form is shorter than the whole. -/
theorem small_after {first second : List UInt8} (small : (first ++ second).length < 2 ^ 64) :
    second.length < 2 ^ 64 := by
  rw [List.length_append] at small
  omega

/-- Parameter values of every form. -/
theorem roundTrips_value : value.RoundTrips where
  positive content := by cases content <;> exact Nat.succ_pos _
  faithful content small rest := by
    cases content with
    | scalar s =>
      have read := roundTrips_scalar.faithful s (small_after small) rest
      exact form_then (by decide) 0 _ _ rest _ (bind_ok _ _ _ _ _ read)
    | text words =>
      have read := roundTrips_text.faithful words (small_after small) rest
      exact form_then (by decide) 1 _ _ rest _ (bind_ok _ _ _ _ _ read)
    | sequence items =>
      have read := roundTrips_scalar.list.faithful items (small_after small) rest
      exact form_then (by decide) 2 _ _ rest _ (bind_ok _ _ _ _ _ read)

/-- Reindexing rules of both forms. -/
theorem roundTrips_reindex : reindex.RoundTrips where
  positive rule := by cases rule <;> exact Nat.succ_pos _
  faithful rule small rest := by
    cases rule with
    | range offset length =>
      have read := (roundTrips_uint64.pair roundTrips_uint64).faithful (offset, length)
        (small_after small) rest
      exact form_then (by decide) 0 _ _ rest _ (bind_ok _ _ _ _ _ read)
    | indices positions =>
      have read := roundTrips_uint64.list.faithful positions (small_after small) rest
      exact form_then (by decide) 1 _ _ rest _ (bind_ok _ _ _ _ _ read)

/-- Records of regions, one field after the other. -/
theorem roundTrips_regionRecord : regionRecord.RoundTrips :=
  (roundTrips_text.pair (roundTrips_value.nameMap.pair (roundTrips_uint8.list.pair
    (roundTrips_buffer.nameMap.pair roundTrips_bool)))).via _ _ fun _ => rfl

/-- What is recorded of a link that does not change while the network runs. -/
theorem roundTrips_linkSpec : linkSpec.RoundTrips :=
  (roundTrips_text.pair (roundTrips_text.pair (roundTrips_text.pair (roundTrips_text.pair
    (roundTrips_reindex.option.pair roundTrips_uint32))))).via _ _ fun _ => rfl

/-- Records of links, with the snapshots that are on their way. -/
theorem roundTrips_linkRecord : linkRecord.RoundTrips :=
  (roundTrips_linkSpec.pair roundTrips_buffer.list).via _ _ fun _ => rfl

/-- The name and the type of a region. -/
theorem roundTrips_regionEntry : regionEntry.RoundTrips :=
  (roundTrips_text.pair roundTrips_text).via _ _ fun _ => rfl

/-- Topologies: all regions, all links and the number of cycles. -/
theorem roundTrips_topology : topology.RoundTrips :=
  (roundTrips_regionEntry.list.pair (roundTrips_linkRecord.list.pair roundTrips_uint64)).via _ _
    fun _ => rfl

/-- What is told about a bundle, tags included. -/
theorem roundTrips_metadata : metadata.RoundTrips :=
  roundTrips_uint64.pair (roundTrips_text.pair (roundTrips_text.pair
    (roundTrips_text.pair roundTrips_text).list))

/-- All that a bundle holds, in the order in which it is written. -/
theorem roundTrips_bundleFields : bundleFields.RoundTrips :=
  roundTrips_uint32.pair (roundTrips_metadata.pair (roundTrips_topology.option.pair
    roundTrips_regionRecord.nameMap))

end Codec

namespace Bundle

/-- A bundle is read back from its contents, whatever order its tags were written in, and
    whatever follows is left. -/
theorem decode_encodeTagged (bundle : Bundle) (tags : List (String × String))
    (order : tags.Perm bundle.metadata.tags.entries)
    (small : (bundle.encodeTagged tags).length < 2 ^ 64) (rest : List UInt8) :
    codec.decode (bundle.encodeTagged tags ++ rest) = .ok (bundle, rest) := by
  have read := Codec.roundTrips_bundleFields.faithful _ small rest
  refine (Codec.bind_ok Codec.bundleFields.decode _ _ _ _ read).trans ?_
  dsimp only
  rw [NameMap.ofList_of_perm _ tags order]
  rfl

end Bundle

end RegionGraph
