import RegionGraph.Codec
import RegionGraph.Proofs.Traversal

/-!
# Codecs that read what they wrote

A codec is faithful to a value if it reads the value back from the front of any bytes
that begin as it wrote them, and leaves what follows. Ways to combine codecs pass this
on, so it is shown once for numbers and then carried to the records that are kept of
implementations. Lengths have eight bytes, so a list must not be longer than they can
say.
-/

namespace RegionGraph.Codec

variable {α β : Type}

/-- A codec reads a value back as it wrote it, and leaves what follows. -/
def Faithful (codec : Codec α) (value : α) : Prop :=
  ∀ rest, codec.decode (codec.encode value ++ rest) = .ok (value, rest)

/-- One reader after the other, if the first succeeds. -/
theorem bind_ok (first : Reader α) (next : α → Reader β) (value : α) (bytes rest : List UInt8)
    (read : first bytes = .ok (value, rest)) : (first >>= next) bytes = next value rest := by
  change (first bytes >>= fun outcome => next outcome.1 outcome.2) = _
  rw [read]
  rfl

/-- A number is read back but for what does not fit its width. -/
theorem readLittleEndian_littleEndian (width number : Nat) (rest : List UInt8) :
    readLittleEndian width (littleEndian width number ++ rest) =
      .ok (number % 256 ^ width, rest) := by
  induction width generalizing number with
  | zero => rw [Nat.pow_zero, Nat.mod_one]; rfl
  | succ more inductionHypothesis =>
    rw [readLittleEndian, littleEndian, List.cons_append,
      bind_ok readByte _ _ _ _ rfl, bind_ok _ _ _ _ _ (inductionHypothesis (number / 256))]
    have low : (UInt8.ofNat number).toNat = number % 256 := UInt8.toNat_ofNat'
    have split : number % 256 + 256 * (number / 256 % 256 ^ more) = number % 256 ^ (more + 1) := by
      rw [Nat.pow_succ', Nat.mod_mul]
    rw [low, split]
    rfl

/-- Numbers that fit their width are read back. -/
theorem faithful_number (width value : Nat) (fits : value < 256 ^ width) :
    (number width).Faithful value := by
  intro rest
  have read := readLittleEndian_littleEndian width value rest
  rw [Nat.mod_eq_of_lt fits] at read
  exact read

/-- Values in another form are read back if that form is, and packing undoes unpacking. -/
theorem faithful_via (codec : Codec α) (pack : α → β) (unpack : β → α) (value : β)
    (faithful : codec.Faithful (unpack value)) (inverse : pack (unpack value) = value) :
    (codec.via pack unpack).Faithful value := by
  intro rest
  refine (bind_ok codec.decode _ _ _ _ (faithful rest)).trans ?_
  rw [inverse]
  rfl

/-- Words of 64 bits are read back. -/
theorem faithful_uint64 (value : UInt64) : uint64.Faithful value :=
  faithful_via (number 8) _ _ value (faithful_number 8 value.toNat value.toNat_lt) value.ofNat_toNat

/-- Signed words of 64 bits are read back. -/
theorem faithful_int64 (value : Int64) : int64.Faithful value :=
  faithful_via uint64 _ _ value (faithful_uint64 value.toUInt64) rfl

/-- A list of values that are read back is read back, if its length can be said. -/
theorem faithful_list (item : Codec α) (values : List α) (fits : values.length < 2 ^ 64)
    (faithful : ∀ value ∈ values, item.Faithful value) : (list item).Faithful values := by
  have items (rest : List UInt8) :
      readMany item.decode values.length (values.flatMap item.encode ++ rest) =
        .ok (values, rest) := by
    clear fits
    induction values with
    | nil => rfl
    | cons first others inductionHypothesis =>
      rw [List.length_cons, List.flatMap_cons, List.append_assoc, readMany,
        bind_ok _ _ _ _ _ (faithful first List.mem_cons_self _), bind_ok _ _ _ _ _
          (inductionHypothesis (fun value member =>
            faithful value (List.mem_cons_of_mem first member)))]
      rfl
  intro rest
  have length : count.Faithful values.length := faithful_number 8 values.length fits
  rw [list]
  dsimp only
  rw [List.append_assoc, bind_ok count.decode _ _ _ _ (length _)]
  exact items rest

/-- What a codec is faithful to is decoded from its own bytes. -/
theorem decodeAll_encode (codec : Codec α) (value : α) (faithful : codec.Faithful value) :
    codec.decodeAll (codec.encode value) = .ok value := by
  have read := faithful []
  rw [List.append_nil] at read
  rw [decodeAll, read]
  rfl

end RegionGraph.Codec
