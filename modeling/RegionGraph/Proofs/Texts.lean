import RegionGraph.Text.Utf8

/-!
# Texts in bytes

A text written as UTF-8 is read back. A character is written in one of four forms,
chosen by its number. The first byte of a longer form announces how many bytes follow
and which second bytes are allowed, so for every form it is shown what the first byte
announces, and then that the reader takes the character and goes on behind it. A whole
text follows by induction on its characters.

The forms also keep the order: of two texts the lesser has the lesser bytes.
-/

namespace RegionGraph.Utf8

/-- The number of a character is below the greatest and none of a surrogate. -/
theorem number_valid (c : Char) : c.toNat < 0xD800 ∨ 0xDFFF < c.toNat ∧ c.toNat < 0x110000 :=
  c.valid

/-- A byte made of a small number is that number. -/
theorem toNat_byte (number : Nat) (small : number < 256) :
    (UInt8.ofNat number).toNat = number := by
  rw [UInt8.toNat_ofNat', Nat.mod_eq_of_lt small]

/-- A byte that carries six bits continues a run. -/
theorem continues_low (bits : Nat) (small : bits < 64) :
    continues (UInt8.ofNat (0x80 + bits)) = true := by
  rw [continues, toNat_byte _ (by omega)]
  simp only [Bool.and_eq_true, decide_eq_true_eq]
  omega

/-- A byte announces a run of a number of further bytes behind the second, carries
    some bits of the character, and lets a second byte pass. -/
structure Announces (byte bits more second : Nat) : Prop where
  large : 0x80 ≤ byte
  announced : ∃ least greatest, Lead.of? byte = some ⟨bits, least, greatest, more⟩ ∧
    least ≤ second ∧ second ≤ greatest

/-- The first byte of two, for numbers that need more than seven bits. -/
theorem announces_two (number : Nat) (large : 0x80 ≤ number) (small : number < 0x800) :
    Announces (0xC0 + number / 64) (number / 64) 0 (0x80 + number % 64) := by
  refine ⟨by omega, 0x80, 0xBF, ?_, by omega, by omega⟩
  rw [Lead.of?, if_pos (by omega), Nat.add_sub_cancel_left]

/-- The first byte of three. Numbers that fit two bytes and those of surrogates would
    need second bytes that two of these first bytes do not allow. -/
theorem announces_three (number : Nat) (large : 0x800 ≤ number) (small : number < 0x10000)
    (valid : number < 0xD800 ∨ 0xDFFF < number) :
    Announces (0xE0 + number / 4096) (number / 4096) 1 (0x80 + number / 64 % 64) := by
  refine ⟨by omega, ?_⟩
  rw [Lead.of?, if_neg (by omega)]
  by_cases least : number / 4096 = 0
  · rw [least]
    exact ⟨0xA0, 0xBF, rfl, by omega, by omega⟩
  · rw [if_neg (by omega)]
    by_cases surrogate : number / 4096 = 0xD
    · rw [surrogate]
      exact ⟨0x80, 0x9F, rfl, by omega, by omega⟩
    · rw [if_neg (by omega), if_pos (by omega), Nat.add_sub_cancel_left]
      exact ⟨0x80, 0xBF, rfl, by omega, by omega⟩

/-- The first byte of four. Numbers that fit three bytes and those past the greatest
    are left out by what two of these first bytes allow. -/
theorem announces_four (number : Nat) (large : 0x10000 ≤ number) (small : number < 0x110000) :
    Announces (0xF0 + number / 262144) (number / 262144) 2 (0x80 + number / 4096 % 64) := by
  refine ⟨by omega, ?_⟩
  rw [Lead.of?, if_neg (by omega), if_neg (by omega), if_neg (by omega), if_neg (by omega)]
  by_cases least : number / 262144 = 0
  · rw [least]
    exact ⟨0x90, 0xBF, rfl, by omega, by omega⟩
  · rw [if_neg (by omega)]
    by_cases greatest : number / 262144 = 4
    · rw [greatest]
      exact ⟨0x80, 0x8F, rfl, by omega, by omega⟩
    · rw [if_pos (by omega), Nat.add_sub_cancel_left]
      exact ⟨0x80, 0xBF, rfl, by omega, by omega⟩

variable {first second third fourth : UInt8} {bits : Nat}

/-- Reading past a run of two bytes. -/
theorem scan_run_two (announces : Announces first.toNat bits 0 second.toNat) (index : Nat)
    (rest : List UInt8) :
    scan index (first :: second :: rest) =
      (scan (index + 2) rest).map (Char.ofNat (bits * 64 + (second.toNat - 0x80)) :: ·) := by
  obtain ⟨large, least, greatest, found, above, below⟩ := announces
  rw [scan.eq_def]
  dsimp only
  rw [if_neg (by omega), found]
  dsimp only
  rw [if_neg (by omega)]
  rfl

/-- Reading past a run of three bytes. -/
theorem scan_run_three (announces : Announces first.toNat bits 1 second.toNat)
    (last : continues third = true) (index : Nat) (rest : List UInt8) :
    scan index (first :: second :: third :: rest) =
      (scan (index + 3) rest).map (Char.ofNat
        ((bits * 64 + (second.toNat - 0x80)) * 64 + (third.toNat - 0x80)) :: ·) := by
  obtain ⟨large, least, greatest, found, above, below⟩ := announces
  rw [scan.eq_def]
  dsimp only
  rw [if_neg (by omega), found]
  dsimp only
  rw [if_neg (by omega)]
  change ite (¬continues third = true) _ _ = _
  rw [if_neg (not_not_intro last)]
  rfl

/-- Reading past a run of four bytes. -/
theorem scan_run_four (announces : Announces first.toNat bits 2 second.toNat)
    (middle : continues third = true) (last : continues fourth = true) (index : Nat)
    (rest : List UInt8) :
    scan index (first :: second :: third :: fourth :: rest) =
      (scan (index + 4) rest).map (Char.ofNat
        (((bits * 64 + (second.toNat - 0x80)) * 64 + (third.toNat - 0x80)) * 64 +
          (fourth.toNat - 0x80)) :: ·) := by
  obtain ⟨large, least, greatest, found, above, below⟩ := announces
  rw [scan.eq_def]
  dsimp only
  rw [if_neg (by omega), found]
  dsimp only
  rw [if_neg (by omega)]
  change ite (¬continues third = true) _ _ = _
  rw [if_neg (not_not_intro middle)]
  change ite (¬continues fourth = true) _ _ = _
  rw [if_neg (not_not_intro last)]

/-- A character in front of any bytes is read, and the reader goes on behind it. -/
theorem scan_encodeChar (c : Char) (index : Nat) (rest : List UInt8) :
    scan index (encodeChar c ++ rest) =
      (scan (index + (encodeChar c).length) rest).map (c :: ·) := by
  have valid := number_valid c
  rw [encodeChar]
  split
  case isTrue one =>
    rw [List.cons_append, List.nil_append, scan.eq_def]
    dsimp only
    rw [toNat_byte _ (by omega), if_pos one, Char.ofNat_toNat]
    rfl
  case isFalse notOne =>
    split
    case isTrue two =>
      have announces := announces_two c.toNat (by omega) two
      rw [← toNat_byte (0xC0 + c.toNat / 64) (by omega),
        ← toNat_byte (0x80 + c.toNat % 64) (by omega)] at announces
      have number : c.toNat / 64 * 64 + (0x80 + c.toNat % 64 - 0x80) = c.toNat := by omega
      rw [List.cons_append, List.cons_append, List.nil_append, scan_run_two announces,
        toNat_byte _ (by omega), number, Char.ofNat_toNat]
      rfl
    case isFalse notTwo =>
      split
      case isTrue three =>
        have announces := announces_three c.toNat (by omega) three (by omega)
        rw [← toNat_byte (0xE0 + c.toNat / 4096) (by omega),
          ← toNat_byte (0x80 + c.toNat / 64 % 64) (by omega)] at announces
        have number : (c.toNat / 4096 * 64 + (0x80 + c.toNat / 64 % 64 - 0x80)) * 64 +
            (0x80 + c.toNat % 64 - 0x80) = c.toNat := by omega
        rw [List.cons_append, List.cons_append, List.cons_append, List.nil_append,
          scan_run_three announces (continues_low _ (by omega)), toNat_byte _ (by omega),
          toNat_byte _ (by omega), number, Char.ofNat_toNat]
        rfl
      case isFalse notThree =>
        have announces := announces_four c.toNat (by omega) (by omega)
        rw [← toNat_byte (0xF0 + c.toNat / 262144) (by omega),
          ← toNat_byte (0x80 + c.toNat / 4096 % 64) (by omega)] at announces
        have number : ((c.toNat / 262144 * 64 + (0x80 + c.toNat / 4096 % 64 - 0x80)) * 64 +
            (0x80 + c.toNat / 64 % 64 - 0x80)) * 64 + (0x80 + c.toNat % 64 - 0x80) = c.toNat := by
          omega
        rw [List.cons_append, List.cons_append, List.cons_append, List.cons_append, List.nil_append,
          scan_run_four announces (continues_low _ (by omega)) (continues_low _ (by omega)),
          toNat_byte _ (by omega), toNat_byte _ (by omega), toNat_byte _ (by omega), number,
          Char.ofNat_toNat]
        rfl

/-- The characters of a text are read back, wherever reading starts to count. -/
theorem scan_flatMap (characters : List Char) (index : Nat) :
    scan index (characters.flatMap encodeChar) = .ok characters := by
  induction characters generalizing index with
  | nil => rw [List.flatMap_nil, scan]
  | cons c others inductionHypothesis =>
    rw [List.flatMap_cons, scan_encodeChar, inductionHypothesis]
    rfl

/-- A text is read back from its bytes. -/
theorem decode_encode (text : String) : decode (encode text) = .ok text := by
  rw [decode, encode, scan_flatMap]
  exact congrArg Except.ok (String.ofList_toList)

/-! ### Order -/

/-- Bytes made of small numbers are ordered as these. -/
theorem byte_lt_iff (number other : Nat) (small : number < 256) (smallOther : other < 256) :
    UInt8.ofNat number < UInt8.ofNat other ↔ number < other := by
  rw [UInt8.lt_iff_toNat_lt, toNat_byte number small, toNat_byte other smallOther]

/-- Bytes made of small numbers are the same if these are. -/
theorem byte_eq_iff (number other : Nat) (small : number < 256) (smallOther : other < 256) :
    UInt8.ofNat number = UInt8.ofNat other ↔ number = other := by
  rw [← UInt8.toNat_inj, toNat_byte number small, toNat_byte other smallOther]

/-- The bytes of a lesser character come first, whatever follows. -/
theorem encodeChar_lt (c d : Char) (less : c.toNat < d.toNat) (rest other : List UInt8) :
    encodeChar c ++ rest < encodeChar d ++ other := by
  have valid := number_valid c
  have validOther := number_valid d
  rw [encodeChar, encodeChar]
  generalize c.toNat = number at *
  generalize d.toNat = greater at *
  split
  case isTrue one =>
    (repeat' split) <;> simp (disch := omega) only [List.cons_append, List.nil_append,
      List.cons_lt_cons_iff, byte_lt_iff, byte_eq_iff] <;> omega
  case isFalse notOne =>
    rw [if_neg (by omega : ¬greater < 128)]
    split
    case isTrue two =>
      (repeat' split) <;> simp (disch := omega) only [List.cons_append, List.nil_append,
        List.cons_lt_cons_iff, byte_lt_iff, byte_eq_iff] <;> omega
    case isFalse notTwo =>
      rw [if_neg (by omega : ¬greater < 0x800)]
      split
      case isTrue three =>
        (repeat' split) <;> simp (disch := omega) only [List.cons_append, List.nil_append,
          List.cons_lt_cons_iff, byte_lt_iff, byte_eq_iff] <;> omega
      case isFalse notThree =>
        rw [if_neg (by omega : ¬greater < 0x10000)]
        simp (disch := omega) only [List.cons_append, List.nil_append, List.cons_lt_cons_iff,
          byte_lt_iff, byte_eq_iff]
        omega

/-- A character has bytes. -/
theorem encodeChar_ne_nil (c : Char) : encodeChar c ≠ [] := by
  rw [encodeChar]
  (repeat' split) <;> exact List.cons_ne_nil _ _

/-- The bytes of lesser characters come first. -/
theorem flatMap_lt (characters others : List Char) (less : characters < others) :
    characters.flatMap encodeChar < others.flatMap encodeChar := by
  induction less with
  | @nil c rest =>
    rw [List.flatMap_nil, List.flatMap_cons]
    obtain ⟨byte, bytes, run⟩ := List.exists_cons_of_ne_nil (encodeChar_ne_nil c)
    rw [run]
    exact List.Lex.nil
  | cons same inductionHypothesis =>
    rw [List.flatMap_cons, List.flatMap_cons]
    exact List.append_left_lt inductionHypothesis
  | rel less => exact encodeChar_lt _ _ less _ _

/-- Texts are ordered as their bytes. -/
theorem encode_lt_iff (text other : String) : encode text < encode other ↔ text < other := by
  constructor
  · intro bytes
    refine Decidable.byContradiction fun notLess => ?_
    by_cases greater : other < text
    · exact List.lt_asymm bytes (flatMap_lt other.toList text.toList greater)
    · have same := String.le_antisymm (String.not_lt.mp greater) (String.not_lt.mp notLess)
      exact List.lt_irrefl _ (same ▸ bytes)
  · exact flatMap_lt text.toList other.toList

end RegionGraph.Utf8
