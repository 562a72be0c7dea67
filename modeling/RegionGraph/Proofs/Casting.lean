import RegionGraph.Proofs.Conversions

/-!
# Conversion by casting

Casts between whole numbers and floating-point words round to the nearest word and cut off
fractions, so a cast alone does not tell whether anything was lost. Casting back and comparing
tells it: a number that loses something is rounded to a whole number of coarser units, which is
another number (`encode_of_round`), and one that is too large becomes an infinity, which is cut
to the end of the range of 128 bits. So conversion by casting is the exact one (`Scalar.cast?_eq`).
-/

namespace RegionGraph

open Binary (Reading Format single double)

namespace Binary

/-- A reading that stands for zero has no significand. -/
theorem Reading.zero_of_meaning (reading : Reading) (zero : reading.meaning = .number 0) :
    ∃ negative exponent, reading = .finite negative 0 exponent := by
  cases reading with
  | infinite negative => cases zero
  | undefined negative payload => cases zero
  | finite negative significand exponent =>
    rw [Reading.meaning, Meaning.number.injEq] at zero
    have none : significand = 0 := by
      have positive : (0 : ℚ) < 2 ^ exponent := by positivity
      cases negative <;> simpa [signOf, positive.ne'] using zero
    exact ⟨negative, exponent, none ▸ rfl⟩

namespace Format

variable {f : Format} (proper : f.Proper)

/-- The significand that rounding keeps: the nearest whole number of units, an even one for
a tie. -/
def rounded (f : Format) (significand : Nat) (exponent : ℤ) : Nat :=
  let dropped := 2 ^ (f.unitExponent significand exponent - exponent).toNat
  if dropped < 2 * (significand % dropped) ∨
      (2 * (significand % dropped) = dropped ∧ significand / dropped % 2 = 1) then
    significand / dropped + 1
  else significand / dropped

/-- Rounding does not change a number of which nothing is lost. -/
theorem round_of_kept (negative : Bool) (significand : Nat) (exponent : ℤ)
    (kept : significand % 2 ^ (f.unitExponent significand exponent - exponent).toNat = 0) :
    f.round negative significand exponent =
      f.assemble negative (f.written significand exponent)
        (f.unitExponent significand exponent) := by
  have positive := Nat.two_pow_pos (f.unitExponent significand exponent - exponent).toNat
  have down : ¬(2 ^ (f.unitExponent significand exponent - exponent).toNat < 2 * 0 ∨
      (2 * 0 = 2 ^ (f.unitExponent significand exponent - exponent).toNat ∧
      significand / 2 ^ (f.unitExponent significand exponent - exponent).toNat % 2 = 1)) := by
    omega
  simp only [round, kept, if_neg down]
  rfl

/-- A number that is written without loss is rounded to the same word. -/
theorem round_of_encode (negative : Bool) (significand : Nat) (exponent : ℤ) (word : Nat)
    (encoded : f.encode? negative significand exponent = some word) :
    f.round negative significand exponent = word := by
  obtain ⟨kept, same, _⟩ := (encode?_some_iff negative significand exponent word).mp encoded
  rw [round_of_kept negative significand exponent kept, same]

section

include proper

/-- A significand that carries beyond the precision is the least one at the next exponent. -/
theorem assemble_carry (negative : Bool) (unit : ℤ) (above : f.leastExponent ≤ unit) :
    f.assemble negative (2 ^ f.precision) unit =
      f.assemble negative (2 ^ f.fractionBits) (unit + 1) := by
  have next : (unit + 1 - f.leastExponent).toNat = (unit - f.leastExponent).toNat + 1 := by omega
  have whole : ¬2 ^ f.precision < 2 ^ f.fractionBits := by
    rw [two_pow_precision proper]
    omega
  have carried : f.pack false ((unit - f.leastExponent).toNat + 1)
      (2 ^ f.precision - 2 ^ f.fractionBits) =
        f.pack false ((unit - f.leastExponent).toNat + 1 + 1) 0 := by
    rw [pack, pack, two_pow_precision proper, Nat.succ_mul ((unit - f.leastExponent).toNat + 1)]
    omega
  rw [assemble, assemble, if_neg whole, if_neg (Nat.lt_irrefl _), next, Nat.sub_self, carried]

/-- The word of an infinity stands for it. -/
theorem meaning_infinity (negative : Bool) :
    f.meaning (f.infinity negative) = .infinite negative := by
  rw [← meaning_read proper, read_infinity]
  rfl

omit proper in
/-- A number that loses something is rounded to a significand of the given precision, or to the
least that is beyond. -/
theorem rounded_le (significand : Nat) (exponent : ℤ)
    (fine : exponent < f.unitExponent significand exponent) :
    f.rounded significand exponent ≤ 2 ^ f.precision := by
  have width : significand.log2 + 1 ≤
      f.precision + (f.unitExponent significand exponent - exponent).toNat := by
    rw [unitExponent] at fine ⊢
    omega
  have short : significand / 2 ^ (f.unitExponent significand exponent - exponent).toNat <
      2 ^ f.precision := by
    rw [Nat.div_lt_iff_lt_mul (Nat.two_pow_pos _), ← Nat.pow_add]
    exact Nat.lt_log2_self.trans_le (Nat.pow_le_pow_right Nat.two_pos width)
  rw [rounded]
  split <;> omega

/-- A significand without a leading bit is rounded to in the least units only. -/
theorem unit_of_subnormal (significand : Nat) (exponent : ℤ) (some : significand ≠ 0)
    (fine : exponent < f.unitExponent significand exponent)
    (subnormal : f.rounded significand exponent < 2 ^ f.fractionBits) :
    f.unitExponent significand exponent = f.leastExponent := by
  refine Decidable.byContradiction fun normal => ?_
  have bits : f.fractionBits + (f.unitExponent significand exponent - exponent).toNat ≤
      significand.log2 := by
    have precise := proper.leading
    rw [fractionBits]
    rw [unitExponent] at fine normal ⊢
    omega
  have large : 2 ^ f.fractionBits ≤ significand /
      2 ^ (f.unitExponent significand exponent - exponent).toNat := by
    rw [Nat.le_div_iff_mul_le (Nat.two_pow_pos _), ← Nat.pow_add]
    exact (Nat.pow_le_pow_right Nat.two_pos bits).trans (Nat.log2_self_le some)
  have least : significand / 2 ^ (f.unitExponent significand exponent - exponent).toNat ≤
      f.rounded significand exponent := by
    rw [rounded]
    split <;> omega
  omega

/-- A number that loses something is rounded to a whole number of its units, or is too large. -/
theorem round_of_lost (negative : Bool) (significand : Nat) (exponent : ℤ)
    (lost : significand % 2 ^ (f.unitExponent significand exponent - exponent).toNat ≠ 0) :
    f.round negative significand exponent = f.infinity negative ∨
      f.meaning (f.round negative significand exponent) =
        .number (signOf negative *
          (f.rounded significand exponent * 2 ^ f.unitExponent significand exponent)) := by
  have some : significand ≠ 0 := by
    rintro rfl
    exact lost (Nat.zero_mod _)
  have fine : exponent < f.unitExponent significand exponent := by
    refine Decidable.byContradiction fun coarse => lost ?_
    rw [Int.toNat_of_nonpos (by omega), pow_zero, Nat.mod_one]
  have above : f.leastExponent ≤ f.unitExponent significand exponent := le_max_left _ _
  have told : f.round negative significand exponent =
      f.assemble negative (f.rounded significand exponent)
        (f.unitExponent significand exponent) := by
    have none : (exponent - f.unitExponent significand exponent).toNat = 0 := by omega
    simp only [round, none, pow_zero, mul_one]
    rfl
  by_cases infinite : f.round negative significand exponent = f.infinity negative
  · exact Or.inl infinite
  · refine Or.inr ?_
    rw [told] at infinite ⊢
    rw [← meaning_read proper]
    rcases Nat.lt_or_eq_of_le (rounded_le significand exponent fine) with inside | carry
    · exact (meaning_assemble proper negative _ _ inside above (fun small =>
        Or.inr (unit_of_subnormal proper significand exponent some fine small)) infinite).1
    -- Rounding up to a power of two gives the least significand of the next unit.
    · rw [carry, assemble_carry proper negative _ above] at infinite ⊢
      have half : 2 ^ f.fractionBits < 2 ^ f.precision := by
        rw [two_pow_precision proper]
        have positive := Nat.two_pow_pos f.fractionBits
        omega
      rw [(meaning_assemble proper negative _ _ half (by omega)
        (fun small => absurd small (Nat.lt_irrefl _)) infinite).1, two_pow_precision proper]
      congr 2
      push_cast
      rw [zpow_add_one₀ two_ne_zero]
      ring

/-- A number is rounded to a word that stands for it exactly if it is written without loss. -/
theorem encode_of_round (negative : Bool) (significand : Nat) (exponent : ℤ)
    (same : f.meaning (f.round negative significand exponent) =
      (Reading.finite negative significand exponent).meaning) :
    f.encode? negative significand exponent = some (f.round negative significand exponent) := by
  have finite : f.round negative significand exponent ≠ f.infinity negative := by
    intro infinite
    rw [infinite, meaning_infinity proper] at same
    cases same
  have kept : significand % 2 ^ (f.unitExponent significand exponent - exponent).toNat = 0 := by
    refine Decidable.byContradiction fun lost => ?_
    rcases round_of_lost proper negative significand exponent lost with infinite | means
    · exact finite infinite
    · rw [means, Reading.meaning, Meaning.number.injEq] at same
      have sizes : (significand : ℚ) * 2 ^ exponent = f.rounded significand exponent *
          2 ^ f.unitExponent significand exponent := by
        cases negative <;> simpa [signOf] using same.symm
      exact lost (whole_of_eq significand _ exponent _ _ le_rfl sizes)
  exact (encode?_some_iff negative significand exponent _).mpr
    ⟨kept, (round_of_kept negative significand exponent kept).symm, finite⟩

/-- A whole number is rounded to a whole number, or is too large. -/
theorem round_whole (negative : Bool) (natural : Nat) :
    f.round negative natural 0 = f.infinity negative ∨
      ∃ whole : ℤ, f.meaning (f.round negative natural 0) = .number whole := by
  have sign (size : Nat) :
      signOf negative * (size : ℚ) = ((if negative then -size else size : ℤ)) := by
    cases negative <;> simp [signOf]
  by_cases infinite : f.round negative natural 0 = f.infinity negative
  · exact Or.inl infinite
  · refine Or.inr ?_
    by_cases kept : natural % 2 ^ (f.unitExponent natural 0 - 0).toNat = 0
    · have encoded := (encode?_some_iff negative natural 0 _).mpr
        ⟨kept, (round_of_kept negative natural 0 kept).symm, infinite⟩
      have means := (meaning_encode proper negative natural 0 _ encoded).1
      rw [meaning_read proper] at means
      refine ⟨if negative then -natural else natural, means.trans ?_⟩
      rw [Reading.meaning, zpow_zero, mul_one, sign]
    · have units : 0 ≤ f.unitExponent natural 0 := by
        refine Decidable.byContradiction fun below => kept ?_
        rw [Int.toNat_of_nonpos (by omega), pow_zero, Nat.mod_one]
      have means := (round_of_lost proper negative natural 0 kept).resolve_left infinite
      obtain ⟨unit, same⟩ := Int.eq_ofNat_of_zero_le units
      rw [same, zpow_natCast] at means
      have size :
          (f.rounded natural 0 : ℚ) * 2 ^ unit = (f.rounded natural 0 * 2 ^ unit : Nat) := by
        push_cast
        rfl
      rw [size, sign] at means
      exact ⟨_, means⟩

/-- Words compare as equal exactly if both stand for the same number or infinity. -/
theorem same_iff (word other : Nat) (bounded : word < 2 ^ (f.fractionBits + f.exponentBits + 1))
    (boundedOther : other < 2 ^ (f.fractionBits + f.exponentBits + 1)) :
    f.same word other = true ↔
      f.meaning word = f.meaning other ∧ f.meaning word ≠ .undefined := by
  have whole (alike : word = other) (defined : f.meaning word ≠ .undefined) :
      f.meaning word = f.meaning other ∧ f.meaning word ≠ .undefined :=
    ⟨congrArg f.meaning alike, defined⟩
  have back (same : f.meaning word = f.meaning other ∧ f.meaning word ≠ .undefined)
      (nonzero : f.meaning word ≠ .number 0) : word = other :=
    (eq_of_meaning proper word other bounded boundedOther same.1).resolve_right
      (not_or.mpr ⟨nonzero, same.2⟩)
  rw [← meaning_read proper, ← meaning_read proper] at whole back ⊢
  unfold same
  split
  case h_1 negative exponent otherNegative otherExponent found foundOther =>
    simp [found, foundOther, Reading.meaning]
  case h_2 negative payload found =>
    simp [found, Reading.meaning]
  case h_3 defined notZeros =>
    rw [decide_eq_true_iff]
    have known : (f.read word).meaning ≠ .undefined := by
      intro undefined
      cases found : f.read word with
      | undefined negative payload => exact defined negative payload found
      | infinite => rw [found] at undefined; cases undefined
      | finite => rw [found] at undefined; cases undefined
    refine ⟨fun alike => whole alike known, fun same => ?_⟩
    by_cases zero : (f.read word).meaning = .number 0
    · obtain ⟨negative, exponent, found⟩ := Reading.zero_of_meaning _ zero
      obtain ⟨otherNegative, otherExponent, foundOther⟩ :=
        Reading.zero_of_meaning _ (same.1.symm.trans zero)
      exact (notZeros negative exponent otherNegative otherExponent found foundOther).elim
    · exact back same zero

end

/-- The word nearest to what a reading stands for. -/
def nearest (f : Format) : Reading → Nat
  | .finite negative significand exponent => f.round negative significand exponent
  | .infinite negative => f.infinity negative
  | .undefined negative payload => f.undefinedWord negative payload

/-- What is written without loss is written as the nearest word. -/
theorem nearest_of_write (reading : Reading) (word : Nat)
    (written : f.write? reading = some word) : f.nearest reading = word := by
  cases reading with
  | finite negative significand exponent =>
    exact round_of_encode negative significand exponent word written
  | infinite negative => exact Option.some.inj written
  | undefined negative payload => exact Option.some.inj written

/-- Every word of 32 bits is written without loss in 64 bits. -/
theorem widened (word : Nat) :
    double.write? (single.read word) = some (double.nearest (single.read word)) := by
  suffices held : ∃ wide, double.write? (single.read word) = some wide by
    obtain ⟨wide, written⟩ := held
    rw [written, nearest_of_write _ _ written]
  cases found : single.read word with
  | infinite negative => exact ⟨_, rfl⟩
  | undefined negative payload => exact ⟨_, rfl⟩
  | finite negative significand exponent =>
    obtain ⟨fits, above, bounded, _⟩ :=
      read_finite single_proper word negative significand exponent found
    have least : single.leastExponent = -149 := rfl
    have leastWide : double.leastExponent = -1074 := rfl
    have reserved : single.reserved = 255 := rfl
    have reservedWide : double.reserved = 2047 := rfl
    have precisionWide : double.precision = 53 := rfl
    rw [least] at above bounded
    rw [reserved] at bounded
    have bits : significand.log2 < 24 := by
      rcases Nat.eq_zero_or_pos significand with rfl | positive
      · decide
      · exact (Nat.log2_lt positive.ne').mpr fits
    have unit : double.unitExponent significand exponent ≤ exponent := by
      rw [unitExponent, leastWide, precisionWide]
      omega
    have kept :
        significand % 2 ^ (double.unitExponent significand exponent - exponent).toNat = 0 := by
      rw [Int.toNat_of_nonpos (by omega), pow_zero, Nat.mod_one]
    have fitsWide := written_lt significand exponent kept
    refine ⟨_, (encode?_some_iff negative significand exponent _).mpr ⟨kept, rfl, ?_⟩⟩
    rw [assemble_eq double_proper negative _ _ fitsWide]
    split
    case isTrue subnormal =>
      exact pack_ne_infinity negative negative 0 _ (by decide) subnormal
    case isFalse normal =>
      rw [two_pow_precision double_proper] at fitsWide
      rw [leastWide, reservedWide, if_pos (by omega)]
      exact pack_ne_infinity negative negative _ _ (by omega) (by omega)

end Format

/-- A whole number, or the nearest one that takes 128 bits with its sign. -/
def saturate (whole : ℤ) : ℤ := max (-2 ^ 127) (min whole (2 ^ 127 - 1))

/-- The whole number that is left of a reading without its fraction, cut to 128 bits. -/
def Reading.truncated : Reading → ℤ
  | .finite negative significand exponent =>
    let size : ℤ := ↑(significand / 2 ^ (-exponent).toNat * 2 ^ exponent.toNat)
    saturate (if negative then -size else size)
  | .infinite negative => if negative then -2 ^ 127 else 2 ^ 127 - 1
  | .undefined _ _ => 0

/-- Whole numbers of 64 bits take no more than 128. -/
theorem saturate_eq (whole : ℤ) (small : whole.natAbs < 2 ^ 127) : saturate whole = whole := by
  rw [saturate]
  omega

/-- A reading that is a whole number is cut to it, if it takes 128 bits. -/
theorem Reading.truncated_of_whole (reading : Reading) (whole : ℤ)
    (told : ElementType.ofReading?.whole? reading = some whole) :
    reading.truncated = saturate whole := by
  cases reading with
  | infinite negative => cases told
  | undefined negative payload => cases told
  | finite negative significand exponent =>
    rw [ElementType.ofReading?.whole?] at told
    split at told
    · rw [← Option.some.inj told]
      rfl
    · cases told

/-- An infinity is cut to a number of more than 64 bits. -/
theorem Reading.truncated_infinite (negative : Bool) (whole : ℤ) (small : whole.natAbs < 2 ^ 64) :
    (Reading.infinite negative).truncated ≠ whole := by
  rw [Reading.truncated]
  cases negative <;> simp <;> omega

section

variable {f : Format} (proper : f.Proper)

include proper

/-- A whole number of 64 bits that is rounded and cut again comes back exactly if it was written
without loss. -/
theorem truncated_round_iff (whole : ℤ) (small : whole.natAbs < 2 ^ 64) :
    (f.read (f.round (whole < 0) whole.natAbs 0)).truncated = whole ↔
      f.encode? (whole < 0) whole.natAbs 0 = some (f.round (whole < 0) whole.natAbs 0) := by
  have means := Reading.meaning_whole whole
  have fits : whole.natAbs < 2 ^ 127 := small.trans (by decide)
  constructor
  · intro back
    refine Format.encode_of_round proper _ _ _ (means.symm ▸ ?_)
    rcases Format.round_whole proper (whole < 0) whole.natAbs with infinite | ⟨result, same⟩
    · exfalso
      rw [infinite, Format.read_infinity] at back
      exact Reading.truncated_infinite _ whole small back
    · rw [same]
      rw [← Format.meaning_read proper, ← ElementType.whole?_some_iff] at same
      rw [Reading.truncated_of_whole _ _ same, saturate] at back
      have equal : result = whole := by omega
      rw [equal]
  · intro encoded
    have same := (Format.meaning_encode proper _ _ _ _ encoded).1
    rw [means, ← ElementType.whole?_some_iff] at same
    rw [Reading.truncated_of_whole _ _ same, saturate_eq whole fits]

/-- Casting a whole number of 64 bits there and back writes it without loss or not at all. -/
theorem castBack_eq (whole : ℤ) (small : whole.natAbs < 2 ^ 64) :
    (if (f.read (f.round (whole < 0) whole.natAbs 0)).truncated = whole then
      some (f.round (whole < 0) whole.natAbs 0) else none) =
        f.encode? (whole < 0) whole.natAbs 0 := by
  split
  case isTrue back => exact ((truncated_round_iff proper whole small).mp back).symm
  case isFalse lost =>
    refine (Option.eq_none_iff_forall_ne_some.mpr fun word encoded => lost ?_).symm
    rw [truncated_round_iff proper whole small, Format.round_of_encode _ _ _ _ encoded, encoded]

end

end Binary

namespace ElementType

/-- The element of a type for a whole number: floating-point words are the nearest ones, if they
are cut to the number again. -/
def castWhole? (type : ElementType) (whole : ℤ) : Option type.Carrier :=
  match type with
  | real32 =>
    let word := single.round (whole < 0) whole.natAbs 0
    if (single.read word).truncated = whole then some ⟨UInt32.ofNat word⟩ else none
  | real64 =>
    let word := double.round (whole < 0) whole.natAbs 0
    if (double.read word).truncated = whole then some ⟨UInt64.ofNat word⟩ else none
  | other => other.ofInt? whole

/-- The size beyond which no word is taken for a whole number: the word nearest to the thirtieth
power of ten. -/
def castLimit : Nat := 1000000000000000019884624838656

/-- The element of a type for a word of 64 bits: words of 32 bits are the nearest ones, if they
compare as equal to it, and whole numbers come from words without fraction within the limit. -/
def castWord? (type : ElementType) (word : Nat) : Option type.Carrier :=
  match type with
  | real64 => some ⟨UInt64.ofNat word⟩
  | real32 =>
    let narrow := single.nearest (double.read word)
    let wide := double.nearest (single.read narrow)
    match double.read word with
    | .undefined _ _ => some ⟨UInt32.ofNat narrow⟩
    | _ => if double.same wide word then some ⟨UInt32.ofNat narrow⟩ else none
  | bool | handle => none
  | other =>
    match double.read word with
    | .finite negative significand exponent =>
      if significand % 2 ^ (-exponent).toNat ≠ 0 ∨
          castLimit * 2 ^ (-exponent).toNat < significand * 2 ^ exponent.toNat then none
      else other.ofInt? (Reading.finite negative significand exponent).truncated
    | .infinite _ | .undefined _ _ => none

/-- The word of 64 bits for an element of a floating-point type. -/
def castUp? : (type : ElementType) → type.Carrier → Option Nat
  | real32, value => some (double.nearest (single.read value.bits.toNat))
  | real64, value => some value.bits.toNat
  | _, _ => none

/-- A whole number is cast exactly if it is written without loss. -/
theorem castWhole?_eq (type : ElementType) (whole : ℤ) (small : whole.natAbs < 2 ^ 64) :
    type.castWhole? whole = type.ofReading? (.finite (whole < 0) whole.natAbs 0) := by
  have told : ofReading?.whole? (.finite (whole < 0) whole.natAbs 0) = some whole :=
    (whole?_some_iff _ whole).mpr (Reading.meaning_whole whole)
  rcases type.real_cases with rfl | rfl | real
  · rw [castWhole?, ofReading?, Format.write?,
      ← Binary.castBack_eq Binary.Format.single_proper whole small]
    split <;> rfl
  · rw [castWhole?, ofReading?, Format.write?,
      ← Binary.castBack_eq Binary.Format.double_proper whole small]
    split <;> rfl
  · rw [ofReading?_whole type real, told]
    cases type <;> first | rfl | cases real

/-- Readings that stand for the same give the same elements, other than floating-point ones. -/
theorem ofReading?_congr (type : ElementType) (whole : type.isReal = false)
    (reading other : Reading) (same : reading.meaning = other.meaning) :
    type.ofReading? reading = type.ofReading? other := by
  have told : ofReading?.whole? reading = ofReading?.whole? other := by
    ext number
    rw [whole?_some_iff, whole?_some_iff, same]
  rw [ofReading?_whole type whole, ofReading?_whole type whole, told]

/-- Whole numbers that are elements take at most 64 bits. -/
theorem natAbs_lt_of_integer (type : ElementType) (value : type.Carrier) (whole : ℤ)
    (found : type.integer? value = some whole) : whole.natAbs < 2 ^ 64 := by
  have unsigned (natural : Nat) (bound : natural < 2 ^ 64)
      (same : some (natural : ℤ) = some whole) :
      whole.natAbs < 2 ^ 64 := by
    rw [← Option.some.inj same]
    exact bound
  have signed (number : ℤ) (low : -2 ^ 63 ≤ number) (high : number < 2 ^ 63)
      (same : some number = some whole) : whole.natAbs < 2 ^ 64 := by
    rw [← Option.some.inj same]
    omega
  cases type with
  | byte => exact unsigned _ (value.toNat_lt.trans (by decide)) found
  | uint16 => exact unsigned _ (value.toNat_lt.trans (by decide)) found
  | uint32 => exact unsigned _ (value.toNat_lt.trans (by decide)) found
  | uint64 => exact unsigned _ value.toNat_lt found
  | int16 =>
    exact signed _ (le_trans (by decide) value.le_toInt) (value.toInt_lt.trans (by decide)) found
  | int32 =>
    exact signed _ (le_trans (by decide) value.le_toInt) (value.toInt_lt.trans (by decide)) found
  | int64 => exact signed _ value.le_toInt value.toInt_lt found
  | real32 => cases found
  | real64 => cases found
  | bool => cases found
  | handle => cases found

/-- What lies beyond the limit is no element. -/
theorem ofInt?_beyond (type : ElementType) (whole : ℤ) (beyond : castLimit < whole.natAbs) :
    type.ofInt? whole = none := by
  refine Option.eq_none_iff_forall_ne_some.mpr fun value found => ?_
  have small := type.natAbs_lt_of_integer value whole ((ofInt?_some_iff type whole value).mp found)
  rw [castLimit] at beyond
  omega

/-- A finite word is cast to a whole number exactly if it stands for one. -/
theorem castFinite_eq (type : ElementType) (negative : Bool) (significand : Nat) (exponent : ℤ) :
    (if significand % 2 ^ (-exponent).toNat ≠ 0 ∨
        castLimit * 2 ^ (-exponent).toNat < significand * 2 ^ exponent.toNat then none
      else type.ofInt? (Reading.finite negative significand exponent).truncated) =
    (ofReading?.whole? (.finite negative significand exponent)).bind type.ofInt? := by
  by_cases fraction : significand % 2 ^ (-exponent).toNat = 0
  · cases told : ofReading?.whole? (.finite negative significand exponent) with
    | none => rw [ofReading?.whole?, if_pos fraction] at told; cases told
    | some whole =>
      have size : whole.natAbs * 2 ^ (-exponent).toNat = significand * 2 ^ exponent.toNat := by
        rw [ofReading?.whole?, if_pos fraction, Option.some.injEq] at told
        have parts := Nat.div_mul_cancel (Nat.dvd_of_mod_eq_zero fraction)
        have natural : whole.natAbs = significand / 2 ^ (-exponent).toNat * 2 ^ exponent.toNat := by
          rw [← told]
          cases negative
          · exact Int.natAbs_natCast _
          · exact (Int.natAbs_neg _).trans (Int.natAbs_natCast _)
        rw [natural, Nat.mul_right_comm, parts]
      have limits : castLimit * 2 ^ (-exponent).toNat < significand * 2 ^ exponent.toNat ↔
          castLimit < whole.natAbs := by
        rw [← size, Nat.mul_lt_mul_right (Nat.two_pow_pos _)]
      rw [Option.bind_some, Reading.truncated_of_whole _ whole told]
      by_cases beyond : castLimit < whole.natAbs
      · rw [if_pos (Or.inr (limits.mpr beyond)), type.ofInt?_beyond whole beyond]
      · rw [if_neg (not_or.mpr ⟨not_not_intro fraction, mt limits.mp beyond⟩), Binary.saturate_eq]
        rw [castLimit] at beyond
        omega
  · rw [if_pos (Or.inl fraction), ofReading?.whole?, if_neg fraction, Option.bind_none]

/-- A word is cast to a whole number exactly if it stands for one. -/
theorem castWord?_whole (type : ElementType) (real : type.isReal = false) (word : Nat) :
    type.castWord? word = type.ofReading? (double.read word) := by
  have integer (other : ElementType) :
      (match double.read word with
        | .finite negative significand exponent =>
          if significand % 2 ^ (-exponent).toNat ≠ 0 ∨
              castLimit * 2 ^ (-exponent).toNat < significand * 2 ^ exponent.toNat then none
          else other.ofInt? (Reading.finite negative significand exponent).truncated
        | .infinite _ | .undefined _ _ => none) =
      (ofReading?.whole? (double.read word)).bind other.ofInt? := by
    cases double.read word with
    | finite negative significand exponent =>
      exact other.castFinite_eq negative significand exponent
    | infinite negative => rfl
    | undefined negative payload => rfl
  rw [ofReading?_whole type real]
  have nothing :
      (none : Option Bool) = (ofReading?.whole? (double.read word)).bind bool.ofInt? := by
    cases ofReading?.whole? (double.read word) <;> rfl
  have nowhere : (none : Option Handle) =
      (ofReading?.whole? (double.read word)).bind handle.ofInt? := by
    cases ofReading?.whole? (double.read word) <;> rfl
  cases type with
  | real32 => cases real
  | real64 => cases real
  | bool => exact nothing
  | handle => exact nowhere
  | byte => exact integer byte
  | int16 => exact integer int16
  | uint16 => exact integer uint16
  | int32 => exact integer int32
  | uint32 => exact integer uint32
  | int64 => exact integer int64
  | uint64 => exact integer uint64

/-- A word is cast to 32 bits exactly if it is written in them without loss. -/
theorem castWord?_narrow (word : Nat) (bounded : word < 2 ^ 64) :
    real32.castWord? word = real32.ofReading? (double.read word) := by
  have defined (reading : Reading) (known : reading.meaning ≠ .undefined)
      (read : double.read word = reading)
      (back : double.meaning word = single.meaning (single.nearest reading) →
        single.write? reading = some (single.nearest reading)) :
      (if double.same (double.nearest (single.read (single.nearest reading))) word then
        some (Real32.mk (UInt32.ofNat (single.nearest reading))) else none) =
        real32.ofReading? reading := by
    have fits := Binary.Format.fits_read Binary.Format.single_proper (single.nearest reading)
    obtain ⟨means, small⟩ := Binary.Format.meaning_write Binary.Format.double_proper _ fits _
      (Binary.Format.widened (single.nearest reading))
    rw [Binary.Format.meaning_read Binary.Format.single_proper] at means
    have stands : double.meaning word = reading.meaning := by
      rw [← read, Binary.Format.meaning_read Binary.Format.double_proper]
    rw [ofReading?]
    by_cases same : double.same (double.nearest (single.read (single.nearest reading))) word = true
    · obtain ⟨alike, _⟩ :=
        (Binary.Format.same_iff Binary.Format.double_proper _ _ small bounded).mp same
      rw [if_pos same, back (alike.symm.trans means), Option.map_some]
    · rw [if_neg same]
      refine (Option.map_eq_none_iff.mpr ?_).symm
      refine Option.eq_none_iff_forall_ne_some.mpr fun narrow written => same ?_
      have nearest := Binary.Format.nearest_of_write reading narrow written
      have kept := (Binary.Format.meaning_write Binary.Format.single_proper reading
        (read ▸ Binary.Format.fits_read Binary.Format.double_proper word) narrow written).1
      refine (Binary.Format.same_iff Binary.Format.double_proper _ _ small bounded).mpr ?_
      rw [means, nearest, kept]
      exact ⟨stands.symm, known⟩
  rw [castWord?]
  cases found : double.read word with
  | undefined negative payload => rfl
  | infinite negative => exact defined _ nofun found fun _ => rfl
  | finite negative significand exponent =>
    refine defined _ nofun found fun same => ?_
    rw [← Binary.Format.meaning_read Binary.Format.double_proper, found] at same
    exact Binary.Format.encode_of_round Binary.Format.single_proper _ _ _ same.symm

end ElementType

/-- The scalar of the target type that is cast from a scalar, if casting back gives the same. -/
def Scalar.cast? (scalar : Scalar) (target : ElementType) : Option Scalar :=
  if scalar.type = target then some scalar
  else match scalar.type.integer? scalar.value with
    | some whole => (target.castWhole? whole).map (Scalar.mk target)
    | none => (scalar.type.castUp? scalar.value).bind fun word =>
        (target.castWord? word).map (Scalar.mk target)

/-- Casting and comparing converts exactly. -/
theorem Scalar.cast?_eq (scalar : Scalar) (target : ElementType) :
    scalar.cast? target = scalar.convert? target := by
  by_cases own : scalar.type = target
  · rw [cast?, convert?, if_pos own, if_pos own]
  · have read := scalar.convert?_of_reading target own
    obtain ⟨type, value⟩ := scalar
    rw [cast?, if_neg own]
    dsimp only at own read ⊢
    rcases type.real_cases with rfl | rfl | whole
    · -- Words of 32 bits are cast by way of 64 bits, where nothing is lost.
      rw [read _ rfl]
      have wide := Binary.Format.widened value.bits.toNat
      rcases target.real_cases with rfl | rfl | whole
      · exact absurd rfl own
      · rw [ElementType.ofReading?, wide]
        rfl
      · obtain ⟨means, _⟩ := Binary.Format.meaning_write Binary.Format.double_proper _
          (Binary.Format.fits_read Binary.Format.single_proper _) _ wide
        rw [← Binary.Format.meaning_read Binary.Format.double_proper] at means
        rw [← target.ofReading?_congr whole _ _ means, ← target.castWord?_whole whole]
        rfl
    · rw [read _ rfl]
      have cast : target.castWord? value.bits.toNat =
          target.ofReading? (double.read value.bits.toNat) := by
        rcases target.real_cases with rfl | rfl | whole
        · exact ElementType.castWord?_narrow _ value.bits.toNat_lt
        · exact absurd rfl own
        · exact target.castWord?_whole whole _
      rw [← cast]
      rfl
    · cases found : type.integer? value with
      | some number =>
        rw [read _ (by rw [type.reading?_whole whole, found, Option.map_some]),
          ← target.castWhole?_eq number (type.natAbs_lt_of_integer value number found)]
      | none =>
        have nothing : type.castUp? value = none := by
          cases type <;> first | rfl | cases whole
        rw [nothing, convert?, if_neg own, type.reading?_whole whole, found]
        rfl

/-- Conversion is exact and complete: there is a result exactly for the types that hold what
the scalar stands for; the result stands for the same, and converting it back gives a scalar that
equals the first. Casting and comparing gives the same results. -/
structure Scalar.ConvertsExactly (scalar : Scalar) (target : ElementType) : Prop where
  own : target = scalar.type → scalar.convert? target = some scalar
  exists_iff : target ≠ scalar.type →
    ((∃ result, scalar.convert? target = some result) ↔
      scalar.type.isNumeric = true ∧ target.isNumeric = true ∧
          (∃ (number : ℚ) (value : target.Carrier),
            scalar.meaning? = some (.number number) ∧
              target.meaning? value = some (.number number)) ∨
        ((∃ negative, scalar.meaning? = some (.infinite negative)) ∨
          scalar.meaning? = some .undefined) ∧ target.isReal = true)
  same : ∀ result, scalar.convert? target = some result →
    result.type = target ∧ result.meaning? = scalar.meaning?
  back : ∀ result, scalar.convert? target = some result →
    ∃ again, result.convert? scalar.type = some again ∧ again.Equals scalar
  casts : scalar.cast? target = scalar.convert? target

/-- Every scalar converts exactly to every type, and a sequence converts item by item.

Conversions go through the whole number or the fraction that a scalar stands for, and every type
takes those that it holds exactly. The types are gone through one by one; sequences are an
induction over their items. -/
theorem Value.conversions_exact (target : ElementType) :
    (∀ scalar : Scalar, scalar.ConvertsExactly target) ∧
      ∀ (items : List Scalar) (result : Value),
        (Value.sequence items).convert? target = some result ↔
          ∃ results, result = .sequence results ∧
            List.Forall₂ (fun item other => item.convert? target = some other) items results := by
  refine ⟨fun scalar => ?_, fun items result => ?_⟩
  · refine ⟨?_, ?_, ?_, ?_, scalar.cast?_eq target⟩
    · rintro rfl
      exact scalar.convert?_self
    · intro other
      rw [scalar.converts_iff target other.symm, scalar.shared_iff target]
    · intro result converted
      exact ⟨Scalar.type_of_convert? converted, scalar.meaning_convert target result converted⟩
    · exact fun result converted => scalar.convert_back target result converted
  · rw [Value.convert?, Option.map_eq_some_iff]
    constructor
    · rintro ⟨results, converted, rfl⟩
      exact ⟨results, rfl, (Scalar.mapM_convert_iff target items results).mp converted⟩
    · rintro ⟨results, rfl, each⟩
      exact ⟨results, (Scalar.mapM_convert_iff target items results).mpr each, rfl⟩

end RegionGraph
