import Mathlib.Algebra.Order.Field.Power
import Mathlib.Data.Rat.Cast.Order
import Mathlib.Tactic.FieldSimp
import Mathlib.Tactic.Linarith
import Mathlib.Tactic.Positivity
import Mathlib.Tactic.Ring
import RegionGraph.Binary.Format

/-!
# What floating-point words stand for

A word of a binary format stands for a rational number, an infinity or nothing defined. `meaning`
states that by the fields of the word, as the standard does, and `meaning_read` relates it to the
significand and exponent which `read` takes from the word.

Writing and reading are then compared by meaning alone. A number is written without loss exactly if
some word stands for it (`meaning_write`, `write_of_meaning`): the leading bit of such a number lies
within the precision of that word, so no bit of it falls below the unit at which it is written.
Only the two zeros and the undefined words share their meaning with another word
(`eq_of_meaning`).
-/

namespace RegionGraph.Binary

/-- What a word stands for. -/
inductive Meaning where
  | number (value : ℚ)
  | infinite (negative : Bool)
  | undefined

/-- One or its opposite. -/
def signOf (negative : Bool) : ℚ := if negative then -1 else 1

/-- Numbers with signs are the same if they are zero, or if their signs and sizes are. -/
theorem signOf_mul_eq (negative other : Bool) (size otherSize : ℚ) (positive : 0 < size)
    (nonnegative : 0 ≤ otherSize) (same : signOf negative * size = signOf other * otherSize) :
    negative = other ∧ size = otherSize := by
  cases negative <;> cases other <;>
    simp only [signOf, if_true, Bool.false_eq_true, if_false] at same
  · exact ⟨rfl, by linarith⟩
  · exact absurd positive (by linarith)
  · exact absurd positive (by linarith)
  · exact ⟨rfl, by linarith⟩

/-- What a reading stands for: a finite one for its significand times a power of two. -/
def Reading.meaning : Reading → Meaning
  | .finite negative significand exponent =>
    .number (signOf negative * (significand * 2 ^ exponent))
  | .infinite negative => .infinite negative
  | .undefined _ _ => .undefined

/-- A whole number is read with its sign and its size. -/
theorem Reading.meaning_whole (whole : ℤ) :
    (Reading.finite (whole < 0) whole.natAbs 0).meaning = .number whole := by
  have size : (whole.natAbs : ℚ) = |(whole : ℚ)| := by rw [Nat.cast_natAbs, Int.cast_abs]
  rw [meaning, signOf, zpow_zero, mul_one, size]
  by_cases negative : whole < 0
  · have below : (whole : ℚ) < 0 := by exact_mod_cast negative
    simp [negative, abs_of_neg below]
  · have above : (0 : ℚ) ≤ whole := by exact_mod_cast not_lt.mp negative
    simp [negative, abs_of_nonneg above]

/-- A payload takes at most 64 bits. -/
def Reading.Fits : Reading → Prop
  | .undefined _ payload => payload < 2 ^ 64
  | _ => True

namespace Format

variable (f : Format)

/-- What is taken from the exponent field of a normal number. -/
def bias : ℤ := 2 ^ (f.exponentBits - 1) - 1

/-- What a word stands for, in the terms of the standard: by its sign, its exponent field and its
fraction, which is less than one and follows an implied one in normal numbers. -/
def meaning (word : Nat) : Meaning :=
  let negative := word.testBit (f.fractionBits + f.exponentBits)
  let field := word / 2 ^ f.fractionBits % 2 ^ f.exponentBits
  let fraction : ℚ := ↑(word % 2 ^ f.fractionBits) / 2 ^ f.fractionBits
  if field = f.reserved then if fraction = 0 then .infinite negative else .undefined
  else if field = 0 then .number (signOf negative * (fraction * 2 ^ (1 - f.bias)))
  else .number (signOf negative * ((1 + fraction) * 2 ^ (field - f.bias)))

/-! ### Fields of a word -/

section Fields

variable {f}

/-- A word of fields that fit has these fields, and no bits besides. -/
theorem fields_pack (negative : Bool) (field fraction : Nat)
    (exponents : field < 2 ^ f.exponentBits)
    (fractions : fraction < 2 ^ f.fractionBits) :
    (f.pack negative field fraction).testBit (f.fractionBits + f.exponentBits) = negative ∧
    f.pack negative field fraction / 2 ^ f.fractionBits % 2 ^ f.exponentBits = field ∧
    f.pack negative field fraction % 2 ^ f.fractionBits = fraction ∧
    f.pack negative field fraction < 2 ^ (f.fractionBits + f.exponentBits + 1) := by
  have low : field * 2 ^ f.fractionBits + fraction < 2 ^ (f.fractionBits + f.exponentBits) := by
    calc field * 2 ^ f.fractionBits + fraction
        < (field + 1) * 2 ^ f.fractionBits := by rw [Nat.succ_mul]; omega
      _ ≤ 2 ^ f.exponentBits * 2 ^ f.fractionBits := Nat.mul_le_mul_right _ exponents
      _ = 2 ^ (f.fractionBits + f.exponentBits) := by rw [Nat.pow_add, Nat.mul_comm]
  have split : f.pack negative field fraction = 2 ^ (f.fractionBits + f.exponentBits) *
      negative.toNat + (field * 2 ^ f.fractionBits + fraction) := by
    rw [pack, Nat.add_assoc]
    cases negative <;> simp
  have upper : f.pack negative field fraction =
      2 ^ f.fractionBits * (2 ^ f.exponentBits * negative.toNat + field) + fraction := by
    rw [split, Nat.pow_add]
    ring
  refine ⟨?_, ?_, ?_, ?_⟩
  · rw [split, Nat.testBit_two_pow_mul_add _ low]
    cases negative <;> simp
  · rw [upper, Nat.mul_add_div (Nat.two_pow_pos _), Nat.div_eq_of_lt fractions, Nat.add_zero,
      Nat.mul_add_mod, Nat.mod_eq_of_lt exponents]
  · rw [upper, Nat.mul_add_mod, Nat.mod_eq_of_lt fractions]
  · rw [split, Nat.pow_succ]
    cases negative <;> simp <;> omega

/-- A word without further bits is made of its fields. -/
theorem pack_fields (word : Nat) (bounded : word < 2 ^ (f.fractionBits + f.exponentBits + 1)) :
    f.pack (word.testBit (f.fractionBits + f.exponentBits))
      (word / 2 ^ f.fractionBits % 2 ^ f.exponentBits) (word % 2 ^ f.fractionBits) = word := by
  have top : word / 2 ^ (f.fractionBits + f.exponentBits) < 2 := by
    rw [Nat.div_lt_iff_lt_mul (Nat.two_pow_pos _), ← Nat.pow_succ']
    exact bounded
  have sign : (if word.testBit (f.fractionBits + f.exponentBits) then
      2 ^ (f.fractionBits + f.exponentBits) else 0) =
        2 ^ (f.fractionBits + f.exponentBits) * (word / 2 ^ (f.fractionBits + f.exponentBits)) := by
    rw [Nat.testBit_eq_decide_div_mod_eq, Nat.mod_eq_of_lt top]
    rcases Nat.lt_or_ge (word / 2 ^ (f.fractionBits + f.exponentBits)) 1 with zero | one
    · rw [Nat.lt_one_iff.mp zero]
      rfl
    · have same : word / 2 ^ (f.fractionBits + f.exponentBits) = 1 := by omega
      rw [same]
      simp
  have upper := Nat.div_add_mod (word / 2 ^ f.fractionBits) (2 ^ f.exponentBits)
  have lower := Nat.div_add_mod word (2 ^ f.fractionBits)
  rw [Nat.div_div_eq_div_mul, ← Nat.pow_add] at upper
  calc f.pack _ _ _
      = 2 ^ f.fractionBits * (2 ^ f.exponentBits * (word / 2 ^ (f.fractionBits + f.exponentBits)) +
          word / 2 ^ f.fractionBits % 2 ^ f.exponentBits) + word % 2 ^ f.fractionBits := by
        rw [pack, sign, Nat.pow_add]
        ring
    _ = word := by rw [upper, lower]

/-- The reserved field is the greatest. -/
theorem reserved_lt : f.reserved < 2 ^ f.exponentBits :=
  Nat.sub_lt (Nat.two_pow_pos _) Nat.one_pos

/-- The word of an infinity is read as one. -/
theorem read_infinity (negative : Bool) : f.read (f.infinity negative) = .infinite negative := by
  obtain ⟨sign, field, fraction, _⟩ := fields_pack negative f.reserved 0
    (reserved_lt (f := f)) (Nat.two_pow_pos f.fractionBits)
  simp only [infinity, read, sign, field, fraction, if_true]

/-- What is read from the fields of a finite number. -/
theorem read_pack (negative : Bool) (field fraction : Nat) (finite : field < f.reserved)
    (fractions : fraction < 2 ^ f.fractionBits) :
    f.read (f.pack negative field fraction) =
      if field = 0 then .finite negative fraction f.leastExponent
      else .finite negative (2 ^ f.fractionBits + fraction)
        (f.leastExponent + (field - 1 : Nat)) := by
  obtain ⟨sign, exponent, rest, _⟩ := fields_pack negative field fraction
    (Nat.lt_trans finite reserved_lt) fractions
  simp only [read, sign, exponent, rest, if_neg (Nat.ne_of_lt finite)]

/-- Reading tells words apart, but for undefined ones. -/
theorem eq_of_read (word other : Nat) (bounded : word < 2 ^ (f.fractionBits + f.exponentBits + 1))
    (boundedOther : other < 2 ^ (f.fractionBits + f.exponentBits + 1))
    (same : f.read word = f.read other) (defined : (f.read word).meaning ≠ .undefined) :
    word = other := by
  have fraction := Nat.mod_lt word (Nat.two_pow_pos f.fractionBits)
  have fractionOther := Nat.mod_lt other (Nat.two_pow_pos f.fractionBits)
  have fields : word.testBit (f.fractionBits + f.exponentBits) =
        other.testBit (f.fractionBits + f.exponentBits) ∧
      word / 2 ^ f.fractionBits % 2 ^ f.exponentBits =
        other / 2 ^ f.fractionBits % 2 ^ f.exponentBits ∧
      word % 2 ^ f.fractionBits = other % 2 ^ f.fractionBits := by
    simp only [read] at same defined
    generalize word.testBit (f.fractionBits + f.exponentBits) = sign at same defined ⊢
    generalize other.testBit (f.fractionBits + f.exponentBits) = otherSign at same ⊢
    generalize word / 2 ^ f.fractionBits % 2 ^ f.exponentBits = field at same defined ⊢
    generalize other / 2 ^ f.fractionBits % 2 ^ f.exponentBits = otherField at same ⊢
    generalize word % 2 ^ f.fractionBits = low at fraction same defined ⊢
    generalize other % 2 ^ f.fractionBits = otherLow at fractionOther same ⊢
    -- A significand shows by its leading bit whether the exponent field is zero.
    grind [Reading.meaning]
  rw [← pack_fields word bounded, fields.1, fields.2.1, fields.2.2, pack_fields other boundedOther]

end Fields

/-- Sizes that leave room for a leading bit, a fraction of at most 64 bits, and exponents
besides those of the smallest numbers and the reserved one. -/
structure Proper : Prop where
  leading : 2 ≤ f.precision
  narrow : f.fractionBits ≤ 64
  ranged : 2 ≤ f.exponentBits

/-- Words of 32 bits have such sizes. -/
theorem single_proper : single.Proper := ⟨by decide, by decide, by decide⟩

/-- Words of 64 bits have such sizes. -/
theorem double_proper : double.Proper := ⟨by decide, by decide, by decide⟩

section

variable {f} (proper : f.Proper)

include proper

/-- The smallest numbers have the bits of their fraction below the first exponent. -/
theorem leastExponent_eq : f.leastExponent = 1 - f.bias - f.fractionBits := by
  have leading := proper.leading
  rw [leastExponent, bias, fractionBits]
  omega

/-- Reading a word gives what it stands for. -/
theorem meaning_read (word : Nat) : (f.read word).meaning = f.meaning word := by
  have scale (exponent : ℤ) : (2 : ℚ) ^ (exponent - f.fractionBits) =
      2 ^ exponent / 2 ^ f.fractionBits := by
    rw [zpow_sub₀ two_ne_zero, zpow_natCast]
  have positive : (2 : ℚ) ^ f.fractionBits ≠ 0 := by positivity
  simp only [read, meaning]
  split
  · simp only [div_eq_zero_iff, Nat.cast_eq_zero, positive, or_false]
    split <;> rfl
  · split
    · rw [Reading.meaning, leastExponent_eq proper, scale]
      congr 2
      ring
    · rename_i notReserved notZero
      rw [Reading.meaning, leastExponent_eq proper]
      congr 2
      have exponent :
          1 - f.bias - ↑f.fractionBits + ↑(word / 2 ^ f.fractionBits % 2 ^ f.exponentBits - 1) =
            ↑(word / 2 ^ f.fractionBits % 2 ^ f.exponentBits) - f.bias - ↑f.fractionBits := by
        omega
      rw [exponent, scale]
      push_cast
      field_simp

end

end Format

/-! ### Significands at another exponent -/

/-- The significand of a number at a unit exponent, exact if nothing is dropped. -/
def rescale (significand : Nat) (exponent unit : ℤ) : Nat :=
  significand / 2 ^ (unit - exponent).toNat * 2 ^ (exponent - unit).toNat

/-- A whole number of halves, quarters and so on is the same number in its units. -/
theorem rescale_value (significand : Nat) (exponent unit : ℤ)
    (whole : significand % 2 ^ (unit - exponent).toNat = 0) :
    (rescale significand exponent unit : ℚ) * 2 ^ unit = significand * 2 ^ exponent := by
  have split : (significand / 2 ^ (unit - exponent).toNat : Nat) * 2 ^ (unit - exponent).toNat =
      significand := Nat.div_mul_cancel (Nat.dvd_of_mod_eq_zero whole)
  have parts : (significand : ℚ) =
      (significand / 2 ^ (unit - exponent).toNat : Nat) * 2 ^ (unit - exponent).toNat := by
    exact_mod_cast split.symm
  rw [rescale, parts]
  push_cast
  rw [mul_assoc, mul_assoc, ← zpow_natCast, ← zpow_natCast, ← zpow_add₀ two_ne_zero,
    ← zpow_add₀ two_ne_zero]
  congr 2
  omega

/-- A number that is a multiple of a power of two can be told in multiples of a smaller one. -/
theorem whole_of_eq (significand other : Nat) (exponent unit greater : ℤ) (below : unit ≤ greater)
    (same : (significand : ℚ) * 2 ^ exponent = other * 2 ^ greater) :
    significand % 2 ^ (unit - exponent).toNat = 0 := by
  apply Nat.mod_eq_zero_of_dvd
  rcases le_total unit exponent with coarse | fine
  · rw [Int.toNat_of_nonpos (sub_nonpos.mpr coarse), pow_zero]
    exact one_dvd significand
  · have product : (significand : ℚ) = other * 2 ^ (greater - exponent).toNat := by
      have shift : (2 : ℚ) ^ greater = 2 ^ (greater - exponent).toNat * 2 ^ exponent := by
        rw [← zpow_natCast, ← zpow_add₀ two_ne_zero]
        congr 1
        omega
      rw [shift, ← mul_assoc] at same
      exact mul_right_cancel₀ (zpow_ne_zero _ two_ne_zero) same
    have multiple : significand = other * 2 ^ (greater - exponent).toNat := by
      exact_mod_cast product
    rw [multiple]
    exact Dvd.dvd.mul_left (pow_dvd_pow 2 (by omega)) other

/-- A number lies between the power of two of its leading bit and the next. -/
theorem between_powers (significand : Nat) (exponent : ℤ) (some : significand ≠ 0) :
    (2 : ℚ) ^ (exponent + significand.log2) ≤ significand * 2 ^ exponent ∧
      (significand : ℚ) * 2 ^ exponent < 2 ^ (exponent + significand.log2 + 1) := by
  have lower : (2 : ℚ) ^ significand.log2 ≤ significand := by
    exact_mod_cast Nat.log2_self_le some
  have upper : (significand : ℚ) < 2 ^ (significand.log2 + 1) := by
    exact_mod_cast Nat.lt_log2_self
  have positive : (0 : ℚ) < 2 ^ exponent := by positivity
  constructor
  · rw [add_comm, zpow_add₀ two_ne_zero, zpow_natCast]
    exact mul_le_mul_of_nonneg_right lower positive.le
  · rw [add_assoc, add_comm, zpow_add₀ two_ne_zero, ← Nat.cast_succ, zpow_natCast]
    exact mul_lt_mul_of_pos_right upper positive

/-- Equal numbers have their leading bits at the same place. -/
theorem leading_eq (significand other : Nat) (exponent greater : ℤ) (some : significand ≠ 0)
    (same : (significand : ℚ) * 2 ^ exponent = other * 2 ^ greater) :
    exponent + significand.log2 = greater + other.log2 := by
  have positive : (0 : ℚ) < significand * 2 ^ exponent := by positivity
  have some' : other ≠ 0 := by
    rintro rfl
    rw [same, Nat.cast_zero, zero_mul] at positive
    exact lt_irrefl _ positive
  obtain ⟨low, high⟩ := between_powers significand exponent some
  obtain ⟨low', high'⟩ := between_powers other greater some'
  rw [same] at low high
  have one : (1 : ℚ) < 2 := one_lt_two
  have first := (zpow_lt_zpow_iff_right₀ one).mp (lt_of_le_of_lt low high')
  have second := (zpow_lt_zpow_iff_right₀ one).mp (lt_of_le_of_lt low' high)
  omega

namespace Format

variable {f : Format} (proper : f.Proper)

/-! ### Words that hold a number -/

/-- The significand that a number has in a word, if nothing of it is lost. -/
def written (f : Format) (significand : Nat) (exponent : ℤ) : Nat :=
  rescale significand exponent (f.unitExponent significand exponent)

/-- The reserved field leaves one for the smallest numbers and one for others. -/
theorem two_lt_reserved (proper : f.Proper) : 2 < f.reserved := by
  have four : 2 ^ 2 ≤ 2 ^ f.exponentBits := Nat.pow_le_pow_right (by decide) proper.ranged
  rw [reserved]
  omega

/-- With the leading bit a significand fills the precision. -/
theorem two_pow_precision (proper : f.Proper) :
    2 ^ f.precision = 2 * 2 ^ f.fractionBits := by
  have leading := proper.leading
  rw [← Nat.pow_succ', fractionBits]
  congr 1
  omega

/-- The infinities differ from all words of finite numbers. -/
theorem pack_ne_infinity (negative other : Bool) (field fraction : Nat)
    (finite : field < f.reserved)
    (fractions : fraction < 2 ^ f.fractionBits) :
    f.pack negative field fraction ≠ f.infinity other := by
  intro same
  obtain ⟨_, exponent, _, _⟩ := fields_pack negative field fraction
    (Nat.lt_trans finite (reserved_lt (f := f))) fractions
  obtain ⟨_, reserved, _, _⟩ := fields_pack other f.reserved 0 (reserved_lt (f := f))
    (Nat.two_pow_pos f.fractionBits)
  rw [same, infinity, reserved] at exponent
  exact absurd finite (Nat.not_lt.mpr exponent.le)

/-- A number has a word exactly if nothing of it is dropped and it is not too large. -/
theorem encode?_some_iff (negative : Bool) (significand : Nat) (exponent : ℤ) (word : Nat) :
    f.encode? negative significand exponent = some word ↔
      significand % 2 ^ (f.unitExponent significand exponent - exponent).toNat = 0 ∧
        f.assemble negative (f.written significand exponent)
          (f.unitExponent significand exponent) = word ∧ word ≠ f.infinity negative := by
  rw [encode?]
  by_cases kept : significand % 2 ^ (f.unitExponent significand exponent - exponent).toNat = 0
  · rw [if_neg (not_not_intro kept)]
    change (if f.assemble negative (f.written significand exponent) _ = _ then none else
      some (f.assemble negative (f.written significand exponent) _)) = some word ↔ _
    split
    case isTrue infinite => simp +contextual [infinite, eq_comm]
    case isFalse finite =>
      rw [Option.some.injEq]
      exact ⟨fun same => ⟨kept, same, same ▸ finite⟩, fun held => held.2.1⟩
  · simp [kept]

section

include proper

/-- The word of a significand at its unit exponent has its leading bit implied. -/
theorem assemble_eq (negative : Bool) (significand : Nat) (unit : ℤ)
    (fits : significand < 2 ^ f.precision) :
    f.assemble negative significand unit =
      if significand < 2 ^ f.fractionBits then f.pack negative 0 significand
      else if (unit - f.leastExponent).toNat + 1 < f.reserved then
        f.pack negative ((unit - f.leastExponent).toNat + 1) (significand - 2 ^ f.fractionBits)
      else f.infinity negative := by
  rw [two_pow_precision proper] at fits
  rw [assemble]
  split
  · rfl
  · have positive := Nat.two_pow_pos f.fractionBits
    have compare : f.infinity false ≤ f.pack false ((unit - f.leastExponent).toNat + 1)
        (significand - 2 ^ f.fractionBits) ↔ ¬(unit - f.leastExponent).toNat + 1 < f.reserved := by
      simp only [infinity, pack, Bool.false_eq_true, if_false]
      constructor
      · intro large small
        have more : ((unit - f.leastExponent).toNat + 1 + 1) * 2 ^ f.fractionBits ≤
            f.reserved * 2 ^ f.fractionBits := Nat.mul_le_mul_right _ small
        rw [Nat.succ_mul] at more
        omega
      · intro large
        have more : f.reserved * 2 ^ f.fractionBits ≤
            ((unit - f.leastExponent).toNat + 1) * 2 ^ f.fractionBits :=
          Nat.mul_le_mul_right _ (Nat.not_lt.mp large)
        omega
    simp only [compare]
    by_cases finite : (unit - f.leastExponent).toNat + 1 < f.reserved
    · rw [if_neg (not_not_intro finite), if_pos finite]
      cases negative <;> simp [pack, Nat.add_assoc]
    · rw [if_pos finite, if_neg finite]

end

section Written

variable (significand : Nat) (exponent : ℤ)
  (whole : significand % 2 ^ (f.unitExponent significand exponent - exponent).toNat = 0)

include whole

/-- The significand in a word does not exceed the precision. -/
theorem written_lt : f.written significand exponent < 2 ^ f.precision := by
  by_cases none : significand = 0
  · simp [written, rescale, none]
  · have value := rescale_value significand exponent _ whole
    obtain ⟨_, high⟩ := between_powers significand exponent none
    have bound : (f.written significand exponent : ℚ) * 2 ^ f.unitExponent significand exponent <
        2 ^ f.precision * 2 ^ f.unitExponent significand exponent := by
      rw [written, value]
      refine lt_of_lt_of_le high ?_
      rw [← zpow_natCast, ← zpow_add₀ two_ne_zero]
      refine zpow_le_zpow_right₀ one_le_two ?_
      rw [unitExponent]
      omega
    have product := lt_of_mul_lt_mul_right bound (by positivity)
    exact_mod_cast product

/-- Above the exponent of the smallest numbers the leading bit is there. -/
theorem le_written (proper : f.Proper) (some : significand ≠ 0)
    (above : f.unitExponent significand exponent ≠ f.leastExponent) :
    2 ^ f.fractionBits ≤ f.written significand exponent := by
  have value := rescale_value significand exponent _ whole
  obtain ⟨low, _⟩ := between_powers significand exponent some
  have leading := proper.leading
  have bound : (2 : ℚ) ^ f.fractionBits * 2 ^ f.unitExponent significand exponent ≤
      f.written significand exponent * 2 ^ f.unitExponent significand exponent := by
    rw [written, value]
    refine le_trans ?_ low
    rw [← zpow_natCast, ← zpow_add₀ two_ne_zero]
    refine zpow_le_zpow_right₀ one_le_two ?_
    rw [unitExponent] at above ⊢
    rw [fractionBits]
    omega
  have product := le_of_mul_le_mul_right bound (by positivity)
  exact_mod_cast product

end Written

section

include proper

/-- A word that was put together of a significand and its unit exponent stands for their
product. Without the leading bit the unit has to be that of the smallest numbers. -/
theorem meaning_assemble (negative : Bool) (significand : Nat) (unit : ℤ)
    (fits : significand < 2 ^ f.precision) (above : f.leastExponent ≤ unit)
    (leading : significand < 2 ^ f.fractionBits → significand = 0 ∨ unit = f.leastExponent)
    (finite : f.assemble negative significand unit ≠ f.infinity negative) :
    (f.read (f.assemble negative significand unit)).meaning =
        .number (signOf negative * (significand * 2 ^ unit)) ∧
      f.assemble negative significand unit < 2 ^ (f.fractionBits + f.exponentBits + 1) := by
  have reserved := two_lt_reserved proper
  rw [assemble_eq proper negative significand unit fits] at finite ⊢
  by_cases subnormal : significand < 2 ^ f.fractionBits
  · obtain ⟨_, _, _, bounded⟩ :=
      fields_pack (f := f) negative 0 significand (Nat.two_pow_pos _) subnormal
    rw [if_pos subnormal, read_pack negative 0 significand (by omega) subnormal, if_pos rfl]
    refine ⟨?_, bounded⟩
    rcases leading subnormal with none | least
    · simp [Reading.meaning, none]
    · rw [Reading.meaning, least]
  · rw [if_neg subnormal] at finite ⊢
    have small : (unit - f.leastExponent).toNat + 1 < f.reserved :=
      Decidable.byContradiction fun large => finite (if_neg large)
    rw [not_lt] at subnormal
    rw [two_pow_precision proper] at fits
    have fraction : significand - 2 ^ f.fractionBits < 2 ^ f.fractionBits := by omega
    obtain ⟨_, _, _, bounded⟩ := fields_pack (f := f) negative _ _
      (Nat.lt_trans small (reserved_lt (f := f))) fraction
    rw [if_pos small, read_pack negative _ _ small fraction, if_neg (Nat.succ_ne_zero _)]
    refine ⟨?_, bounded⟩
    have exponent : f.leastExponent + (((unit - f.leastExponent).toNat + 1 - 1 : Nat) : ℤ) =
        unit := by omega
    rw [Reading.meaning, exponent, Nat.add_sub_of_le subnormal]

/-- The word of a number that is held without loss is read as that number. -/
theorem meaning_encode (negative : Bool) (significand : Nat) (exponent : ℤ) (word : Nat)
    (encoded : f.encode? negative significand exponent = some word) :
    (f.read word).meaning = (Reading.finite negative significand exponent).meaning ∧
      word < 2 ^ (f.fractionBits + f.exponentBits + 1) := by
  obtain ⟨kept, rfl, finite⟩ :=
    (encode?_some_iff negative significand exponent word).mp encoded
  have leading (subnormal : f.written significand exponent < 2 ^ f.fractionBits) :
      f.written significand exponent = 0 ∨
        f.unitExponent significand exponent = f.leastExponent := by
    by_cases none : significand = 0
    · exact Or.inl (by simp [written, rescale, none])
    · exact Or.inr (Decidable.byContradiction fun normal => absurd subnormal
        (not_lt.mpr (le_written significand exponent kept proper none normal)))
  have above : f.leastExponent ≤ f.unitExponent significand exponent := le_max_left _ _
  obtain ⟨means, bounded⟩ := meaning_assemble proper negative _ _
    (written_lt significand exponent kept) above leading finite
  refine ⟨means.trans ?_, bounded⟩
  rw [Reading.meaning, written, rescale_value significand exponent _ kept]

/-- The significand and the exponent that a word holds are bounded, and a significand without
the leading bit belongs to the smallest numbers. -/
theorem read_finite (word : Nat) (negative : Bool) (significand : Nat) (exponent : ℤ)
    (found : f.read word = .finite negative significand exponent) :
    significand < 2 ^ f.precision ∧ f.leastExponent ≤ exponent ∧
      (exponent - f.leastExponent).toNat + 1 < f.reserved ∧
      (significand < 2 ^ f.fractionBits → exponent = f.leastExponent) := by
  have reserved := two_lt_reserved proper
  have fraction := Nat.mod_lt word (Nat.two_pow_pos f.fractionBits)
  have field : word / 2 ^ f.fractionBits % 2 ^ f.exponentBits < 2 ^ f.exponentBits :=
    Nat.mod_lt _ (Nat.two_pow_pos _)
  rw [two_pow_precision proper]
  simp only [read] at found
  split at found
  · split at found <;> cases found
  · rename_i notReserved
    rw [Format.reserved] at notReserved reserved ⊢
    split at found
    · cases found
      omega
    · cases found
      omega

/-- A number that some word holds is written without loss. -/
theorem encode_of_read (word : Nat) (negative other : Bool) (significand mantissa : Nat)
    (exponent greater : ℤ) (found : f.read word = .finite other mantissa greater)
    (same : (significand : ℚ) * 2 ^ exponent = mantissa * 2 ^ greater) :
    ∃ result, f.encode? negative significand exponent = some result := by
  obtain ⟨fits, above, bounded, _⟩ := read_finite proper word other mantissa greater found
  have reserved := two_lt_reserved proper
  -- The leading bit of the held number is within the precision, so its unit is fine enough.
  have unit : significand ≠ 0 → f.unitExponent significand exponent ≤ greater := by
    intro some
    have leading := leading_eq significand mantissa exponent greater some same
    have bits : mantissa.log2 < f.precision := by
      rcases Nat.eq_zero_or_pos mantissa with rfl | positive
      · exact Nat.lt_of_lt_of_le Nat.two_pos proper.leading
      · exact (Nat.log2_lt positive.ne').mpr fits
    rw [unitExponent]
    omega
  have kept : significand % 2 ^ (f.unitExponent significand exponent - exponent).toNat = 0 := by
    by_cases none : significand = 0
    · rw [none, Nat.zero_mod]
    · exact whole_of_eq significand mantissa exponent _ greater (unit none) same
  have fitsAlso := written_lt significand exponent kept
  have finite : f.assemble negative (f.written significand exponent)
      (f.unitExponent significand exponent) ≠ f.infinity negative := by
    rw [assemble_eq proper negative _ _ fitsAlso]
    split
    case isTrue subnormal =>
      exact pack_ne_infinity negative negative 0 _ (by omega) subnormal
    case isFalse normal =>
      have some : significand ≠ 0 := by
        rintro rfl
        exact normal (by simp [written, rescale])
      have inside := unit some
      rw [two_pow_precision proper] at fitsAlso
      rw [if_pos (by omega)]
      exact pack_ne_infinity negative negative _ _ (by omega) (by omega)
  exact ⟨_, (encode?_some_iff negative significand exponent _).mpr ⟨kept, rfl, finite⟩⟩

/-- Words that stand for one number other than zero hold it in one way. -/
theorem read_eq_of_value (word other : Nat) (negative otherNegative : Bool)
    (significand otherSignificand : Nat) (exponent otherExponent : ℤ)
    (found : f.read word = .finite negative significand exponent)
    (foundOther : f.read other = .finite otherNegative otherSignificand otherExponent)
    (some : significand ≠ 0)
    (same : (significand : ℚ) * 2 ^ exponent = otherSignificand * 2 ^ otherExponent) :
    significand = otherSignificand ∧ exponent = otherExponent := by
  obtain ⟨fits, above, _, least⟩ := read_finite proper word _ _ _ found
  obtain ⟨fitsOther, aboveOther, _, leastOther⟩ := read_finite proper other _ _ _ foundOther
  have someOther : otherSignificand ≠ 0 := by
    rintro rfl
    rw [Nat.cast_zero, zero_mul] at same
    exact absurd same (by positivity)
  have leading := leading_eq significand otherSignificand exponent otherExponent some same
  rw [two_pow_precision proper, ← Nat.pow_succ'] at fits fitsOther
  have bits := (Nat.log2_lt some).mpr fits
  have bitsOther := (Nat.log2_lt someOther).mpr fitsOther
  have unit : exponent = otherExponent := by
    have normal (mantissa : Nat) (nonzero : mantissa ≠ 0)
        (at_least : 2 ^ f.fractionBits ≤ mantissa) :
        f.fractionBits ≤ mantissa.log2 := (Nat.le_log2 nonzero).mpr at_least
    rcases Nat.lt_or_ge significand (2 ^ f.fractionBits) with small | large
    · rcases Nat.lt_or_ge otherSignificand (2 ^ f.fractionBits) with smallOther | largeOther
      · rw [least small, leastOther smallOther]
      · have low := least small
        have high := normal otherSignificand someOther largeOther
        have short := (Nat.log2_lt some).mpr small
        omega
    · rcases Nat.lt_or_ge otherSignificand (2 ^ f.fractionBits) with smallOther | largeOther
      · have low := leastOther smallOther
        have high := normal significand some large
        have short := (Nat.log2_lt someOther).mpr smallOther
        omega
      · have high := normal significand some large
        have highOther := normal otherSignificand someOther largeOther
        omega
  refine ⟨?_, unit⟩
  rw [unit] at same
  exact_mod_cast mul_right_cancel₀ (zpow_ne_zero _ two_ne_zero) same

/-- Words that stand for the same are the same word, but for the two zeros and for undefined
words. -/
theorem eq_of_meaning (word other : Nat)
    (bounded : word < 2 ^ (f.fractionBits + f.exponentBits + 1))
    (boundedOther : other < 2 ^ (f.fractionBits + f.exponentBits + 1))
    (same : f.meaning word = f.meaning other) :
    word = other ∨ f.meaning word = .number 0 ∨ f.meaning word = .undefined := by
  rw [← meaning_read proper, ← meaning_read proper] at same
  rw [← meaning_read proper]
  cases found : f.read word with
  | undefined negative payload => exact Or.inr (Or.inr rfl)
  | infinite negative =>
    cases foundOther : f.read other with
    | finite => rw [found, foundOther] at same; cases same
    | undefined => rw [found, foundOther] at same; cases same
    | infinite otherNegative =>
      rw [found, foundOther] at same
      cases same
      refine Or.inl (eq_of_read word other bounded boundedOther (found.trans foundOther.symm) ?_)
      rw [found]
      exact fun impossible => nomatch impossible
  | finite negative significand exponent =>
    cases foundOther : f.read other with
    | infinite => rw [found, foundOther] at same; cases same
    | undefined => rw [found, foundOther] at same; cases same
    | finite otherNegative otherSignificand otherExponent =>
      by_cases none : significand = 0
      · exact Or.inr (Or.inl (by simp [Reading.meaning, none]))
      · rw [found, foundOther, Reading.meaning, Reading.meaning, Meaning.number.injEq] at same
        obtain ⟨signs, sizes⟩ :=
          signOf_mul_eq negative otherNegative _ _ (by positivity) (by positivity) same
        obtain ⟨significands, exponents⟩ := read_eq_of_value proper word other negative
          otherNegative significand otherSignificand exponent otherExponent found foundOther none
          sizes
        refine Or.inl (eq_of_read word other bounded boundedOther ?_ ?_)
        · rw [found, foundOther, signs, significands, exponents]
        · rw [found]
          exact fun impossible => nomatch impossible

/-! ### Writing readings -/

/-- An undefined word has the reserved field and a fraction. -/
theorem fields_undefinedWord (negative : Bool) (payload : Nat) (fits : payload < 2 ^ 64) :
    ∃ fraction, fraction ≠ 0 ∧ fraction < 2 ^ f.fractionBits ∧
      f.undefinedWord negative payload = f.pack negative f.reserved fraction := by
  have leading := proper.leading
  have narrow := proper.narrow
  have short : payload / 2 ^ (64 - f.fractionBits) < 2 ^ f.fractionBits := by
    rw [Nat.div_lt_iff_lt_mul (Nat.two_pow_pos _), ← Nat.pow_add, Nat.add_sub_of_le narrow]
    exact fits
  have quiet : 2 ^ (f.fractionBits - 1) < 2 ^ f.fractionBits :=
    Nat.pow_lt_pow_right (by decide) (by rw [fractionBits]; omega)
  refine ⟨_, ?_, Nat.or_lt_two_pow short quiet, rfl⟩
  have positive := Nat.two_pow_pos (f.fractionBits - 1)
  have larger : 2 ^ (f.fractionBits - 1) ≤
      payload / 2 ^ (64 - f.fractionBits) ||| 2 ^ (f.fractionBits - 1) := Nat.right_le_or
  omega

/-- The payload of a word is told at the top of 64 bits. -/
theorem fits_read (word : Nat) : (f.read word).Fits := by
  have narrow := proper.narrow
  have fraction := Nat.mod_lt word (Nat.two_pow_pos f.fractionBits)
  simp only [read]
  split
  · split
    · trivial
    · calc word % 2 ^ f.fractionBits * 2 ^ (64 - f.fractionBits)
          < 2 ^ f.fractionBits * 2 ^ (64 - f.fractionBits) :=
            Nat.mul_lt_mul_of_pos_right fraction (Nat.two_pow_pos _)
        _ = 2 ^ 64 := by rw [← Nat.pow_add, Nat.add_sub_of_le narrow]
  · split <;> trivial

/-- A word that was written stands for what the reading does. -/
theorem meaning_write (reading : Reading) (fits : reading.Fits) (word : Nat)
    (written : f.write? reading = some word) :
    f.meaning word = reading.meaning ∧ word < 2 ^ (f.fractionBits + f.exponentBits + 1) := by
  rw [← meaning_read proper]
  cases reading with
  | finite negative significand exponent =>
    exact meaning_encode proper negative significand exponent word written
  | infinite negative =>
    cases written
    obtain ⟨_, _, _, bounded⟩ := fields_pack negative f.reserved 0
      (reserved_lt (f := f)) (Nat.two_pow_pos f.fractionBits)
    exact ⟨congrArg Reading.meaning (read_infinity negative), bounded⟩
  | undefined negative payload =>
    cases written
    obtain ⟨fraction, some, short, word⟩ := fields_undefinedWord proper negative payload fits
    obtain ⟨sign, field, low, bounded⟩ := fields_pack negative f.reserved fraction
      (reserved_lt (f := f)) short
    rw [word]
    refine ⟨?_, bounded⟩
    simp only [read, sign, field, low, if_true, if_neg some, Reading.meaning]

/-- What some word stands for can be written. -/
theorem write_of_meaning (reading : Reading) (word : Nat)
    (held : f.meaning word = reading.meaning) : ∃ result, f.write? reading = some result := by
  cases reading with
  | infinite negative => exact ⟨_, rfl⟩
  | undefined negative payload => exact ⟨_, rfl⟩
  | finite negative significand exponent =>
    rw [← meaning_read proper] at held
    cases found : f.read word with
    | infinite => rw [found] at held; cases held
    | undefined => rw [found] at held; cases held
    | finite other mantissa greater =>
      rw [found, Reading.meaning, Reading.meaning, Meaning.number.injEq] at held
      refine encode_of_read proper word negative other significand mantissa exponent greater found
        ?_
      by_cases none : mantissa = 0
      · rw [none, Nat.cast_zero, zero_mul, mul_zero] at held
        rw [none, Nat.cast_zero, zero_mul]
        cases negative <;> simpa [signOf] using held.symm
      · exact (signOf_mul_eq other negative _ _ (by positivity) (by positivity) held).2.symm

end

end Format

end RegionGraph.Binary
