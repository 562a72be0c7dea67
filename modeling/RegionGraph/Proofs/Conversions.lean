import Mathlib.Data.List.Forall2
import RegionGraph.Proofs.Words
import RegionGraph.Value

/-!
# Exact conversions

An element of a number type stands for a whole number or for what its word does. Conversion reads
this from one element and writes it as another, so everything about it follows from two facts of
each type: an element that was made for a reading stands for the same (`meaning_ofReading`), and
what some element of the type stands for has an element made for it (`ofReading_of_meaning`).

Converting there and back is then the identity as far as elements are told apart by what they
stand for, which fails only for the two zeros and for undefined elements (`eq_of_meaning`).
-/

namespace RegionGraph

open Binary (Meaning Reading single double)

namespace ElementType

/-! ### What elements stand for -/

/-- The whole number that an element is. -/
def integer? : (type : ElementType) → type.Carrier → Option ℤ
  | byte, value => some value.toNat
  | int16, value => some value.toInt
  | uint16, value => some value.toNat
  | int32, value => some value.toInt
  | uint32, value => some value.toNat
  | int64, value => some value.toInt
  | uint64, value => some value.toNat
  | real32, _ | real64, _ | bool, _ | handle, _ => none

/-- What an element stands for: its whole number, or what its word means. Truth values and
handles stand for nothing that compares with numbers. -/
def meaning? (type : ElementType) (value : type.Carrier) : Option Meaning :=
  match type with
  | real32 => some (single.meaning value.bits.toNat)
  | real64 => some (double.meaning value.bits.toNat)
  | other => (other.integer? value).map (fun whole => .number whole)

/-- A type is one of the floating-point types or none of them. -/
theorem real_cases (type : ElementType) :
    type = .real32 ∨ type = .real64 ∨ type.isReal = false := by
  cases type <;> decide

/-- Elements of types that are no floating-point types stand for their whole numbers. -/
theorem meaning?_whole (type : ElementType) (whole : type.isReal = false) (value : type.Carrier) :
    type.meaning? value = (type.integer? value).map (fun whole => .number whole) := by
  cases type <;> first | rfl | cases whole

/-- They are read with the signs and the sizes of these. -/
theorem reading?_whole (type : ElementType) (whole : type.isReal = false) (value : type.Carrier) :
    type.reading? value =
      (type.integer? value).map (fun whole => .finite (whole < 0) whole.natAbs 0) := by
  have unsigned (natural : Nat) : some (Reading.finite false natural 0) =
      (some (natural : ℤ)).map (fun whole => .finite (whole < 0) whole.natAbs 0) := by
    simp
  cases type with
  | byte => exact unsigned value.toNat
  | uint16 => exact unsigned value.toNat
  | uint32 => exact unsigned value.toNat
  | uint64 => exact unsigned value.toNat
  | int16 => rfl
  | int32 => rfl
  | int64 => rfl
  | bool => rfl
  | handle => rfl
  | real32 => cases whole
  | real64 => cases whole

/-- Reading an element gives what it stands for. -/
theorem meaning?_eq (type : ElementType) (value : type.Carrier) :
    type.meaning? value = (type.reading? value).map Reading.meaning := by
  rcases type.real_cases with rfl | rfl | whole
  · exact congrArg some (Binary.Format.meaning_read Binary.Format.single_proper _).symm
  · exact congrArg some (Binary.Format.meaning_read Binary.Format.double_proper _).symm
  · rw [meaning?_whole type whole, reading?_whole type whole, Option.map_map]
    congr 1
    funext number
    exact (Reading.meaning_whole number).symm

/-- What is read from an element fits 64 bits. -/
theorem fits_of_reading (type : ElementType) (value : type.Carrier) (reading : Reading)
    (found : type.reading? value = some reading) : reading.Fits := by
  cases type <;> cases found <;> first
    | trivial
    | exact Binary.Format.fits_read Binary.Format.single_proper _
    | exact Binary.Format.fits_read Binary.Format.double_proper _

/-! ### Whole numbers -/

/-- A reading is a whole number exactly if it stands for it. -/
theorem whole?_some_iff (reading : Reading) (whole : ℤ) :
    ofReading?.whole? reading = some whole ↔ reading.meaning = .number whole := by
  cases reading with
  | infinite negative => exact ⟨nofun, nofun⟩
  | undefined negative payload => exact ⟨nofun, nofun⟩
  | finite negative significand exponent =>
    have told : ofReading?.whole? (.finite negative significand exponent) =
        if significand % 2 ^ (0 - exponent).toNat = 0 then
          some (if negative then -(Binary.rescale significand exponent 0 : ℤ)
            else Binary.rescale significand exponent 0)
        else none := by
      rw [Binary.rescale, zero_sub, sub_zero]
      rfl
    have sized (kept : significand % 2 ^ (0 - exponent).toNat = 0) :
        (significand : ℚ) * 2 ^ exponent = Binary.rescale significand exponent 0 := by
      rw [← Binary.rescale_value significand exponent 0 kept, zpow_zero, mul_one]
    rw [told, Reading.meaning, Meaning.number.injEq, Binary.signOf]
    constructor
    · intro found
      split at found
      case isFalse lost => cases found
      case isTrue kept =>
        rw [sized kept, ← Option.some.inj found]
        cases negative <;> simp
    · intro same
      have size : (significand : ℚ) * 2 ^ exponent = whole.natAbs * 2 ^ (0 : ℤ) := by
        have positive : (0 : ℚ) ≤ significand * 2 ^ exponent := by positivity
        rw [zpow_zero, mul_one, Nat.cast_natAbs, Int.cast_abs, ← same, abs_mul,
          abs_of_nonneg positive]
        cases negative <;> simp
      have kept := Binary.whole_of_eq significand whole.natAbs exponent 0 0 le_rfl size
      rw [if_pos kept, Option.some.injEq]
      rw [sized kept] at same
      have exact : (((if negative then -(Binary.rescale significand exponent 0 : ℤ)
          else Binary.rescale significand exponent 0 : ℤ)) : ℚ) = whole := by
        rw [← same]
        cases negative <;> simp
      exact_mod_cast exact

/-- Elements that are the whole numbers of an interval are found by their numbers. -/
theorem found_iff {α : Type} (low high : ℤ) (number : α → ℤ) (element : ℤ → α)
    (inside : ∀ value, low ≤ number value ∧ number value < high)
    (numbered : ∀ whole, low ≤ whole → whole < high → number (element whole) = whole)
    (back : ∀ value, element (number value) = value) (whole : ℤ) (value : α) :
    (if low ≤ whole ∧ whole < high then some (element whole) else none) = some value ↔
      some (number value) = some whole := by
  rw [Option.some.injEq]
  constructor
  · intro found
    split at found
    case isTrue within =>
      rw [← Option.some.inj found, numbered whole within.1 within.2]
    case isFalse outside => cases found
  · rintro rfl
    rw [if_pos (inside value), back]

/-- So are elements that are the natural numbers below a bound. -/
theorem foundNatural_iff {α : Type} (high : ℤ) (number : α → Nat) (element : Nat → α)
    (small : ∀ value, (number value : ℤ) < high)
    (numbered : ∀ natural : Nat, (natural : ℤ) < high → number (element natural) = natural)
    (back : ∀ value, element (number value) = value) (whole : ℤ) (value : α) :
    (if 0 ≤ whole ∧ whole < high then some (element whole.toNat) else none) = some value ↔
      some (number value : ℤ) = some whole := by
  refine found_iff 0 high (fun value => number value) (fun whole => element whole.toNat)
    (fun value => ⟨Int.natCast_nonneg _, small value⟩) (fun whole low below => ?_) back whole value
  have natural : (whole.toNat : ℤ) = whole := Int.toNat_of_nonneg low
  rw [numbered whole.toNat (natural.symm ▸ below), natural]

/-- An element of a type of whole numbers is found exactly if it is the number. -/
theorem ofInt?_some_iff (type : ElementType) (whole : ℤ) (value : type.Carrier) :
    type.ofInt? whole = some value ↔ type.integer? value = some whole := by
  cases type with
  | byte =>
    refine foundNatural_iff (2 ^ 8) UInt8.toNat UInt8.ofNat (fun value => ?_)
      (fun natural small => UInt8.toNat_ofNat_of_lt' ?_) (fun value => value.ofNat_toNat) whole
      value
    · exact_mod_cast value.toNat_lt
    · exact_mod_cast small
  | uint16 =>
    refine foundNatural_iff (2 ^ 16) UInt16.toNat UInt16.ofNat (fun value => ?_)
      (fun natural small => UInt16.toNat_ofNat_of_lt' ?_) (fun value => value.ofNat_toNat) whole
      value
    · exact_mod_cast value.toNat_lt
    · exact_mod_cast small
  | uint32 =>
    refine foundNatural_iff (2 ^ 32) UInt32.toNat UInt32.ofNat (fun value => ?_)
      (fun natural small => UInt32.toNat_ofNat_of_lt' ?_) (fun value => value.ofNat_toNat) whole
      value
    · exact_mod_cast value.toNat_lt
    · exact_mod_cast small
  | uint64 =>
    refine foundNatural_iff (2 ^ 64) UInt64.toNat UInt64.ofNat (fun value => ?_)
      (fun natural small => UInt64.toNat_ofNat_of_lt' ?_) (fun value => value.ofNat_toNat) whole
      value
    · exact_mod_cast value.toNat_lt
    · exact_mod_cast small
  | int16 =>
    exact found_iff (-2 ^ 15) (2 ^ 15) Int16.toInt Int16.ofInt
      (fun value => ⟨value.le_toInt, value.toInt_lt⟩)
      (fun whole low high => Int16.toInt_ofInt_of_le low high) (fun value => value.ofInt_toInt)
      whole value
  | int32 =>
    exact found_iff (-2 ^ 31) (2 ^ 31) Int32.toInt Int32.ofInt
      (fun value => ⟨value.le_toInt, value.toInt_lt⟩)
      (fun whole low high => Int32.toInt_ofInt_of_le low high) (fun value => value.ofInt_toInt)
      whole value
  | int64 =>
    exact found_iff (-2 ^ 63) (2 ^ 63) Int64.toInt Int64.ofInt
      (fun value => ⟨value.le_toInt, value.toInt_lt⟩)
      (fun whole low high => Int64.toInt_ofInt_of_le low high) (fun value => value.ofInt_toInt)
      whole value
  | real32 => exact ⟨nofun, nofun⟩
  | real64 => exact ⟨nofun, nofun⟩
  | bool => exact ⟨nofun, nofun⟩
  | handle => exact ⟨nofun, nofun⟩

/-! ### Elements for readings -/

/-- Types that are no floating-point types take readings through their whole numbers. -/
theorem ofReading?_whole (type : ElementType) (whole : type.isReal = false) (reading : Reading) :
    type.ofReading? reading = (ofReading?.whole? reading).bind type.ofInt? := by
  cases type <;> first | rfl | cases whole

/-- An element that was made for a reading stands for the same. -/
theorem meaning_ofReading (type : ElementType) (reading : Reading) (fits : reading.Fits)
    (value : type.Carrier) (made : type.ofReading? reading = some value) :
    type.meaning? value = some reading.meaning := by
  rcases type.real_cases with rfl | rfl | real
  · obtain ⟨word, written, rfl⟩ := Option.map_eq_some_iff.mp made
    obtain ⟨means, small⟩ :=
      Binary.Format.meaning_write Binary.Format.single_proper reading fits word written
    rw [meaning?, UInt32.toNat_ofNat_of_lt' small, means]
  · obtain ⟨word, written, rfl⟩ := Option.map_eq_some_iff.mp made
    obtain ⟨means, small⟩ :=
      Binary.Format.meaning_write Binary.Format.double_proper reading fits word written
    rw [meaning?, UInt64.toNat_ofNat_of_lt' small, means]
  · rw [ofReading?_whole type real, Option.bind_eq_some_iff] at made
    obtain ⟨whole, told, found⟩ := made
    rw [meaning?_whole type real, (ofInt?_some_iff type whole value).mp found, Option.map_some,
      (whole?_some_iff reading whole).mp told]

/-- What some element of a type stands for has an element of that type made for it. -/
theorem ofReading_of_meaning (type : ElementType) (reading : Reading) (value : type.Carrier)
    (held : type.meaning? value = some reading.meaning) :
    ∃ made, type.ofReading? reading = some made := by
  rcases type.real_cases with rfl | rfl | real
  · obtain ⟨word, written⟩ := Binary.Format.write_of_meaning Binary.Format.single_proper reading
      value.bits.toNat (Option.some.inj held)
    exact ⟨_, Option.map_eq_some_iff.mpr ⟨word, written, rfl⟩⟩
  · obtain ⟨word, written⟩ := Binary.Format.write_of_meaning Binary.Format.double_proper reading
      value.bits.toNat (Option.some.inj held)
    exact ⟨_, Option.map_eq_some_iff.mpr ⟨word, written, rfl⟩⟩
  · rw [meaning?_whole type real] at held
    obtain ⟨whole, found, means⟩ := Option.map_eq_some_iff.mp held
    refine ⟨value, ?_⟩
    rw [ofReading?_whole type real, (whole?_some_iff reading whole).mpr means.symm]
    exact (ofInt?_some_iff type whole value).mpr found

/-- Elements of one type that stand for the same are the same, but for the two zeros and for
undefined elements of floating-point types. -/
theorem eq_of_meaning (type : ElementType) (value other : type.Carrier) (meaning : Meaning)
    (held : type.meaning? value = some meaning) (heldOther : type.meaning? other = some meaning) :
    value = other ∨ type.isReal = true ∧ (meaning = .number 0 ∨ meaning = .undefined) := by
  rcases type.real_cases with rfl | rfl | real
  · rw [meaning?, Option.some.injEq] at held heldOther
    rcases Binary.Format.eq_of_meaning Binary.Format.single_proper _ _ value.bits.toNat_lt
      other.bits.toNat_lt (held.trans heldOther.symm) with same | special
    · exact Or.inl (congrArg Real32.mk (UInt32.toNat_inj.mp same))
    · exact Or.inr ⟨rfl, held ▸ special⟩
  · rw [meaning?, Option.some.injEq] at held heldOther
    rcases Binary.Format.eq_of_meaning Binary.Format.double_proper _ _ value.bits.toNat_lt
      other.bits.toNat_lt (held.trans heldOther.symm) with same | special
    · exact Or.inl (congrArg Real64.mk (UInt64.toNat_inj.mp same))
    · exact Or.inr ⟨rfl, held ▸ special⟩
  · rw [meaning?_whole type real] at held heldOther
    obtain ⟨whole, found, means⟩ := Option.map_eq_some_iff.mp held
    obtain ⟨wholeOther, foundOther, meansOther⟩ := Option.map_eq_some_iff.mp heldOther
    have same : whole = wholeOther := by
      have numbers := means.trans meansOther.symm
      rw [Meaning.number.injEq] at numbers
      exact_mod_cast numbers
    have element := (ofInt?_some_iff type whole value).mpr found
    have elementOther := (ofInt?_some_iff type wholeOther other).mpr foundOther
    rw [← same, element] at elementOther
    exact Or.inl (Option.some.inj elementOther)

/-- The types whose elements stand for something are those of numbers. -/
theorem numeric_of_meaning (type : ElementType) (value : type.Carrier) :
    (∃ meaning, type.meaning? value = some meaning) ↔ type.isNumeric = true := by
  cases type <;> simp [meaning?, integer?, isNumeric, isInteger, isReal]

/-- Infinities and undefined numbers are elements of the floating-point types only, and of
both of them. -/
theorem real_of_meaning (type : ElementType) (meaning : Meaning)
    (special : (∃ negative, meaning = .infinite negative) ∨ meaning = .undefined) :
    (∃ value : type.Carrier, type.meaning? value = some meaning) ↔ type.isReal = true := by
  constructor
  · rintro ⟨value, held⟩
    rcases type.real_cases with rfl | rfl | real
    · rfl
    · rfl
    · rw [meaning?_whole type real] at held
      obtain ⟨whole, _, rfl⟩ := Option.map_eq_some_iff.mp held
      rcases special with ⟨_, impossible⟩ | impossible <;> cases impossible
  · intro real
    have exists_write (reading : Reading) (fits : reading.Fits) (means : reading.meaning = meaning)
        (inSingle : ∃ word, single.write? reading = some word)
        (inDouble : ∃ word, double.write? reading = some word) :
        ∃ value : type.Carrier, type.meaning? value = some meaning := by
      have made : ∃ value, type.ofReading? reading = some value := by
        rcases type.real_cases with rfl | rfl | whole
        · exact inSingle.imp' _ fun word written => Option.map_eq_some_iff.mpr ⟨word, written, rfl⟩
        · exact inDouble.imp' _ fun word written => Option.map_eq_some_iff.mpr ⟨word, written, rfl⟩
        · rw [whole] at real
          cases real
      obtain ⟨value, found⟩ := made
      exact ⟨value, (type.meaning_ofReading reading fits value found).trans (congrArg some means)⟩
    rcases special with ⟨negative, rfl⟩ | rfl
    · exact exists_write (.infinite negative) trivial rfl ⟨_, rfl⟩ ⟨_, rfl⟩
    · exact exists_write (.undefined false 0) (Nat.two_pow_pos 64) rfl ⟨_, rfl⟩ ⟨_, rfl⟩

end ElementType

namespace Scalar

/-! ### Converted scalars -/

/-- What a scalar stands for. -/
def meaning? (scalar : Scalar) : Option Meaning := scalar.type.meaning? scalar.value

/-- Scalars are equal if they are one element of one type, two zeros of it, or undefined both. -/
def Equals (scalar other : Scalar) : Prop :=
  scalar = other ∨ scalar.type = other.type ∧ scalar.type.isReal = true ∧
    (scalar.meaning? = some (.number 0) ∧ other.meaning? = some (.number 0) ∨
      scalar.meaning? = some .undefined ∧ other.meaning? = some .undefined)

/-- A scalar of another type is converted by writing what was read from it. -/
theorem convert?_of_reading (scalar : Scalar) (target : ElementType)
    (other : scalar.type ≠ target) (reading : Reading)
    (found : scalar.type.reading? scalar.value = some reading) :
    scalar.convert? target = (target.ofReading? reading).map (Scalar.mk target) := by
  rw [convert?, if_neg other, found]
  cases held : target.ofReading? reading <;> simp [held]

/-- A scalar converts to another type exactly if some element of that type stands for the
same. -/
theorem converts_iff (scalar : Scalar) (target : ElementType) (other : scalar.type ≠ target) :
    (∃ result, scalar.convert? target = some result) ↔
      ∃ meaning value, scalar.meaning? = some meaning ∧ target.meaning? value = some meaning := by
  rw [meaning?, scalar.type.meaning?_eq]
  constructor
  · rintro ⟨result, converted⟩
    cases found : scalar.type.reading? scalar.value with
    | none =>
      rw [convert?, if_neg other, found] at converted
      cases converted
    | some reading =>
      rw [scalar.convert?_of_reading target other reading found] at converted
      obtain ⟨value, made, rfl⟩ := Option.map_eq_some_iff.mp converted
      have fits := scalar.type.fits_of_reading scalar.value reading found
      exact ⟨reading.meaning, value, rfl, target.meaning_ofReading reading fits value made⟩
  · rintro ⟨meaning, value, held, heldOther⟩
    obtain ⟨reading, found, rfl⟩ := Option.map_eq_some_iff.mp held
    obtain ⟨made, written⟩ := target.ofReading_of_meaning reading value heldOther
    rw [scalar.convert?_of_reading target other reading found, written]
    exact ⟨_, rfl⟩

/-- A scalar stands for the same after conversion. -/
theorem meaning_convert (scalar : Scalar) (target : ElementType) (result : Scalar)
    (converted : scalar.convert? target = some result) : result.meaning? = scalar.meaning? := by
  by_cases own : scalar.type = target
  · rw [convert?, if_pos own, Option.some.injEq] at converted
    rw [converted]
  · rw [meaning?, meaning?, scalar.type.meaning?_eq]
    cases found : scalar.type.reading? scalar.value with
    | none =>
      rw [convert?, if_neg own, found] at converted
      cases converted
    | some reading =>
      rw [scalar.convert?_of_reading target own reading found] at converted
      obtain ⟨value, made, rfl⟩ := Option.map_eq_some_iff.mp converted
      exact target.meaning_ofReading reading
        (scalar.type.fits_of_reading scalar.value reading found) value made

/-- Converting back gives a scalar that equals the first. -/
theorem convert_back (scalar : Scalar) (target : ElementType) (result : Scalar)
    (converted : scalar.convert? target = some result) :
    ∃ again, result.convert? scalar.type = some again ∧ again.Equals scalar := by
  have typed := type_of_convert? converted
  by_cases own : scalar.type = target
  · rw [convert?, if_pos own, Option.some.injEq] at converted
    exact ⟨scalar, converted ▸ scalar.convert?_self, Or.inl rfl⟩
  · have same := scalar.meaning_convert target result converted
    obtain ⟨meaning, _, held, _⟩ := (scalar.converts_iff target own).mp ⟨result, converted⟩
    obtain ⟨again, returned⟩ := (result.converts_iff scalar.type (typed ▸ Ne.symm own)).mpr
      ⟨meaning, scalar.value, same.trans held, held⟩
    refine ⟨again, returned, ?_⟩
    have heldAgain := (result.meaning_convert scalar.type again returned).trans (same.trans held)
    have typedAgain := type_of_convert? returned
    obtain ⟨type, value⟩ := scalar
    obtain ⟨_, valueAgain⟩ := again
    cases typedAgain
    rcases type.eq_of_meaning valueAgain value meaning heldAgain held with alike | ⟨real, special⟩
    · exact Or.inl (congrArg (Scalar.mk type) alike)
    · refine Or.inr ⟨rfl, real, ?_⟩
      rcases special with rfl | rfl
      · exact Or.inl ⟨heldAgain, held⟩
      · exact Or.inr ⟨heldAgain, held⟩

/-- An element of a type stands for the same as a scalar if both are one number, or if the scalar
is no number and the type is a floating-point one. -/
theorem shared_iff (scalar : Scalar) (target : ElementType) :
    (∃ meaning value, scalar.meaning? = some meaning ∧ target.meaning? value = some meaning) ↔
      scalar.type.isNumeric = true ∧ target.isNumeric = true ∧
          (∃ (number : ℚ) (value : target.Carrier), scalar.meaning? = some (.number number) ∧
            target.meaning? value = some (.number number)) ∨
        ((∃ negative, scalar.meaning? = some (.infinite negative)) ∨
          scalar.meaning? = some .undefined) ∧ target.isReal = true := by
  constructor
  · rintro ⟨meaning, value, held, heldOther⟩
    have numeric := (scalar.type.numeric_of_meaning scalar.value).mp ⟨meaning, held⟩
    have numericOther := (target.numeric_of_meaning value).mp ⟨meaning, heldOther⟩
    cases meaning with
    | number number => exact Or.inl ⟨numeric, numericOther, number, value, held, heldOther⟩
    | infinite negative =>
      exact Or.inr ⟨Or.inl ⟨negative, held⟩,
        (target.real_of_meaning _ (Or.inl ⟨negative, rfl⟩)).mp ⟨value, heldOther⟩⟩
    | undefined =>
      exact Or.inr ⟨Or.inr held, (target.real_of_meaning _ (Or.inr rfl)).mp ⟨value, heldOther⟩⟩
  · rintro (⟨_, _, number, value, held, heldOther⟩ | ⟨special, real⟩)
    · exact ⟨_, value, held, heldOther⟩
    · rcases special with ⟨negative, held⟩ | held
      · obtain ⟨value, heldOther⟩ := (target.real_of_meaning _ (Or.inl ⟨negative, rfl⟩)).mpr real
        exact ⟨_, value, held, heldOther⟩
      · obtain ⟨value, heldOther⟩ := (target.real_of_meaning _ (Or.inr rfl)).mpr real
        exact ⟨_, value, held, heldOther⟩

/-- Scalars all convert exactly if each of them does. -/
theorem mapM_convert_iff (target : ElementType) (items results : List Scalar) :
    items.mapM (fun item : Scalar => item.convert? target) = some results ↔
      List.Forall₂ (fun item result => item.convert? target = some result) items results := by
  induction items generalizing results with
  | nil =>
    rw [List.mapM_nil, List.forall₂_nil_left_iff]
    exact ⟨fun same => (Option.some.inj same).symm, fun same => same ▸ rfl⟩
  | cons item rest inductionHypothesis =>
    rw [List.mapM_cons, List.forall₂_cons_left_iff]
    simp only [Option.bind_eq_bind, Option.bind_eq_some_iff, Option.pure_def, Option.some.injEq]
    constructor
    · rintro ⟨result, first, others, passed, rfl⟩
      exact ⟨result, others, first, (inductionHypothesis others).mp passed, rfl⟩
    · rintro ⟨result, others, first, passed, rfl⟩
      exact ⟨result, first, others, (inductionHypothesis others).mpr passed, rfl⟩

end Scalar

end RegionGraph
