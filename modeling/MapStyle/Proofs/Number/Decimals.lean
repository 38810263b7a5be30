import MapStyle.Proofs.Json.Real
import MapStyle.Proofs.Number.Laws
import MapStyle.Proofs.Number.Sign

/-!
# Numbers that are read

An integer within the range of fractional numbers becomes the nearest one, which is finite. A
decimal becomes a number that is not below zero; and where it is not above a power of two within the
range, the number is finite and not above the power either, since rounding does not pass it.
-/

namespace MapStyle

set_option autoImplicit false

open OrderedArithmetic (place?)

/-- The exponent of the largest power of two among fractional numbers. -/
def largestPower : Nat := 1023

/-- What is read as a fractional number is not far from what has been written. -/
class DecimalArithmetic (F : Type) [Arithmetic F] [OrderedArithmetic F] : Prop where
  isFinite_ofRat? : ∀ (exact : Rat) (nearest : F), Arithmetic.ofRat? exact = some nearest →
    Arithmetic.isFinite nearest = true
  notBelow : ∀ mantissa places : Nat,
    AtLeast 0 (OfScientific.ofScientific mantissa true places : F)
  notAbove : ∀ mantissa places power : Nat, power ≤ largestPower →
    mantissa ≤ 2 ^ power * 10 ^ places →
    ∃ value : Rat, place? (OfScientific.ofScientific mantissa true places : F) =
      some (.ofRat value) ∧ value ≤ 2 ^ power

theorem ofScientific_rat (mantissa places : Nat) :
    (OfScientific.ofScientific mantissa true places : Rat) = mantissa / 10 ^ places := by
  show Rat.ofScientific mantissa true places = _
  rw [Rat.ofScientific_true_def, Rat.mkRat_eq_div]
  push_cast
  rfl

/-- Exact numbers are what has been written. -/
instance : DecimalArithmetic Rat where
  isFinite_ofRat? _ _ _ := rfl
  notBelow mantissa places := by
    rw [atLeast_rat, ofScientific_rat]
    positivity
  notAbove mantissa places power _ below := by
    refine ⟨_, rfl, ?_⟩
    rw [ofScientific_rat, div_le_iff₀ (by positivity)]
    exact_mod_cast below

namespace Double

open MapStyle.Decimal (Binary64 roundHalfEven twoTo tenTo digitCount)
open Float.Model (Format UnpackedFloat)
open Float.Model.UnpackedFloat

/-! ### Finite doubles -/

theorem isFinite_iff {value : Float} :
    Arithmetic.isFinite value = true ↔ ∃ parts, parts? value.toModel.unpack = some parts := by
  have unpacked : binary64? value = parts? value.toModel.unpack := ofBits?_eq_parts _
  show ((binary64? value).map Binary64.toRat).isSome = true ↔ _
  rw [unpacked, Option.isSome_map, Option.isSome_iff_exists]

theorem place?_of_parts {value : Float} {parts : Binary64}
    (isParts : parts? value.toModel.unpack = some parts) :
    place? value = some (.ofRat parts.toRat) := by
  apply (toRat_parts?_iff value.toModel.unpack parts.toRat).mp
  rw [isParts]
  rfl

/-- Fields without the reserved exponent are those of a finite double. -/
theorem exists_parts_packComponents (sign : Sign) {field : BitVec Format.binary64.exponentBits}
    (fraction : BitVec Format.binary64.mantissaBitsWithoutImplicit) (finite : field ≠ -1#_) :
    ∃ parts, parts? (unpack Format.binary64
      (packComponents Format.binary64 sign field fraction)) = some parts := by
  simp only [unpack, unpackExponent_packComponents, if_neg finite]
  split_ifs <;> exact ⟨_, rfl⟩

theorem exists_parts_pack (sign : Sign) {significand : Nat} {exponent : Int}
    (positive : 0 < significand) (finite : exponent ≤ largestExponent) :
    ∃ parts, parts? (unpack Format.binary64
      (pack Format.binary64 (.finite sign significand exponent positive))) = some parts := by
  unfold largestExponent at finite
  rw [pack]
  dsimp only
  split_ifs with tooLarge
  · have impossible : 2048 ≤ (exponent + 1023 + 52).toNat + 1 := tooLarge
    omega
  · apply exists_parts_packComponents
    intro same
    have reserved := congrArg BitVec.toNat same
    rw [BitVec.toNat_ofNat] at reserved
    have isReserved : (exponent + 1023 + 52).toNat % 2048 = 2047 := reserved
    omega
  · exact exists_parts_packComponents _ _ (by decide)

/-- The opposite of a finite double is finite. -/
theorem isFinite_neg {value : Float} (finite : Arithmetic.isFinite value = true) :
    Arithmetic.isFinite (-value) = true := by
  rw [isFinite_iff] at finite ⊢
  obtain ⟨parts, isParts⟩ := finite
  have bounds := canonical_of_parts ((ofBits?_eq_parts _).trans isParts)
  show ∃ parts, parts? (unpack Format.binary64 (pack Format.binary64
    value.toModel.unpack.neg)) = some parts
  cases isUnpacked : value.toModel.unpack with
  | notANumber =>
      rw [isUnpacked] at isParts
      cases isParts
  | infinity sign =>
      rw [isUnpacked] at isParts
      cases isParts
  | zero sign =>
      rw [UnpackedFloat.neg, pack, unpack_packedZero]
      exact ⟨_, rfl⟩
  | finite sign significand exponent positive =>
      rw [isUnpacked] at isParts
      cases isParts
      exact exists_parts_pack _ positive bounds.2

theorem isFinite_ofBits {bits : Nat} (finite : bits < Binary64.reservedField * twoTo 52) :
    Arithmetic.isFinite (Float.ofBits (UInt64.ofNat bits)) = true := by
  show ((Binary64.ofBits? (Float.ofBits (UInt64.ofNat bits)).toBits.toNat).map _).isSome = true
  rw [toBits_ofBits finite, Option.isSome_map]
  unfold Binary64.ofBits?
  have notReserved : bits / twoTo 52 % twoTo 11 ≠ Binary64.reservedField := by
    have small : bits / twoTo 52 < Binary64.reservedField :=
      (Nat.div_lt_iff_lt_mul (Decimal.twoTo_pos 52)).mpr finite
    have own := Nat.mod_le (bits / twoTo 52) (twoTo 11)
    omega
  dsimp only
  rw [if_neg notReserved]
  split_ifs <;> rfl

/-! ### Rounding up to a power of two -/

/-- Rounding does not pass an integer. -/
theorem roundHalfEven_le_of_le {numerator denominator bound : Nat} (positive : 0 < denominator)
    (notAbove : numerator ≤ bound * denominator) :
    roundHalfEven numerator denominator ≤ bound := by
  obtain below | rfl := Nat.lt_or_eq_of_le notAbove
  · have floor := (Nat.div_lt_iff_lt_mul positive).mpr below
    exact (roundHalfEven_le numerator denominator).trans floor
  · unfold roundHalfEven
    rw [Nat.mul_div_cancel _ positive, Nat.mul_mod_left]
    exact (if_pos positive).le

/-- An exponent of the last place of the doubles around a quotient. -/
structure IsLastPlace (quotient : Rat) (exponent : Int) : Prop where
  notBelow : Binary64.leastExponent ≤ exponent
  full : 2 ^ 52 ≤ quotient / 2 ^ exponent ∨ exponent = Binary64.leastExponent
  fits : quotient / 2 ^ exponent ≤ 2 ^ 53

theorem isLastPlace_floorLog2 {numerator denominator : Nat} (positive : 0 < numerator)
    (otherPositive : 0 < denominator) :
    IsLastPlace ((numerator : Rat) / denominator)
      (max Binary64.leastExponent (Binary64.floorLog2 numerator denominator - 52)) := by
  obtain ⟨above, below⟩ := floorLog2_spec positive otherPositive
  generalize isUnit : max Binary64.leastExponent
    (Binary64.floorLog2 numerator denominator - 52) = exponent
  have unit : (0 : Rat) < 2 ^ exponent := by positivity
  refine ⟨by omega, ?_, ?_⟩
  · by_cases isLeast : exponent = Binary64.leastExponent
    · exact .inr isLeast
    · have isLog : Binary64.floorLog2 numerator denominator = 52 + exponent := by omega
      rw [isLog, zpow_add₀ (by norm_num)] at above
      exact .inl ((le_div_iff₀ unit).mpr above)
  · rw [div_le_iff₀ unit]
    calc (numerator : Rat) / denominator
        ≤ 2 ^ (Binary64.floorLog2 numerator denominator + 1) := below.le
      _ ≤ 2 ^ (53 + exponent) := zpow_le_zpow_right₀ (by norm_num) (by omega)
      _ = 2 ^ 53 * 2 ^ exponent := zpow_add₀ (by norm_num) 53 exponent

/-- A significand that has as many places as doubles around it, or is one more than the largest of
them, is stored as a double that is not above the same bound. -/
theorem exists_stored {significand steps : Nat} {exponent : Int}
    (notBelow : Binary64.leastExponent ≤ exponent)
    (shape : 2 ^ 52 ≤ significand ∨ exponent = Binary64.leastExponent)
    (underCarry : significand ≤ 2 ^ 53) (underSteps : significand ≤ 2 ^ steps)
    (within : exponent + steps ≤ largestPower) :
    ∃ stored final, Canonical stored final ∧ final ≤ largestExponent ∧
      (stored : Rat) * 2 ^ final ≤ 2 ^ steps * 2 ^ exponent ∧
      packed significand exponent = packed stored final := by
  have underValue : (significand : Rat) * 2 ^ exponent ≤ 2 ^ steps * 2 ^ exponent := by
    gcongr
    exact_mod_cast underSteps
  unfold largestPower at within
  obtain short | rfl := Nat.lt_or_eq_of_le underCarry
  · have finite : exponent ≤ largestExponent := by
      have least : Binary64.leastExponent = -1074 := rfl
      have most : largestExponent = 971 := rfl
      obtain long | isLeast := shape
      · have longer := (Nat.pow_le_pow_iff_right (by decide)).mp (long.trans underSteps)
        omega
      · omega
    exact ⟨significand, exponent, ⟨short, notBelow, shape⟩, finite, underValue, rfl⟩
  · -- The significand has been rounded up to a power of two, and the next exponent takes over.
    have finite : exponent + 1 ≤ largestExponent := by
      have longer := (Nat.pow_le_pow_iff_right (by decide)).mp underSteps
      unfold largestExponent
      omega
    have same : ((2 ^ 52 : Nat) : Rat) * 2 ^ (exponent + 1) = (2 ^ 53 : Nat) * 2 ^ exponent := by
      rw [zpow_add_one₀ (by norm_num)]
      push_cast
      ring
    exact ⟨2 ^ 52, exponent + 1, ⟨by norm_num, by omega, .inl le_rfl⟩, finite,
      same.trans_le underValue, packed_carried notBelow⟩

/-- What a quotient is rounded to in units of its last place makes a double that is not above the
next integer multiple of the unit. -/
theorem exists_rounded {quotient : Rat} {exponent : Int} {dividend divisor steps : Nat}
    (isLast : IsLastPlace quotient exponent) (positive : 0 < divisor)
    (isScaled : (dividend : Rat) / divisor = quotient / 2 ^ exponent)
    (notAbove : quotient ≤ 2 ^ steps * 2 ^ exponent) (within : exponent + steps ≤ largestPower) :
    ∃ significand final, Canonical significand final ∧ final ≤ largestExponent ∧
      (significand : Rat) * 2 ^ final ≤ 2 ^ steps * 2 ^ exponent ∧
      packed (roundHalfEven dividend divisor) exponent = packed significand final := by
  obtain ⟨notBelow, full, fits⟩ := isLast
  have unit : (0 : Rat) < 2 ^ exponent := by positivity
  have divisorPositive : (0 : Rat) < divisor := by exact_mod_cast positive
  rw [← isScaled] at full fits
  rw [← div_le_iff₀ unit, ← isScaled] at notAbove
  rw [div_le_iff₀ divisorPositive] at notAbove fits
  have underSteps : roundHalfEven dividend divisor ≤ 2 ^ steps :=
    roundHalfEven_le_of_le positive (by exact_mod_cast notAbove)
  have underCarry : roundHalfEven dividend divisor ≤ 2 ^ 53 :=
    roundHalfEven_le_of_le positive (by exact_mod_cast fits)
  have shape : 2 ^ 52 ≤ roundHalfEven dividend divisor ∨ exponent = Binary64.leastExponent := by
    refine full.imp_left fun long => ?_
    rw [le_div_iff₀ divisorPositive] at long
    have floor : 2 ^ 52 ≤ dividend / divisor :=
      (Nat.le_div_iff_mul_le positive).mpr (by exact_mod_cast long)
    exact floor.trans (div_le_roundHalfEven dividend divisor)
  exact exists_stored notBelow shape underCarry underSteps within

/-- Rounding to a double does not pass a power of two. -/
theorem nearestBits?_notAbove {numerator denominator power : Nat} (positive : 0 < numerator)
    (otherPositive : 0 < denominator) (within : power ≤ largestPower)
    (notAbove : (numerator : Rat) / denominator ≤ 2 ^ power) :
    ∃ significand exponent, Canonical significand exponent ∧ exponent ≤ largestExponent ∧
      (significand : Rat) * 2 ^ exponent ≤ 2 ^ power ∧
      Binary64.nearestBits? numerator denominator = some (packed significand exponent) := by
  have isLast := isLastPlace_floorLog2 positive otherPositive
  have logBelow : Binary64.floorLog2 numerator denominator ≤ power := by
    refine (zpow_le_zpow_iff_right₀ (one_lt_two (α := Rat))).mp
      ((floorLog2_spec positive otherPositive).1.trans ?_)
    rwa [zpow_natCast]
  obtain ⟨dividend, divisor, divisorPositive, isScaled, isRound⟩ :=
    exists_scaled numerator otherPositive
      (max Binary64.leastExponent (Binary64.floorLog2 numerator denominator - 52))
  unfold Binary64.nearestBits?
  dsimp only
  rw [if_neg positive.ne', isRound]
  generalize isUnit : max Binary64.leastExponent
    (Binary64.floorLog2 numerator denominator - 52) = exponent at isLast isScaled
  have least : Binary64.leastExponent = -1074 := rfl
  obtain ⟨steps, isSteps⟩ := Int.eq_ofNat_of_zero_le (show 0 ≤ power - exponent by omega)
  have isPower : (2 : Rat) ^ power = 2 ^ steps * 2 ^ exponent := by
    rw [← zpow_natCast, ← zpow_natCast, ← zpow_add₀ (by norm_num)]
    congr 1
    omega
  rw [isPower] at notAbove ⊢
  obtain ⟨significand, final, canonical, finite, underPower, isPacked⟩ :=
    exists_rounded isLast divisorPositive isScaled notAbove (by omega)
  refine ⟨significand, final, canonical, finite, underPower, ?_⟩
  have stored := packed_lt canonical finite
  rw [← isPacked] at stored ⊢
  exact if_pos stored

/-! ### Decimals -/

theorem place?_ofParts {significand : Nat} {exponent : Int}
    (canonical : Canonical significand exponent) (finite : exponent ≤ largestExponent) :
    place? (ofParts significand exponent) = some (.ofRat (significand * 2 ^ exponent)) := by
  rw [place?_of_parts (parts_ofParts canonical finite), toRat_eq]
  simp

theorem atLeast_ofBits {bits : Nat} (finite : bits < Binary64.reservedField * twoTo 52) :
    AtLeast 0 (Float.ofBits (UInt64.ofNat bits)) := by
  obtain ⟨parts, isParts⟩ := isFinite_iff.mp (isFinite_ofBits finite)
  have allows : NotBelow (Float.ofBits (UInt64.ofNat bits)) :=
    signAllows_iff.mp (signAllows_unpack (positive_unpackSign finite))
  exact ⟨_, place?_of_parts isParts, allows _ (place?_of_parts isParts)⟩

theorem atLeast_infinity (bound : Rat) : AtLeast bound infinity :=
  atLeast_of_infinity bound rfl

/-- What is read is not below zero, also where the decimal is above all doubles. -/
theorem atLeast_ofDecimal (mantissa places : Nat) : AtLeast 0 (ofDecimal mantissa true places) := by
  unfold ofDecimal
  dsimp only
  split
  · rename_i bits found
    apply atLeast_ofBits
    split_ifs at found
    · cases found
      decide
    · cases found
      decide
    · exact nearestBits?_lt found
    · exact nearestBits?_lt found
  · exact atLeast_infinity 0

theorem place?_zeroBits : place? (Float.ofBits (UInt64.ofNat 0)) = some (.ofRat 0) := by
  have least : Canonical 0 Binary64.leastExponent := ⟨by norm_num, le_rfl, .inr rfl⟩
  have isZero := place?_ofParts least (by decide)
  rw [Nat.cast_zero, zero_mul] at isZero
  exact isZero

/-- What is read is not above a power of two that the decimal is not above. -/
theorem ofDecimal_notAbove {mantissa places power : Nat} (within : power ≤ largestPower)
    (below : mantissa ≤ 2 ^ power * 10 ^ places) :
    ∃ value : Rat, place? (ofDecimal mantissa true places) = some (.ofRat value) ∧
      value ≤ 2 ^ power := by
  unfold ofDecimal
  by_cases isZero : mantissa = 0
  · rw [if_pos isZero]
    exact ⟨0, place?_zeroBits, by positivity⟩
  by_cases isSmall : digitCount mantissa + decimalRange < places
  · simp only [if_neg isZero, if_pos isSmall]
    exact ⟨0, place?_zeroBits, by positivity⟩
  have unit : (0 : Rat) < (tenTo places : Nat) := by exact_mod_cast Decimal.tenTo_pos places
  have notAbove : (mantissa : Rat) / (tenTo places : Nat) ≤ 2 ^ power := by
    rw [div_le_iff₀ unit]
    exact_mod_cast below
  obtain ⟨significand, exponent, canonical, finite, underPower, isNearest⟩ :=
    nearestBits?_notAbove (Nat.pos_of_ne_zero isZero) (Decimal.tenTo_pos places) within notAbove
  simp only [if_neg isZero, if_neg isSmall, isNearest]
  exact ⟨_, place?_ofParts canonical finite, underPower⟩

instance : DecimalArithmetic Float where
  isFinite_ofRat? exact nearest found := by
    obtain ⟨bits, isBits, rfl⟩ := Option.map_eq_some_iff.mp found
    have finite := isFinite_ofBits (nearestBits?_lt isBits)
    dsimp only
    split_ifs
    · exact isFinite_neg finite
    · exact finite
  notBelow := atLeast_ofDecimal
  notAbove _ _ _ := ofDecimal_notAbove

end Double

end MapStyle
