import Mathlib
import MapStyle.Proofs.Number.Nearest
import MapStyle.Proofs.Number.Scaling

/-!
# What rounding to a double leaves

A product or a quotient of doubles that is not tiny has a significand of 53 bits or more. Rounding
drops the bits behind the 53rd one, and where it adds one to the significand instead, the double
is above the result. So of quotients and products that are not tiny most is left, which is what
scaling asks of fractional numbers.
-/

namespace MapStyle.Double

set_option autoImplicit false

open MapStyle.Decimal (Binary64 twoTo)
open Float.Model (Format UnpackedFloat totalExponent)
open Float.Model.UnpackedFloat

/-! ### Rounding to the last place -/

section LastPlace

variable {significand places : Nat} {exponent : Int}

theorem shiftRight_mantissa (extended : ExtendedMantissa) (places : Nat) :
    (extended >>> places).mantissa = extended.mantissa / 2 ^ places := by
  show (places.repeat ExtendedMantissa.shiftRightOne extended).mantissa = _
  induction places with
  | zero => simp [Nat.repeat]
  | succ count ih =>
      rw [Nat.repeat, ExtendedMantissa.shiftRightOne, ih, Nat.div_div_eq_div_mul, pow_succ]

theorem mantissa_ofMantissaAndAccuracy (accuracy : Accuracy) :
    (ExtendedMantissa.ofMantissaAndAccuracy significand accuracy).mantissa = significand := by
  cases accuracy with
  | exact => rfl
  | inexact order => cases order <;> rfl

theorem roundedMantissa_bounds (extended : ExtendedMantissa) :
    extended.mantissa ≤ extended.roundedMantissa ∧
      extended.roundedMantissa ≤ extended.mantissa + 1 := by
  obtain ⟨mantissa, roundBit, stickyBit⟩ := extended
  cases roundBit <;> cases stickyBit <;>
    simp [ExtendedMantissa.roundedMantissa, ExtendedMantissa.accuracy,
      Accuracy.roundToNearestEven]
  omega

/-- Without the bits that are dropped a long significand has 53 bits. -/
theorem long_bounds (positive : 0 < significand) (long : significand.log2 = 52 + places) :
    2 ^ 52 * 2 ^ places ≤ significand ∧ 2 ^ 52 ≤ significand / 2 ^ places ∧
      significand / 2 ^ places < 2 ^ 53 := by
  have unit : 0 < 2 ^ places := Nat.two_pow_pos places
  have full : 2 ^ 52 * 2 ^ places ≤ significand := by
    rw [← pow_add, ← long]
    exact Nat.log2_self_le positive.ne'
  have fits : significand < 2 ^ 53 * 2 ^ places := by
    have below : significand < 2 ^ (significand.log2 + 1) := Nat.lt_log2_self
    rw [long, add_right_comm, pow_add] at below
    exact below
  exact ⟨full, (Nat.le_div_iff_mul_le unit).mpr full, (Nat.div_lt_iff_lt_mul unit).mpr fits⟩

/-- The exponent that rounding aims at leaves 53 bits of a significand, or fewer if it is the
least. -/
def aim (significand : Nat) (exponent : Int) : Int :=
  max (significand.log2 + exponent - 52) Binary64.leastExponent

theorem targetExponent_eq_aim :
    Format.binary64.targetExponent (totalExponent significand exponent) =
      aim significand exponent := by
  show max ((significand.log2 : Int) + 1 + exponent - 53) (-1074) = _
  unfold aim Binary64.leastExponent
  omega

/-- What is left of a significand has at most 53 bits, and has them unless the exponent is the
least. -/
theorem bounds_of_aim (isAim : aim significand exponent = exponent + places) :
    significand / 2 ^ places < 2 ^ 53 ∧
      (2 ^ 52 ≤ significand / 2 ^ places ∨ exponent + places = Binary64.leastExponent) := by
  have unit : 0 < 2 ^ places := Nat.two_pow_pos places
  unfold aim at isAim
  constructor
  · rw [Nat.div_lt_iff_lt_mul unit, ← pow_add]
    calc significand < 2 ^ (significand.log2 + 1) := Nat.lt_log2_self
      _ ≤ 2 ^ (53 + places) := by
        apply Nat.pow_le_pow_right (by decide)
        omega
  · by_cases least : exponent + places = Binary64.leastExponent
    · exact .inr least
    · have long : significand.log2 = 52 + places := by omega
      have positive : 0 < significand := by
        rw [Nat.pos_iff_ne_zero]
        rintro rfl
        rw [Nat.log2_zero] at long
        omega
      exact .inl (long_bounds positive long).2.1

/-- A significand that has been rounded stays, but for a carry into a 54th bit, which is a zero more
to take off. -/
theorem shift_rounded (notAbove : significand ≤ 2 ^ 53)
    (full : 2 ^ 52 ≤ significand ∨ exponent = Binary64.leastExponent)
    (notBelow : Binary64.leastExponent ≤ exponent) :
    ∃ final finalExponent,
      shiftToTargetExponent Format.binary64 significand exponent .exact =
        (ExtendedMantissa.ofMantissaAndAccuracy final .exact, finalExponent) ∧
      (final : Rat) * 2 ^ finalExponent = significand * 2 ^ exponent ∧
      (0 < final → Canonical final finalExponent) := by
  obtain rfl | positive := Nat.eq_zero_or_pos significand
  · have zeros (places : Nat) : ExtendedMantissa.ofMantissaAndAccuracy 0 .exact >>> places =
        ExtendedMantissa.ofMantissaAndAccuracy 0 .exact := by
      have shifted := @shiftRight_zeros 0 places
      rwa [Nat.zero_mul] at shifted
    refine ⟨0, _, Prod.ext (zeros _) rfl, ?_, fun impossible => absurd impossible (lt_irrefl 0)⟩
    rw [Nat.cast_zero, zero_mul, zero_mul]
  obtain fits | rfl := Nat.lt_or_eq_of_le notAbove
  · have canonical : Canonical significand exponent := ⟨fits, notBelow, full⟩
    exact ⟨significand, exponent, shift_canonical positive canonical, rfl, fun _ => canonical⟩
  · have canonical : Canonical (2 ^ 52) (exponent + 1) := ⟨by norm_num, by omega, .inl le_rfl⟩
    have shifted := shift_zeros (by norm_num) canonical 1
    refine ⟨2 ^ 52, exponent + 1, ?_, ?_, fun _ => canonical⟩
    · simpa using shifted
    · rw [zpow_add_one₀ (by norm_num)]
      push_cast
      ring

/-- A double that a rounded result is stored as: zero if nothing is left. -/
def rounded (sign : Sign) (significand : Nat) (exponent : Int) : UnpackedFloat :=
  if isZero : significand = 0 then .zero sign
  else .finite sign significand exponent (Nat.pos_of_ne_zero isZero)

/-- Rounding yields one of the two significands next to the result, with the exponent that it aims
at. -/
theorem roundWithAccuracy_eq (sign : Sign) (accuracy : Accuracy)
    (isAim : aim significand exponent = exponent + places) :
    ∃ (next final : Nat) (finalExponent : Int), significand / 2 ^ places ≤ next ∧
      next ≤ significand / 2 ^ places + 1 ∧
      (final : Rat) * 2 ^ finalExponent = next * 2 ^ (exponent + places) ∧
      (0 < final → Canonical final finalExponent) ∧
      roundWithAccuracy Format.binary64 sign significand exponent accuracy =
        rounded sign final finalExponent := by
  have shift : (exponent + places - exponent).toNat = places := by omega
  have shifted : shiftToTargetExponent Format.binary64 significand exponent accuracy =
      (ExtendedMantissa.ofMantissaAndAccuracy significand accuracy >>> places,
        exponent + places) := by
    simp only [shiftToTargetExponent, targetExponent_eq_aim, isAim, shiftToExponent, shift]
  have rounds := roundedMantissa_bounds
    (ExtendedMantissa.ofMantissaAndAccuracy significand accuracy >>> places)
  rw [shiftRight_mantissa, mantissa_ofMantissaAndAccuracy] at rounds
  obtain ⟨fits, full⟩ := bounds_of_aim isAim
  have notBelow : Binary64.leastExponent ≤ exponent + places := by
    rw [← isAim]
    exact le_max_right _ _
  obtain ⟨final, finalExponent, again, same, canonical⟩ :=
    shift_rounded (by omega) (full.imp_left fun long => long.trans rounds.1) notBelow
  refine ⟨_, final, finalExponent, rounds.1, rounds.2, same, canonical, ?_⟩
  simp only [roundWithAccuracy, shifted, again, mantissa_ofMantissaAndAccuracy]
  rfl

/-- A number that is not tiny has its leading bit above that of the least normal double. -/
theorem log2_of_normal (normal : leastNormal ≤ significand * 2 ^ exponent) :
    -1022 ≤ (significand.log2 : Int) + exponent := by
  have below : -1022 < (significand.log2 : Int) + 1 + exponent := by
    refine (zpow_lt_zpow_iff_right₀ one_lt_two (a := (2 : Rat))).mp (normal.trans_lt ?_)
    rw [zpow_add₀ (by norm_num)]
    gcongr
    exact lt_twoPow_log2 significand
  omega

/-- Of a long significand rounding leaves most. -/
theorem round_long (sign : Sign) (accuracy : Accuracy) (long : 2 ^ 52 ≤ significand)
    (normal : leastNormal ≤ significand * 2 ^ exponent) :
    ∃ final finalExponent, ∃ positive : 0 < final, Canonical final finalExponent ∧
      roundWithAccuracy Format.binary64 sign significand exponent accuracy =
        .finite sign final finalExponent positive ∧
      significand * 2 ^ exponent * kept ≤ (final : Rat) * 2 ^ finalExponent := by
  have notZero : 0 < significand := by omega
  obtain ⟨places, isLog⟩ := Nat.exists_eq_add_of_le ((Nat.le_log2 notZero.ne').mpr long)
  have isAim : aim significand exponent = exponent + places := by
    have notTiny := log2_of_normal normal
    unfold aim Binary64.leastExponent
    omega
  obtain ⟨full, floorAbove, _⟩ := long_bounds notZero isLog
  obtain ⟨next, final, finalExponent, floorLe, _, same, canonical, isRounded⟩ :=
    roundWithAccuracy_eq sign accuracy isAim
  have positive : 0 < final := by
    rw [Nat.pos_iff_ne_zero]
    rintro rfl
    rw [Nat.cast_zero, zero_mul] at same
    exact (magnitude_pos (by omega : 0 < next) _).ne same
  refine ⟨final, finalExponent, positive, canonical positive, ?_, ?_⟩
  · rw [isRounded]
    exact dif_neg positive.ne'
  · rw [same]
    calc significand * 2 ^ exponent * kept
        = (significand : Rat) / (2 ^ places : Nat) * kept * 2 ^ (exponent + places) := by
          rw [zpow_add₀ (by norm_num), zpow_natCast]
          push_cast
          field_simp
      _ ≤ (significand / 2 ^ places : Nat) * 2 ^ (exponent + places) := by
          gcongr
          exact kept_le_floor (Nat.two_pow_pos places) full
      _ ≤ next * 2 ^ (exponent + places) := by
          gcongr

end LastPlace

/-! ### Packing -/

section Packing

variable {significand : Nat} {exponent : Int}

theorem unpack_packedInfinity (sign : Sign) :
    unpack Format.binary64 (packedInfinity Format.binary64 sign) = .infinity sign := by
  simp [unpack, packedInfinity]

/-- The leading bit of a significand is not stored. -/
theorem unpack_packComponents (sign : Sign) {field : Nat} (notLeast : 0 < field)
    (notReserved : field < Binary64.reservedField) (long : 2 ^ 52 ≤ significand)
    (fits : significand < 2 ^ 53) (positive : 0 < significand) :
    unpack Format.binary64 (packComponents Format.binary64 sign (BitVec.ofNat _ field)
      (BitVec.ofNat _ significand)) = .finite sign significand (field - 1075) positive := by
  unfold Binary64.reservedField at notReserved
  have isField : (BitVec.ofNat Format.binary64.exponentBits field).toNat = field := by
    rw [BitVec.toNat_ofNat]
    exact Nat.mod_eq_of_lt (show field < 2048 by omega)
  have finite : BitVec.ofNat Format.binary64.exponentBits field ≠ -1#_ := by
    intro same
    have largest : field = 2047 := isField.symm.trans (congrArg BitVec.toNat same)
    omega
  have notSmall : BitVec.ofNat Format.binary64.exponentBits field ≠ 0#_ := by
    intro same
    have least : field = 0 := isField.symm.trans (congrArg BitVec.toNat same)
    omega
  have isSignificand :
      (1#1 ++ BitVec.ofNat Format.binary64.mantissaBitsWithoutImplicit significand).toNat =
        significand := by
    rw [toNat_implicit, BitVec.toNat_ofNat]
    show 2 ^ 52 + significand % 2 ^ 52 = significand
    omega
  simp only [unpack, unpackExponent_packComponents, unpackMantissa_packComponents,
    unpackSign_packComponents, Sign.ofBitVec_toBitVec, if_neg finite, if_neg notSmall, isField,
    isSignificand]
  rfl

/-- The least exponent has a field of its own, and then all bits of a significand are stored. -/
theorem unpack_packComponents_least (sign : Sign) (short : significand < 2 ^ 52)
    (positive : 0 < significand) :
    unpack Format.binary64 (packComponents Format.binary64 sign (0#_)
      (BitVec.ofNat _ significand)) = .finite sign significand Binary64.leastExponent positive := by
  have isSignificand :
      (BitVec.ofNat Format.binary64.mantissaBitsWithoutImplicit significand).toNat =
        significand := by
    rw [BitVec.toNat_ofNat]
    exact Nat.mod_eq_of_lt short
  have nonzero :
      BitVec.ofNat Format.binary64.mantissaBitsWithoutImplicit significand ≠ 0#_ := by
    intro same
    have zero : significand = 0 := isSignificand.symm.trans (congrArg BitVec.toNat same)
    omega
  have finite : (0#_ : BitVec Format.binary64.exponentBits) ≠ -1#_ := by decide
  simp only [unpack, unpackExponent_packComponents, unpackMantissa_packComponents,
    unpackSign_packComponents, Sign.ofBitVec_toBitVec, if_neg finite, dif_neg nonzero,
    isSignificand]
  rfl

/-- A canonical double is read back, unless it lies beyond the largest one. -/
theorem unpack_pack (sign : Sign) (positive : 0 < significand)
    (canonical : Canonical significand exponent) :
    unpack Format.binary64 (pack Format.binary64 (.finite sign significand exponent positive)) =
        .finite sign significand exponent positive ∨
      unpack Format.binary64 (pack Format.binary64 (.finite sign significand exponent positive)) =
        .infinity sign := by
  have notBelow := canonical.notBelow
  unfold Binary64.leastExponent at notBelow
  obtain ⟨field, isField⟩ := Int.eq_ofNat_of_zero_le (show 0 ≤ exponent + 1075 by omega)
  have biased : (exponent + Format.binary64.exponentBias +
      Format.binary64.mantissaBitsWithoutImplicit).toNat = field := by
    show (exponent + 1023 + 52).toNat = field
    omega
  simp only [pack, biased]
  split
  · exact .inr (unpack_packedInfinity sign)
  rename_i small
  have stored : field + 1 < 2048 := Nat.not_le.mp small
  left
  by_cases long : 2 ^ 52 ≤ significand
  · have isLog : significand.log2 + 1 = Format.binary64.mantissaBits := by
      rw [(Nat.log2_eq_iff positive.ne').mpr ⟨long, canonical.fits⟩]
      rfl
    rw [if_pos isLog]
    have exact : exponent = (field : Int) - 1075 := by omega
    subst exact
    exact unpack_packComponents sign (by omega) (show field < 2047 by omega) long canonical.fits
      positive
  · have isShort : ¬significand.log2 + 1 = Format.binary64.mantissaBits := by
      have below := (Nat.log2_lt positive.ne').mpr (Nat.not_le.mp long)
      show ¬significand.log2 + 1 = 53
      omega
    obtain rfl := canonical.full.resolve_left long
    rw [if_neg isShort]
    exact unpack_packComponents_least sign (Nat.not_le.mp long) positive

/-- The double that an unpacked result is stored as. -/
def stored (result : UnpackedFloat) : Float :=
  .ofModel (.pack result)

theorem atLeast_of_infinity {value : Float} (bound : Rat)
    (isInfinity : value.toModel.unpack = .infinity .positive) : AtLeast bound value := by
  refine ⟨⊤, ?_, le_top⟩
  show unpackedPlace? value.toModel.unpack = some ⊤
  rw [isInfinity]
  rfl

theorem atLeast_stored_infinity (bound : Rat) : AtLeast bound (stored (.infinity .positive)) :=
  atLeast_of_infinity bound (unpack_packedInfinity .positive)

theorem atLeast_stored {bound : Rat} (positive : 0 < significand)
    (canonical : Canonical significand exponent) (above : bound ≤ significand * 2 ^ exponent) :
    AtLeast bound (stored (.finite .positive significand exponent positive)) := by
  obtain same | isInfinity := unpack_pack .positive positive canonical
  · refine ⟨.ofRat (significand * 2 ^ exponent), ?_, Place.ofRat_le_ofRat.mpr above⟩
    show unpackedPlace? (unpack Format.binary64 (pack Format.binary64 _)) = _
    rw [same]
    simp [unpackedPlace?, Sign.apply]
  · exact atLeast_of_infinity bound isInfinity

/-- A long positive significand that is rounded and stored. -/
theorem atLeast_stored_round {bound : Rat} (accuracy : Accuracy) (long : 2 ^ 52 ≤ significand)
    (notTiny : leastNormal ≤ significand * 2 ^ exponent)
    (above : bound ≤ significand * 2 ^ exponent * kept) :
    AtLeast bound
      (stored (roundWithAccuracy Format.binary64 .positive significand exponent accuracy)) := by
  obtain ⟨final, finalExponent, positive, canonical, isFinal, left⟩ :=
    round_long .positive accuracy long notTiny
  rw [isFinal]
  exact atLeast_stored positive canonical (above.trans left)

/-- A double that is not below a positive number is infinite or a positive finite double. -/
theorem unpack_of_atLeast {bound : Rat} {value : Float} (boundPositive : 0 < bound)
    (atLeast : AtLeast bound value) :
    value.toModel.unpack = .infinity .positive ∨
      ∃ significand exponent, ∃ positive : 0 < significand,
        value.toModel.unpack = .finite .positive significand exponent positive ∧
        Canonical significand exponent ∧ bound ≤ significand * 2 ^ exponent := by
  obtain ⟨place, isPlace, above⟩ := atLeast
  have canonical := isCanonical value
  change unpackedPlace? value.toModel.unpack = some place at isPlace
  generalize value.toModel.unpack = unpacked at canonical isPlace ⊢
  cases unpacked with
  | notANumber => cases isPlace
  | infinity sign =>
      cases sign with
      | negative =>
          cases isPlace
          exact absurd above (Place.bot_lt_ofRat bound).not_ge
      | positive => exact .inl rfl
  | zero sign =>
      cases isPlace
      exact absurd (Place.ofRat_le_ofRat.mp above) boundPositive.not_ge
  | finite sign significand exponent positive =>
      cases isPlace
      have notBelow := Place.ofRat_le_ofRat.mp above
      cases sign with
      | negative =>
          have magnitude := magnitude_pos positive exponent
          simp only [Sign.apply, Int.cast_neg, Int.cast_natCast, neg_mul] at notBelow
          linarith
      | positive =>
          simp only [Sign.apply, Int.cast_natCast] at notBelow
          exact .inr ⟨significand, exponent, positive, rfl, canonical, notBelow⟩

/-- A double with a positive place is finite and positive. -/
theorem unpack_of_place {exact : Rat} {value : Float} (exactPositive : 0 < exact)
    (isPlace : OrderedArithmetic.place? value = some (.ofRat exact)) :
    ∃ significand exponent, ∃ positive : 0 < significand,
      value.toModel.unpack = .finite .positive significand exponent positive ∧
      exact = significand * 2 ^ exponent := by
  change unpackedPlace? value.toModel.unpack = _ at isPlace
  obtain isInfinity | ⟨significand, exponent, positive, isFinite, _, _⟩ :=
    unpack_of_atLeast exactPositive ⟨_, isPlace, le_rfl⟩
  · rw [isInfinity] at isPlace
    exact absurd (Option.some_inj.mp isPlace) (Place.ofRat_lt_top exact).ne'
  · rw [isFinite] at isPlace
    have same := Place.ofRat_inj.mp (Option.some_inj.mp isPlace)
    simp only [Sign.apply, Int.cast_natCast] at same
    exact ⟨significand, exponent, positive, isFinite, same.symm⟩

end Packing

/-! ### Products and quotients -/

section Operations

variable {significand otherSignificand : Nat} {exponent otherExponent : Int}

/-- One factor of a product that is not tiny has 53 bits. -/
theorem long_mul (canonical : Canonical significand exponent)
    (otherCanonical : Canonical otherSignificand otherExponent) (positive : 0 < significand)
    (otherPositive : 0 < otherSignificand)
    (normal : leastNormal ≤
      (significand * otherSignificand : Nat) * 2 ^ (exponent + otherExponent)) :
    2 ^ 52 ≤ significand * otherSignificand := by
  obtain full | least := canonical.full
  · exact full.trans (Nat.le_mul_of_pos_right _ otherPositive)
  obtain otherFull | otherLeast := otherCanonical.full
  · exact otherFull.trans (Nat.le_mul_of_pos_left _ positive)
  -- Both factors have the least exponent, and such a product is tiny.
  have notTiny := log2_of_normal normal
  have small : significand * otherSignificand < 2 ^ 106 := by
    calc significand * otherSignificand < 2 ^ 53 * 2 ^ 53 :=
          Nat.mul_lt_mul'' canonical.fits otherCanonical.fits
      _ = 2 ^ 106 := by norm_num
  have short := (Nat.log2_lt (Nat.mul_pos positive otherPositive).ne').mpr small
  rw [least, otherLeast, Binary64.leastExponent] at notTiny
  omega

/-- The leading bits of a quotient that is not tiny are not far apart. -/
theorem log2_of_ordinary (otherPositive : 0 < otherSignificand)
    (ordinary : leastOrdinary ≤
      (significand : Rat) * 2 ^ exponent / (otherSignificand * 2 ^ otherExponent)) :
    -100 < (significand.log2 : Int) + 1 + exponent - (otherSignificand.log2 + otherExponent) := by
  have least : leastOrdinary = 2 ^ (-100 : Int) := by
    rw [leastOrdinary, zpow_neg, one_div]
    rfl
  rw [least] at ordinary
  refine (zpow_lt_zpow_iff_right₀ one_lt_two (a := (2 : Rat))).mp (ordinary.trans_lt ?_)
  calc (significand : Rat) * 2 ^ exponent / (otherSignificand * 2 ^ otherExponent)
      = significand / otherSignificand * 2 ^ (exponent - otherExponent) := by
        rw [zpow_sub₀ (by norm_num)]
        field_simp
    _ < 2 ^ ((significand.log2 : Int) - otherSignificand.log2 + 1) *
          2 ^ (exponent - otherExponent) := by
        gcongr
        exact div_lt_twoPow significand otherPositive
    _ = 2 ^ ((significand.log2 : Int) + 1 + exponent -
          (otherSignificand.log2 + otherExponent)) := by
        rw [← zpow_add₀ (by norm_num)]
        congr 1
        ring

/-- Behind enough zeros a dividend has 53 bits more than the divisor. -/
theorem long_dividend {zeros : Nat} (positive : 0 < significand)
    (enough : otherSignificand.log2 + 53 ≤ significand.log2 + zeros) :
    2 ^ 52 * otherSignificand ≤ significand * 2 ^ zeros := by
  calc 2 ^ 52 * otherSignificand ≤ 2 ^ 52 * 2 ^ (otherSignificand.log2 + 1) := by
        gcongr
        exact Nat.lt_log2_self.le
    _ = 2 ^ (otherSignificand.log2 + 53) := by
        rw [← pow_add]
        congr 1
        omega
    _ ≤ 2 ^ (significand.log2 + zeros) := Nat.pow_le_pow_right (by decide) enough
    _ = 2 ^ significand.log2 * 2 ^ zeros := pow_add _ _ _
    _ ≤ significand * 2 ^ zeros := by
        gcongr
        exact Nat.log2_self_le positive.ne'

/-- Zeros are appended to a dividend so that the quotient has 53 bits or more. -/
theorem divCore_eq (canonical : Canonical significand exponent) (positive : 0 < significand)
    (otherPositive : 0 < otherSignificand)
    (ordinary : leastOrdinary ≤
      (significand : Rat) * 2 ^ exponent / (otherSignificand * 2 ^ otherExponent)) :
    ∃ zeros : Nat, 2 ^ 52 * otherSignificand ≤ significand * 2 ^ zeros ∧
      divCore Format.binary64 significand exponent otherSignificand otherExponent =
        (significand * 2 ^ zeros / otherSignificand, exponent - otherExponent - zeros,
          accuracyOfFraction (significand * 2 ^ zeros % otherSignificand) otherSignificand) := by
  have notTiny := log2_of_ordinary otherPositive ordinary
  have short : significand.log2 < 53 := (Nat.log2_lt positive.ne').mpr canonical.fits
  obtain ⟨zeros, isZeros⟩ := Nat.exists_eq_add_of_le
    (show significand.log2 ≤ otherSignificand.log2 + 53 by omega)
  have target : min (exponent - otherExponent) (Format.binary64.targetExponent
      (totalExponent significand exponent - totalExponent otherSignificand otherExponent)) =
        exponent - otherExponent - zeros := by
    show min _ (max ((significand.log2 : Int) + 1 + exponent -
      (otherSignificand.log2 + 1 + otherExponent) - 53) (-1074)) = _
    omega
  have shift : (exponent - otherExponent - (exponent - otherExponent - zeros)).toNat = zeros := by
    omega
  refine ⟨zeros, long_dividend positive isZeros.le, ?_⟩
  simp only [divCore, target, shift, Nat.shiftLeft_eq]

/-- Behind the zeros that are appended a quotient loses little. -/
theorem kept_le_truncated {zeros : Nat} (otherPositive : 0 < otherSignificand)
    (long : 2 ^ 52 * otherSignificand ≤ significand * 2 ^ zeros) :
    (significand : Rat) * 2 ^ exponent / (otherSignificand * 2 ^ otherExponent) * kept ≤
      (significand * 2 ^ zeros / otherSignificand : Nat) *
        2 ^ (exponent - otherExponent - zeros) := by
  calc (significand : Rat) * 2 ^ exponent / (otherSignificand * 2 ^ otherExponent) * kept
      = ((significand * 2 ^ zeros : Nat) : Rat) / otherSignificand * kept *
          2 ^ (exponent - otherExponent - zeros) := by
        rw [zpow_sub₀ (by norm_num), zpow_sub₀ (by norm_num), zpow_natCast]
        push_cast
        field_simp
    _ ≤ (significand * 2 ^ zeros / otherSignificand : Nat) *
          2 ^ (exponent - otherExponent - zeros) := by
        gcongr
        exact kept_le_floor otherPositive long

theorem retained_le_kept_sq : retained ≤ kept ^ 2 := by norm_num [retained, kept]

theorem retained_le_kept : retained ≤ kept := by norm_num [retained, kept]

theorem leastNormal_le_kept : leastNormal ≤ leastOrdinary * kept := by
  calc leastNormal ≤ 2 ^ (-101 : Int) := zpow_le_zpow_right₀ (by norm_num) (by norm_num)
    _ ≤ leastOrdinary * kept := by norm_num [leastOrdinary, kept, zpow_neg]

theorem leastNormal_le_ordinary : leastNormal ≤ leastOrdinary :=
  leastNormal_le_kept.trans (mul_le_of_le_one_right (by norm_num [leastOrdinary]) kept_le_one)

/-- Of a product rounding leaves most. -/
theorem atLeast_mul {left right : Float} {leftBound rightBound : Rat} (leftPositive : 0 < leftBound)
    (rightPositive : 0 < rightBound) (ordinary : leastOrdinary ≤ leftBound * rightBound)
    (leftAbove : AtLeast leftBound left) (rightAbove : AtLeast rightBound right) :
    AtLeast (leftBound * rightBound * retained) (left * right) := by
  show AtLeast _ (stored (UnpackedFloat.mul Format.binary64 left.toModel.unpack
    right.toModel.unpack))
  obtain isInfinity | ⟨significand, exponent, positive, isLeft, canonical, above⟩ :=
    unpack_of_atLeast leftPositive leftAbove
  · obtain otherInfinity | ⟨_, _, _, isRight, _, _⟩ := unpack_of_atLeast rightPositive rightAbove
    · rw [isInfinity, otherInfinity]
      exact atLeast_stored_infinity _
    · rw [isInfinity, isRight]
      exact atLeast_stored_infinity _
  obtain otherInfinity | ⟨otherSignificand, otherExponent, otherPositive, isRight, otherCanonical,
      otherAbove⟩ := unpack_of_atLeast rightPositive rightAbove
  · rw [isLeft, otherInfinity]
    exact atLeast_stored_infinity _
  have product : leftBound * rightBound ≤
      (significand * otherSignificand : Nat) * 2 ^ (exponent + otherExponent) := by
    calc leftBound * rightBound
        ≤ significand * 2 ^ exponent * (otherSignificand * 2 ^ otherExponent) := by
          gcongr
      _ = (significand * otherSignificand : Nat) * 2 ^ (exponent + otherExponent) := by
          rw [zpow_add₀ (by norm_num)]
          push_cast
          ring
  have normal := leastNormal_le_ordinary.trans (ordinary.trans product)
  rw [isLeft, isRight]
  refine atLeast_stored_round .exact
    (long_mul canonical otherCanonical positive otherPositive normal) normal ?_
  have := retained_pos
  gcongr
  exact retained_le_kept

/-- A quotient loses bits twice: behind the zeros that are appended, and by rounding. -/
theorem atLeast_div {left right : Float} {leftBound rightValue : Rat}
    (leftPositive : 0 < leftBound) (rightPositive : 0 < rightValue)
    (ordinary : leastOrdinary ≤ leftBound / rightValue) (leftAbove : AtLeast leftBound left)
    (isRight : OrderedArithmetic.place? right = some (.ofRat rightValue)) :
    AtLeast (leftBound / rightValue * retained) (left / right) := by
  show AtLeast _ (stored (UnpackedFloat.div Format.binary64 left.toModel.unpack
    right.toModel.unpack))
  obtain ⟨otherSignificand, otherExponent, otherPositive, isFinite, isValue⟩ :=
    unpack_of_place rightPositive isRight
  obtain isInfinity | ⟨significand, exponent, positive, isLeft, canonical, above⟩ :=
    unpack_of_atLeast leftPositive leftAbove
  · rw [isInfinity, isFinite]
    exact atLeast_stored_infinity _
  have quotient : leftBound / rightValue ≤
      (significand : Rat) * 2 ^ exponent / (otherSignificand * 2 ^ otherExponent) := by
    rw [isValue]
    gcongr
  obtain ⟨zeros, long, isDivided⟩ :=
    divCore_eq canonical positive otherPositive (ordinary.trans quotient)
  have keptPositive := kept_pos
  have truncated : leftBound / rightValue * kept ≤
      (significand * 2 ^ zeros / otherSignificand : Nat) *
        2 ^ (exponent - otherExponent - zeros) := by
    calc leftBound / rightValue * kept
        ≤ (significand : Rat) * 2 ^ exponent / (otherSignificand * 2 ^ otherExponent) * kept := by
          gcongr
      _ ≤ (significand * 2 ^ zeros / otherSignificand : Nat) *
            2 ^ (exponent - otherExponent - zeros) := kept_le_truncated otherPositive long
  rw [isLeft, isFinite]
  simp only [UnpackedFloat.div, isDivided]
  refine atLeast_stored_round _ ((Nat.le_div_iff_mul_le otherPositive).mpr long)
    ((leastNormal_le_kept.trans ?_).trans truncated) ?_
  · gcongr
  · calc leftBound / rightValue * retained ≤ leftBound / rightValue * kept ^ 2 := by
          gcongr
          exact retained_le_kept_sq
      _ = leftBound / rightValue * kept * kept := by ring
      _ ≤ (significand * 2 ^ zeros / otherSignificand : Nat) *
            2 ^ (exponent - otherExponent - zeros) * kept := by
          gcongr

/-- Bits of a finite double are stored as they are. -/
theorem toBits_ofBits {bits : Nat} (finite : bits < Binary64.reservedField * twoTo 52) :
    (Float.ofBits (UInt64.ofNat bits)).toBits.toNat = bits := by
  have small : bits < 2047 * 2 ^ 52 := finite
  have isBits : (UInt64.ofNat bits).toNat = bits := by
    rw [UInt64.toNat_ofNat']
    omega
  have valid : Format.binary64.Valid (UInt64.ofNat bits).toBitVec := by
    refine ⟨fun reserved => ?_⟩
    have field := congrArg BitVec.toNat reserved
    rw [toNat_unpackExponent] at field
    have largest : (UInt64.ofNat bits).toNat / 2 ^ 52 % 2 ^ 11 = 2047 := field
    omega
  have same := congrArg BitVec.toNat (pack_unpack_of_valid valid)
  exact same.trans isBits

/-- Of a rational the nearest double leaves most. -/
theorem atLeast_ofRat? {exact : Rat} {nearest : Float} (ordinary : leastOrdinary ≤ exact)
    (found : ofRat? exact = some nearest) : AtLeast (exact * retained) nearest := by
  have positive : 0 < exact := lt_of_lt_of_le (by norm_num [leastOrdinary]) ordinary
  have numPositive : 0 < exact.num := Rat.num_pos.mpr positive
  have magnitude : (exact.num.natAbs : Rat) / exact.den = exact := by
    rw [Nat.cast_natAbs, abs_of_pos numPositive]
    exact Rat.num_div_den exact
  obtain ⟨bits, isBits, isNearest⟩ := Option.map_eq_some_iff.mp found
  rw [if_neg numPositive.not_gt] at isNearest
  obtain ⟨value, isValue, finite, left⟩ := kept_le_nearest (by omega) exact.den_pos
    (by rw [magnitude]; exact leastNormal_le_ordinary.trans ordinary) isBits
  rw [magnitude] at left
  have isPlace : OrderedArithmetic.place? nearest = some (.ofRat value.toRat) := by
    rw [← OrderedArithmetic.rational?_eq_some_iff, ← isNearest]
    show (Binary64.ofBits? (Float.ofBits (UInt64.ofNat bits)).toBits.toNat).map _ = _
    rw [toBits_ofBits finite, isValue]
    rfl
  refine ⟨_, isPlace, Place.ofRat_le_ofRat.mpr (le_trans ?_ left)⟩
  gcongr
  exact retained_le_kept

end Operations

/-- Of what doubles are scaled by, rounding leaves most. -/
instance : ScalingArithmetic Float where
  zero := OrderedArithmetic.place?_zero
  ofRat? _ _ ordinary found := atLeast_ofRat? ordinary found
  mul _ _ _ _ leftPositive rightPositive ordinary leftAbove rightAbove :=
    atLeast_mul leftPositive rightPositive ordinary leftAbove rightAbove
  div _ _ _ _ leftPositive rightPositive ordinary leftAbove isRight :=
    atLeast_div leftPositive rightPositive ordinary leftAbove isRight

end MapStyle.Double
