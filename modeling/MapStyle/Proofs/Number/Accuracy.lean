import Mathlib
import MapStyle.Proofs.Number.Roundoff

/-!
# How far a double is from the result

A result is cut off at the last place of a double, or one is added there. So a double differs from
the result by one unit of the last place at most; and the last place of a result of ordinary size
is small. The laws of errors follow for each operation.
-/

namespace MapStyle.Double

set_option autoImplicit false

open MapStyle.Decimal (Binary64 twoTo)
open Float.Model (Format UnpackedFloat totalExponent)
open Float.Model.UnpackedFloat

/-! ### Stored results -/

section Stored

variable {significand : Nat} {exponent : Int}

/-- A finite double within the format is read back. -/
theorem unpack_pack_finite (sign : Sign) (positive : 0 < significand)
    (canonical : Canonical significand exponent) (finite : exponent ≤ largestExponent) :
    unpack Format.binary64 (pack Format.binary64 (.finite sign significand exponent positive)) =
      .finite sign significand exponent positive := by
  obtain same | isInfinity := unpack_pack sign positive canonical
  · exact same
  · obtain ⟨parts, isParts⟩ := exists_parts_pack sign positive finite
    rw [isInfinity] at isParts
    cases isParts

/-- What a sign multiplies a magnitude by. -/
def factor (sign : Sign) : Rat :=
  (sign.apply 1 : Int)

theorem apply_eq_factor_mul (sign : Sign) (magnitude : Nat) :
    (sign.apply magnitude : Rat) = factor sign * magnitude := by
  cases sign <;> simp [factor, Sign.apply]

theorem abs_factor (sign : Sign) : |factor sign| = 1 := by
  cases sign <;> simp [factor, Sign.apply]

theorem factor_mul (sign other : Sign) : factor (sign * other) = factor sign * factor other := by
  have whole : (sign * other).apply 1 = sign.apply 1 * other.apply 1 := by
    cases sign <;> cases other <;> rfl
  rw [factor, whole, Int.cast_mul, factor, factor]

/-- Dividing by a sign is multiplying by it. -/
theorem factor_div (sign other : Sign) : factor (sign / other) = factor sign / factor other := by
  have whole : (sign / other).apply 1 = sign.apply 1 * other.apply 1 := by
    cases sign <;> cases other <;> rfl
  have inverse : (factor other)⁻¹ = factor other := by
    cases other <;> simp [factor, Sign.apply]
  rw [div_eq_mul_inv, inverse, factor, whole, Int.cast_mul, factor, factor]

theorem apply_neg (sign : Sign) (total : Int) : (-sign).apply total = -sign.apply total := by
  cases sign with
  | positive => rfl
  | negative => exact (neg_neg total).symm

theorem factor_neg (sign : Sign) : factor (-sign) = -factor sign := by
  rw [factor, apply_neg, Int.cast_neg, factor]

theorem rational?_iff {value : Float} {exact : Rat} :
    Arithmetic.rational? value = some exact ↔
      unpackedPlace? value.toModel.unpack = some (.ofRat exact) :=
  OrderedArithmetic.rational?_eq_some_iff value exact

theorem rational?_stored_zero (sign : Sign) :
    Arithmetic.rational? (stored (.zero sign)) = some 0 := by
  rw [rational?_iff]
  show unpackedPlace? (unpack Format.binary64 (pack Format.binary64 (.zero sign))) = _
  rw [pack, unpack_packedZero]
  rfl

theorem rational?_stored_finite (sign : Sign) (positive : 0 < significand)
    (canonical : Canonical significand exponent) (finite : exponent ≤ largestExponent) :
    Arithmetic.rational? (stored (.finite sign significand exponent positive)) =
      some (factor sign * (significand * 2 ^ exponent)) := by
  rw [rational?_iff]
  show unpackedPlace? (unpack Format.binary64 (pack Format.binary64 _)) = _
  rw [unpack_pack_finite sign positive canonical finite, unpackedPlace?, apply_eq_factor_mul,
    mul_assoc]

/-- A double that is no larger than a result of ordinary size lies within the format. -/
theorem le_largestExponent (canonical : Canonical significand exponent)
    (ordinary : (significand : Rat) * 2 ^ exponent ≤ 2 * largestOrdinary) :
    exponent ≤ largestExponent := by
  obtain full | least := canonical.full
  · have long : (2 : Rat) ^ 52 ≤ significand := by exact_mod_cast full
    have bound : (2 : Rat) ^ (52 + exponent) ≤ 2 ^ (21 : Int) := by
      calc (2 : Rat) ^ (52 + exponent)
          = 2 ^ 52 * 2 ^ exponent := zpow_add₀ (by norm_num) 52 exponent
        _ ≤ significand * 2 ^ exponent := mul_le_mul_of_nonneg_right long (by positivity)
        _ ≤ 2 * largestOrdinary := ordinary
        _ = 2 ^ (21 : Int) := by norm_num [largestOrdinary]
    have small := (zpow_le_zpow_iff_right₀ (one_lt_two (α := Rat))).mp bound
    unfold largestExponent
    omega
  · rw [least]
    decide

theorem rational?_stored_rounded (sign : Sign) (canonical : 0 < significand →
    Canonical significand exponent)
    (ordinary : (significand : Rat) * 2 ^ exponent ≤ 2 * largestOrdinary) :
    Arithmetic.rational? (stored (rounded sign significand exponent)) =
      some (factor sign * (significand * 2 ^ exponent)) := by
  unfold rounded
  split_ifs with isZero
  · rw [rational?_stored_zero, isZero]
    simp
  · have isCanonical := canonical (Nat.pos_of_ne_zero isZero)
    exact rational?_stored_finite sign _ isCanonical (le_largestExponent isCanonical ordinary)

/-- The last place of a result of ordinary size is small. -/
theorem aim_le (ordinary : (significand : Rat) * 2 ^ exponent ≤ largestOrdinary)
    (reached : exponent ≤ aim significand exponent) :
    (2 : Rat) ^ aim significand exponent ≤ roundoff := by
  have small : aim significand exponent ≤ -32 := by
    obtain rfl | positive := Nat.eq_zero_or_pos significand
    · unfold aim Binary64.leastExponent at *
      rw [Nat.log2_zero] at *
      omega
    · have bound : (2 : Rat) ^ (significand.log2 + exponent) ≤ 2 ^ (20 : Int) := by
        calc (2 : Rat) ^ (significand.log2 + exponent)
            = 2 ^ (significand.log2 : Int) * 2 ^ exponent := zpow_add₀ (by norm_num) _ exponent
          _ ≤ significand * 2 ^ exponent := by
              gcongr
              exact twoPow_log2_le positive
          _ ≤ largestOrdinary := ordinary
          _ = 2 ^ (20 : Int) := by norm_num [largestOrdinary]
      have short := (zpow_le_zpow_iff_right₀ (one_lt_two (α := Rat))).mp bound
      unfold aim Binary64.leastExponent
      omega
  calc (2 : Rat) ^ aim significand exponent ≤ 2 ^ (-32 : Int) :=
        zpow_le_zpow_right₀ (by norm_num) small
    _ = roundoff := by norm_num [roundoff, zpow_neg]

/-- Bits that are shifted out leave what a number lies above and less than one unit below. -/
theorem shifted_bounds {magnitude : Rat} (places : Nat)
    (notBelow : significand * 2 ^ exponent ≤ magnitude)
    (notAbove : magnitude ≤ (significand + 1) * 2 ^ exponent) :
    (significand / 2 ^ places : Nat) * 2 ^ (exponent + places) ≤ magnitude ∧
      magnitude ≤ ((significand / 2 ^ places : Nat) + 1) * 2 ^ (exponent + places) := by
  have split : (2 : Rat) ^ (exponent + places) = 2 ^ places * 2 ^ exponent := by
    rw [zpow_add₀ (by norm_num), zpow_natCast, mul_comm]
  constructor
  · calc ((significand / 2 ^ places : Nat) : Rat) * 2 ^ (exponent + places)
        = ((significand / 2 ^ places * 2 ^ places : Nat) : Rat) * 2 ^ exponent := by
          rw [split]
          push_cast
          ring
      _ ≤ significand * 2 ^ exponent := by
          gcongr
          exact Nat.div_mul_le_self _ _
      _ ≤ magnitude := notBelow
  · calc magnitude ≤ ((significand + 1 : Nat) : Rat) * 2 ^ exponent := by exact_mod_cast notAbove
      _ ≤ (((significand / 2 ^ places + 1) * 2 ^ places : Nat) : Rat) * 2 ^ exponent := by
          gcongr
          exact Nat.lt_mul_of_div_lt (Nat.lt_succ_self _) (Nat.two_pow_pos places)
      _ = ((significand / 2 ^ places : Nat) + 1) * 2 ^ (exponent + places) := by
          rw [split]
          push_cast
          ring

/-- A result is stored as a double near it, if it is known to 53 bits. -/
theorem near_stored_round (sign : Sign) (accuracy : Accuracy) {magnitude : Rat}
    (reached : exponent ≤ aim significand exponent)
    (notBelow : significand * 2 ^ exponent ≤ magnitude)
    (notAbove : magnitude ≤ (significand + 1) * 2 ^ exponent)
    (ordinary : magnitude ≤ largestOrdinary) :
    Near roundoff (factor sign * magnitude)
      (stored (roundWithAccuracy Format.binary64 sign significand exponent accuracy)) := by
  obtain ⟨places, isAim⟩ := Int.le.dest reached
  obtain ⟨next, final, finalExponent, floorLe, leNext, same, canonical, isRounded⟩ :=
    roundWithAccuracy_eq sign accuracy isAim.symm
  have lastPlace := aim_le (notBelow.trans ordinary) reached
  rw [← isAim] at lastPlace
  have unit : (0 : Rat) < 2 ^ (exponent + places) := by positivity
  obtain ⟨above, below⟩ := shifted_bounds places notBelow notAbove
  have close : |(next : Rat) * 2 ^ (exponent + places) - magnitude| ≤ 2 ^ (exponent + places) := by
    have lower : ((significand / 2 ^ places : Nat) : Rat) ≤ next := by exact_mod_cast floorLe
    have upper : (next : Rat) ≤ (significand / 2 ^ places : Nat) + 1 := by exact_mod_cast leNext
    have lowerScaled := mul_le_mul_of_nonneg_right lower unit.le
    have upperScaled := mul_le_mul_of_nonneg_right upper unit.le
    rw [abs_le]
    constructor <;> linarith
  rw [← same] at close
  refine ⟨factor sign * (final * 2 ^ finalExponent), ?_, ?_⟩
  · rw [isRounded]
    apply rational?_stored_rounded sign canonical
    have size := (abs_le.mp close).2
    have one : roundoff ≤ largestOrdinary := by norm_num [roundoff, largestOrdinary]
    linarith
  · rw [← mul_sub, abs_mul, abs_factor, one_mul]
    exact close.trans lastPlace

end Stored

/-! ### Operations -/

/-- The value that an unpacked double within the format stands for. -/
inductive StandsFor : UnpackedFloat → Rat → Prop
  | zero (sign : Sign) : StandsFor (.zero sign) 0
  | finite (sign : Sign) {significand : Nat} {exponent : Int} (positive : 0 < significand)
      (canonical : Canonical significand exponent) (within : exponent ≤ largestExponent) :
      StandsFor (.finite sign significand exponent positive)
        (factor sign * (significand * 2 ^ exponent))

section Operations

variable {left right : UnpackedFloat} {leftValue rightValue : Rat}

theorem standsFor_of_rational? {value : Float} {exact : Rat}
    (isValue : Arithmetic.rational? value = some exact) :
    StandsFor value.toModel.unpack exact := by
  obtain ⟨parts, isParts, _⟩ := Option.map_eq_some_iff.mp isValue
  have bounds := canonical_of_parts isParts
  have isPlace := rational?_iff.mp isValue
  rw [show binary64? value = parts? value.toModel.unpack from ofBits?_eq_parts _] at isParts
  generalize value.toModel.unpack = unpacked at isParts isPlace
  cases unpacked with
  | notANumber => cases isParts
  | infinity sign => cases isParts
  | zero sign =>
      rw [← Place.ofRat_inj.mp (Option.some_inj.mp isPlace)]
      exact .zero sign
  | finite sign significand exponent positive =>
      cases isParts
      rw [← Place.ofRat_inj.mp (Option.some_inj.mp isPlace), apply_eq_factor_mul, mul_assoc]
      exact .finite sign positive bounds.1 bounds.2

theorem StandsFor.rational?_stored (standsFor : StandsFor left leftValue) :
    Arithmetic.rational? (stored left) = some leftValue := by
  cases standsFor with
  | zero sign => exact rational?_stored_zero sign
  | finite sign positive canonical within =>
      exact rational?_stored_finite sign positive canonical within

theorem StandsFor.near_stored (standsFor : StandsFor left leftValue) :
    Near roundoff leftValue (stored left) :=
  (near_of_rational? standsFor.rational?_stored).mono roundoff_nonneg

theorem abs_factor_mul (sign : Sign) {magnitude : Rat} (notBelow : 0 ≤ magnitude) :
    |factor sign * magnitude| = magnitude := by
  rw [abs_mul, abs_factor, one_mul, abs_of_nonneg notBelow]

/-! A product has 53 bits if one factor has them, and else it is far below the least exponent. -/

section Finite

variable {significand otherSignificand : Nat} {exponent otherExponent : Int}

theorem le_aim_of_long (long : 2 ^ 52 ≤ significand) : exponent ≤ aim significand exponent := by
  have bits := (Nat.le_log2 (by omega)).mpr long
  unfold aim
  omega

theorem le_aim_of_least (least : exponent ≤ Binary64.leastExponent) :
    exponent ≤ aim significand exponent :=
  least.trans (le_max_right _ _)

theorem le_aim_mul (canonical : Canonical significand exponent)
    (otherCanonical : Canonical otherSignificand otherExponent) (positive : 0 < significand)
    (otherPositive : 0 < otherSignificand) :
    exponent + otherExponent ≤ aim (significand * otherSignificand) (exponent + otherExponent) := by
  obtain long | least := canonical.full
  · exact le_aim_of_long (long.trans (Nat.le_mul_of_pos_right _ otherPositive))
  obtain otherLong | otherLeast := otherCanonical.full
  · exact le_aim_of_long (otherLong.trans (Nat.le_mul_of_pos_left _ positive))
  · apply le_aim_of_least
    rw [least, otherLeast]
    decide

theorem near_mul_finite (sign other : Sign) (canonical : Canonical significand exponent)
    (otherCanonical : Canonical otherSignificand otherExponent) (positive : 0 < significand)
    (otherPositive : 0 < otherSignificand)
    (ordinary : (significand : Rat) * 2 ^ exponent * (otherSignificand * 2 ^ otherExponent) ≤
      largestOrdinary) :
    Near roundoff (factor sign * (significand * 2 ^ exponent) *
        (factor other * (otherSignificand * 2 ^ otherExponent)))
      (stored (UnpackedFloat.mul Format.binary64 (.finite sign significand exponent positive)
        (.finite other otherSignificand otherExponent otherPositive))) := by
  have product : (significand : Rat) * 2 ^ exponent * (otherSignificand * 2 ^ otherExponent) =
      (significand * otherSignificand : Nat) * 2 ^ (exponent + otherExponent) := by
    rw [zpow_add₀ (by norm_num)]
    push_cast
    ring
  have unit : (0 : Rat) < 2 ^ (exponent + otherExponent) := by positivity
  rw [mul_mul_mul_comm, ← factor_mul]
  exact near_stored_round _ .exact (le_aim_mul canonical otherCanonical positive otherPositive)
    product.ge (by rw [product]; linarith) ordinary

/-- Zeros are appended to a sum until it has 53 bits or the least exponent. -/
theorem near_round (sign : Sign) (positive : 0 < significand)
    (ordinary : (significand : Rat) * 2 ^ exponent ≤ largestOrdinary) :
    Near roundoff (factor sign * (significand * 2 ^ exponent))
      (stored (UnpackedFloat.round Format.binary64 sign significand exponent)) := by
  obtain ⟨zeros, isZeros⟩ : ∃ zeros, zeros = (exponent - aim significand exponent).toNat := ⟨_, rfl⟩
  have same : (significand : Rat) * 2 ^ exponent =
      (significand * 2 ^ zeros : Nat) * 2 ^ (exponent - zeros) := by
    rw [zpow_sub₀ (by norm_num), zpow_natCast]
    push_cast
    field_simp
  have reached : exponent - zeros ≤ aim (significand * 2 ^ zeros) (exponent - zeros) := by
    unfold aim at isZeros ⊢
    rw [log2_mul_twoPow positive]
    omega
  have unit : (0 : Rat) < 2 ^ (exponent - zeros : Int) := by positivity
  simp only [UnpackedFloat.round, decreaseExponent, targetExponent_eq_aim, ← isZeros,
    Nat.shiftLeft_eq]
  rw [same] at ordinary ⊢
  exact near_stored_round sign .exact reached le_rfl (by linarith) ordinary

theorem near_normalize {total : Int} (ordinary : |(total : Rat) * 2 ^ exponent| ≤ largestOrdinary) :
    Near roundoff (total * 2 ^ exponent)
      (stored (UnpackedFloat.normalize Format.binary64 total exponent .positive)) := by
  have unit : (0 : Rat) < 2 ^ exponent := by positivity
  have signed (sign : Sign) {significand : Nat} (isTotal : total = sign.apply significand)
      (positive : 0 < significand) : Near roundoff (total * 2 ^ exponent)
        (stored (UnpackedFloat.round Format.binary64 sign significand exponent)) := by
    rw [isTotal, apply_eq_factor_mul, mul_assoc] at ordinary ⊢
    rw [abs_factor_mul sign (by positivity)] at ordinary
    exact near_round sign positive ordinary
  unfold UnpackedFloat.normalize
  obtain below | rfl | above := lt_trichotomy total 0
  · rw [compare_lt_iff_lt.mpr below]
    exact signed .negative (show total = -((-total).toNat : Int) by omega) (by omega)
  · rw [compare_eq_iff_eq.mpr rfl, Int.cast_zero, zero_mul]
    exact (StandsFor.zero _).near_stored
  · rw [compare_gt_iff_gt.mpr above]
    exact signed .positive (show total = (total.toNat : Int) by omega) (by omega)

/-- Zeros are appended to a dividend until the quotient has 53 bits or the least exponent. -/
theorem divCore_reached (exponent otherExponent : Int) (significandPositive : 0 < significand)
    (otherPositive : 0 < otherSignificand) : ∃ zeros : Nat,
      divCore Format.binary64 significand exponent otherSignificand otherExponent =
        (significand * 2 ^ zeros / otherSignificand, exponent - otherExponent - zeros,
          accuracyOfFraction (significand * 2 ^ zeros % otherSignificand) otherSignificand) ∧
      exponent - otherExponent - zeros ≤
        aim (significand * 2 ^ zeros / otherSignificand) (exponent - otherExponent - zeros) := by
  obtain ⟨first, isFirst⟩ : ∃ first, first = min (exponent - otherExponent)
      (Format.binary64.targetExponent
        (totalExponent significand exponent - totalExponent otherSignificand otherExponent)) :=
    ⟨_, rfl⟩
  have bounds : first = min (exponent - otherExponent) (max
      ((significand.log2 : Int) + 1 + exponent - (otherSignificand.log2 + 1 + otherExponent) - 53)
      Binary64.leastExponent) := isFirst
  obtain ⟨zeros, isZeros⟩ := Int.eq_ofNat_of_zero_le
    (show 0 ≤ exponent - otherExponent - first by omega)
  have start : exponent - otherExponent - zeros = first := by omega
  refine ⟨zeros, ?_, ?_⟩
  · simp only [divCore, ← isFirst, isZeros, Int.toNat_natCast, Nat.shiftLeft_eq, start]
  · rw [start]
    by_cases least : first ≤ Binary64.leastExponent
    · exact le_aim_of_least least
    · apply le_aim_of_long
      rw [Nat.le_div_iff_mul_le otherPositive]
      exact long_dividend significandPositive (by omega)

theorem near_div_finite (sign other : Sign) (positive : 0 < significand)
    (otherPositive : 0 < otherSignificand)
    (ordinary : (significand : Rat) * 2 ^ exponent / (otherSignificand * 2 ^ otherExponent) ≤
      largestOrdinary) :
    Near roundoff (factor sign * (significand * 2 ^ exponent) /
        (factor other * (otherSignificand * 2 ^ otherExponent)))
      (stored (UnpackedFloat.div Format.binary64 (.finite sign significand exponent positive)
        (.finite other otherSignificand otherExponent otherPositive))) := by
  obtain ⟨zeros, isDivided, reached⟩ :=
    divCore_reached exponent otherExponent positive otherPositive
  have otherRat : (0 : Rat) < otherSignificand := by exact_mod_cast otherPositive
  have quotient : (significand : Rat) * 2 ^ exponent / (otherSignificand * 2 ^ otherExponent) =
      (significand * 2 ^ zeros : Nat) / otherSignificand *
        2 ^ (exponent - otherExponent - zeros) := by
    rw [zpow_sub₀ (by norm_num), zpow_sub₀ (by norm_num), zpow_natCast]
    push_cast
    field_simp
  have above : ((significand * 2 ^ zeros / otherSignificand : Nat) : Rat) ≤
      (significand * 2 ^ zeros : Nat) / otherSignificand := Nat.cast_div_le
  have below : ((significand * 2 ^ zeros : Nat) : Rat) / otherSignificand ≤
      (significand * 2 ^ zeros / otherSignificand : Nat) + 1 := by
    rw [div_le_iff₀ otherRat]
    exact_mod_cast (Nat.lt_mul_of_div_lt (Nat.lt_succ_self _) otherPositive).le
  rw [mul_div_mul_comm, ← factor_div]
  simp only [UnpackedFloat.div, isDivided]
  rw [quotient] at ordinary ⊢
  exact near_stored_round _ _ reached (by gcongr) (by gcongr) ordinary

end Finite

/-- Both significands are brought to the smaller exponent. -/
theorem scaled_to_min (significand : Nat) {exponent smaller : Int} (le : smaller ≤ exponent) :
    (decreaseExponent significand exponent smaller).1 * (2 : Rat) ^ smaller =
      significand * 2 ^ exponent := by
  obtain ⟨zeros, rfl⟩ := Int.le.dest le
  have shift : (smaller + zeros - smaller).toNat = zeros := by omega
  simp only [decreaseExponent, shift, Nat.shiftLeft_eq]
  rw [zpow_add₀ (by norm_num), zpow_natCast]
  push_cast
  ring

theorem apply_scaled (sign : Sign) (significand : Nat) {exponent smaller : Int}
    (le : smaller ≤ exponent) :
    ((sign.apply (decreaseExponent significand exponent smaller).1 : Int) : Rat) * 2 ^ smaller =
      factor sign * (significand * 2 ^ exponent) := by
  rw [apply_eq_factor_mul, mul_assoc, scaled_to_min significand le]

theorem near_add (isLeft : StandsFor left leftValue) (isRight : StandsFor right rightValue)
    (ordinary : |leftValue + rightValue| ≤ largestOrdinary) :
    Near roundoff (leftValue + rightValue)
      (stored (UnpackedFloat.add Format.binary64 left right)) := by
  cases isLeft with
  | zero sign =>
      rw [zero_add]
      cases isRight with
      | zero other => cases sign <;> cases other <;> exact (StandsFor.zero _).near_stored
      | finite other positive canonical within =>
          exact (StandsFor.finite other positive canonical within).near_stored
  | @finite sign significand exponent positive canonical within =>
      cases isRight with
      | zero other =>
          rw [add_zero]
          exact (StandsFor.finite sign positive canonical within).near_stored
      | @finite other otherSignificand otherExponent otherPositive otherCanonical otherWithin =>
          have left := apply_scaled sign significand (min_le_left exponent otherExponent)
          have right := apply_scaled other otherSignificand (min_le_right exponent otherExponent)
          rw [← left, ← right, ← add_mul, ← Int.cast_add] at ordinary ⊢
          exact near_normalize ordinary

theorem StandsFor.neg (isRight : StandsFor right rightValue) : StandsFor right.neg (-rightValue) := by
  cases isRight with
  | zero sign =>
      rw [neg_zero]
      exact .zero _
  | finite sign positive canonical within =>
      rw [← neg_mul, ← factor_neg]
      exact .finite (-sign) positive canonical within

/-- To subtract is to add what has the other sign. -/
theorem sub_eq_add (left right : UnpackedFloat) :
    UnpackedFloat.sub Format.binary64 left right =
      UnpackedFloat.add Format.binary64 left right.neg := by
  cases left <;> cases right <;> try rfl
  case finite.finite =>
    simp only [UnpackedFloat.sub, UnpackedFloat.add, UnpackedFloat.neg, apply_neg, sub_eq_add_neg]

theorem near_sub (isLeft : StandsFor left leftValue) (isRight : StandsFor right rightValue)
    (ordinary : |leftValue - rightValue| ≤ largestOrdinary) :
    Near roundoff (leftValue - rightValue)
      (stored (UnpackedFloat.sub Format.binary64 left right)) := by
  rw [sub_eq_add_neg] at ordinary ⊢
  rw [sub_eq_add]
  exact near_add isLeft isRight.neg ordinary

theorem near_mul (isLeft : StandsFor left leftValue) (isRight : StandsFor right rightValue)
    (ordinary : |leftValue * rightValue| ≤ largestOrdinary) :
    Near roundoff (leftValue * rightValue)
      (stored (UnpackedFloat.mul Format.binary64 left right)) := by
  cases isLeft with
  | zero sign =>
      rw [zero_mul]
      cases isRight <;> exact (StandsFor.zero _).near_stored
  | finite sign positive canonical within =>
      cases isRight with
      | zero other =>
          rw [mul_zero]
          exact (StandsFor.zero _).near_stored
      | finite other otherPositive otherCanonical otherWithin =>
          rw [abs_mul, abs_factor_mul sign (by positivity), abs_factor_mul other (by positivity)]
            at ordinary
          exact near_mul_finite sign other canonical otherCanonical positive otherPositive ordinary

theorem near_div (isLeft : StandsFor left leftValue) (isRight : StandsFor right rightValue)
    (nonzero : rightValue ≠ 0) (ordinary : |leftValue / rightValue| ≤ largestOrdinary) :
    Near roundoff (leftValue / rightValue)
      (stored (UnpackedFloat.div Format.binary64 left right)) := by
  cases isRight with
  | zero other => exact absurd rfl nonzero
  | finite other otherPositive otherCanonical otherWithin =>
      cases isLeft with
      | zero sign =>
          rw [zero_div]
          exact (StandsFor.zero _).near_stored
      | finite sign positive canonical within =>
          rw [abs_div, abs_factor_mul sign (by positivity), abs_factor_mul other (by positivity)]
            at ordinary
          exact near_div_finite sign other positive otherPositive ordinary

end Operations

/-! ### Literals -/

theorem tenth_eq (count : Nat) (isExact : count ∈ exactTenths) :
    Arithmetic.rational? (ofDecimal count true 1) = some (count / 10 : Rat) := by
  have each : ∀ count ∈ exactTenths,
      Arithmetic.rational? (ofDecimal count true 1) = some (count / 10 : Rat) := by
    decide +kernel
  exact each count isExact

theorem near_hundredth (count : Nat) (small : count ≤ 200) :
    Near roundoff (count / 100) (ofDecimal count true 2) := by
  have each : ∀ index : Fin 201, ∃ found ∈ Arithmetic.rational? (ofDecimal index true 2),
      |found - index / 100| ≤ roundoff := by
    decide +kernel
  obtain ⟨found, isFound, close⟩ := each ⟨count, by omega⟩
  exact ⟨found, isFound, close⟩

instance : RoundoffArithmetic Float where
  add isLeft isRight := near_add (standsFor_of_rational? isLeft) (standsFor_of_rational? isRight)
  sub isLeft isRight := near_sub (standsFor_of_rational? isLeft) (standsFor_of_rational? isRight)
  mul isLeft isRight := near_mul (standsFor_of_rational? isLeft) (standsFor_of_rational? isRight)
  div isLeft isRight := near_div (standsFor_of_rational? isLeft) (standsFor_of_rational? isRight)
  tenth := tenth_eq
  hundredth := near_hundredth

end MapStyle.Double
