import Mathlib
import MapStyle.Number.Double
import MapStyle.Proofs.Number.Laws

/-!
# Laws of double-precision arithmetic

Doubles obey the laws that are asked of fractional numbers. The bits of a double are unpacked into
a sign, a significand and an exponent, and the exponent is always as small as the format and a
significand of 53 bits allow. So doubles are ordered by exponent and significand as by value, and
of the product with one there is nothing to round off but zeros.
-/

namespace MapStyle.Double

set_option autoImplicit false

open MapStyle.Decimal (Binary64 twoTo)
open Float.Model (Format UnpackedFloat totalExponent)
open Float.Model.UnpackedFloat

/-- A significand is short only with the least exponent. -/
structure Canonical (significand : Nat) (exponent : Int) : Prop where
  fits : significand < 2 ^ 53
  notBelow : Binary64.leastExponent ≤ exponent
  full : 2 ^ 52 ≤ significand ∨ exponent = Binary64.leastExponent

def IsCanonical : UnpackedFloat → Prop
  | .finite _ significand exponent _ => Canonical significand exponent
  | _ => True

/-- The parts of a finite double. -/
def parts? : UnpackedFloat → Option Binary64
  | .zero sign => some ⟨sign == .negative, 0, Binary64.leastExponent⟩
  | .finite sign significand exponent _ => some ⟨sign == .negative, significand, exponent⟩
  | _ => none

/-- The place of a double on the line. -/
def unpackedPlace? : UnpackedFloat → Option Place
  | .notANumber => none
  | .infinity .negative => some ⊥
  | .infinity .positive => some ⊤
  | .zero _ => some (.ofRat 0)
  | .finite sign significand exponent _ =>
      some (.ofRat (sign.apply significand * 2 ^ exponent))

/-! ### Fields -/

section Fields

variable (bits : BitVec Format.binary64.numBits)

theorem toNat_unpackMantissa : (unpackMantissa bits).toNat = bits.toNat % 2 ^ 52 := by
  simp [unpackMantissa_def]

theorem toNat_unpackExponent : (unpackExponent bits).toNat = bits.toNat / 2 ^ 52 % 2 ^ 11 := by
  simp [unpackExponent_def, Nat.shiftRight_eq_div_pow]

theorem toNat_unpackSign : (unpackSign bits).toNat = bits.toNat / 2 ^ 63 := by
  have fits : bits.toNat < 2 ^ 64 := bits.isLt
  have sign : (unpackSign bits).toNat = bits.toNat / 2 ^ 63 % 2 := by
    simp [unpackSign_def, Nat.shiftRight_eq_div_pow]
  omega

theorem isNegative_unpackSign :
    (Sign.ofBitVec (unpackSign bits) == .negative) = decide (twoTo 63 ≤ bits.toNat) := by
  have fits : bits.toNat < 2 ^ 64 := bits.isLt
  have sign := toNat_unpackSign bits
  show _ = decide (2 ^ 63 ≤ bits.toNat)
  unfold Sign.ofBitVec
  split
  · rename_i positive
    have low : bits.toNat / 2 ^ 63 = 0 := by
      rw [← sign, positive]
      rfl
    exact (decide_eq_false (by omega)).symm
  · rename_i negative
    have high : bits.toNat / 2 ^ 63 ≠ 0 := by
      rw [← sign]
      exact fun zero => negative (BitVec.eq_of_toNat_eq zero)
    exact (decide_eq_true (by omega)).symm

/-- The leading bit of a significand, which is not stored. -/
theorem toNat_implicit {width : Nat} (fraction : BitVec width) :
    (1#1 ++ fraction).toNat = 2 ^ width + fraction.toNat := by
  rw [BitVec.toNat_append, ← Nat.shiftLeft_add_eq_or_of_lt fraction.isLt]
  simp [Nat.shiftLeft_eq]

theorem ofBits?_eq_fields : Binary64.ofBits? bits.toNat =
    if (unpackExponent bits).toNat = Binary64.reservedField then none
    else if (unpackExponent bits).toNat = 0 then
      some (.mk (Sign.ofBitVec (unpackSign bits) == .negative) (unpackMantissa bits).toNat
        Binary64.leastExponent)
    else
      some (.mk (Sign.ofBitVec (unpackSign bits) == .negative)
        (2 ^ 52 + (unpackMantissa bits).toNat) ((unpackExponent bits).toNat - 1075)) := by
  rw [toNat_unpackExponent, toNat_unpackMantissa, isNegative_unpackSign]
  rfl

theorem ofBits?_eq_parts :
    Binary64.ofBits? bits.toNat = parts? (unpack Format.binary64 bits) := by
  have reserved : unpackExponent bits = -1#_ ↔
      (unpackExponent bits).toNat = Binary64.reservedField := BitVec.toNat_inj.symm
  have least : unpackExponent bits = 0#_ ↔ (unpackExponent bits).toNat = 0 := BitVec.toNat_inj.symm
  rw [ofBits?_eq_fields, unpack]
  simp only [← reserved, ← least]
  split
  · split <;> rfl
  · split
    · rename_i isLeast
      split
      · rename_i noFraction
        rw [noFraction]
        rfl
      · rw [isLeast]
        rfl
    · rw [parts?, toNat_implicit]
      rfl

theorem isCanonical_unpack : IsCanonical (unpack Format.binary64 bits) := by
  have field : (unpackExponent bits).toNat < 2 ^ 11 := (unpackExponent bits).isLt
  have fraction : (unpackMantissa bits).toNat < 2 ^ 52 := (unpackMantissa bits).isLt
  rw [unpack]
  split
  · split <;> trivial
  · split
    · rename_i isLeast
      split
      · trivial
      · rw [isLeast]
        exact ⟨by omega, le_refl _, .inr rfl⟩
    · rename_i notLeast
      have positive : (unpackExponent bits).toNat ≠ 0 := fun zero =>
        notLeast (BitVec.eq_of_toNat_eq zero)
      refine ⟨?_, ?_, ?_⟩
      · rw [toNat_implicit]
        show 2 ^ 52 + (unpackMantissa bits).toNat < 2 ^ 53
        omega
      · show -1074 ≤ ((unpackExponent bits).toNat : Int) - 1075
        omega
      · rw [toNat_implicit]
        exact .inl (Nat.le_add_right _ _)

end Fields

/-! ### Values -/

theorem toRat_eq (value : Binary64) : value.toRat =
    ((if value.negative then -value.significand else value.significand : Int) : Rat) *
      2 ^ value.exponent := by
  unfold Binary64.toRat
  by_cases positive : 0 ≤ value.exponent
  · obtain ⟨power, isPower⟩ := Int.eq_ofNat_of_zero_le positive
    simp [isPower, twoTo]
  · obtain ⟨power, isPower⟩ := Int.eq_ofNat_of_zero_le (show 0 ≤ -value.exponent by omega)
    have exponent : value.exponent = -(power : Int) := by omega
    have nonzero : power ≠ 0 := by omega
    simp [exponent, nonzero, Rat.mkRat_eq_div, twoTo, div_eq_mul_inv]

/-- The place of a finite double is its value, and no other double has a rational place. -/
theorem toRat_parts?_iff (unpacked : UnpackedFloat) (exact : Rat) :
    (parts? unpacked).map Binary64.toRat = some exact ↔
      unpackedPlace? unpacked = some (.ofRat exact) := by
  cases unpacked with
  | notANumber => simp [parts?, unpackedPlace?]
  | infinity sign =>
      cases sign with
      | negative => simp [parts?, unpackedPlace?, (Place.bot_lt_ofRat exact).ne]
      | positive => simp [parts?, unpackedPlace?, (Place.ofRat_lt_top exact).ne']
  | zero sign => simp [parts?, unpackedPlace?, toRat_eq]
  | finite sign significand exponent positive =>
      cases sign with
      | negative => simp [parts?, unpackedPlace?, toRat_eq, Sign.apply]
      | positive => simp [parts?, unpackedPlace?, toRat_eq, Sign.apply]

/-! ### Order -/

section Order

variable {significand otherSignificand : Nat} {exponent otherExponent : Int}
  {left right : UnpackedFloat}

theorem magnitude_pos (positive : 0 < significand) (exponent : Int) :
    (0 : Rat) < significand * 2 ^ exponent :=
  mul_pos (Nat.cast_pos.mpr positive) (by positivity)

/-- A larger exponent means a larger magnitude. -/
theorem magnitude_lt_of_exponent (canonical : Canonical significand exponent)
    (otherCanonical : Canonical otherSignificand otherExponent)
    (below : exponent < otherExponent) :
    (significand : Rat) * 2 ^ exponent < otherSignificand * 2 ^ otherExponent := by
  have full : 2 ^ 52 ≤ otherSignificand := by
    obtain full | least := otherCanonical.full
    · exact full
    · have notBelow := canonical.notBelow
      omega
  have fits : (significand : Rat) < 2 ^ 53 := by exact_mod_cast canonical.fits
  have otherFull : (2 : Rat) ^ 52 ≤ otherSignificand := by exact_mod_cast full
  have powers : (2 : Rat) ^ (exponent + 1) ≤ 2 ^ otherExponent :=
    zpow_le_zpow_right₀ (by norm_num) below
  calc (significand : Rat) * 2 ^ exponent < 2 ^ 53 * 2 ^ exponent :=
        mul_lt_mul_of_pos_right fits (by positivity)
    _ = 2 ^ 52 * 2 ^ (exponent + 1) := by
        rw [zpow_add_one₀ (by norm_num)]
        ring
    _ ≤ otherSignificand * 2 ^ otherExponent :=
        mul_le_mul otherFull powers (by positivity) (by positivity)

theorem magnitude_lt_of_significand (below : significand < otherSignificand) :
    (significand : Rat) * 2 ^ exponent < otherSignificand * 2 ^ exponent :=
  mul_lt_mul_of_pos_right (Nat.cast_lt.mpr below) (by positivity)

/-- Magnitudes are ordered by exponent, then by significand. -/
theorem order_magnitudes (canonical : Canonical significand exponent)
    (otherCanonical : Canonical otherSignificand otherExponent) :
    (Place.ofRat (significand * 2 ^ exponent)).order
        (.ofRat (otherSignificand * 2 ^ otherExponent)) =
      (compare exponent otherExponent).then (compare significand otherSignificand) := by
  obtain below | rfl | above := lt_trichotomy exponent otherExponent
  · rw [compare_lt_iff_lt.mpr below]
    exact Place.order_of_lt
      (Place.ofRat_lt_ofRat.mpr (magnitude_lt_of_exponent canonical otherCanonical below))
  · rw [compare_eq_iff_eq.mpr rfl, Ordering.eq_then]
    obtain below | rfl | above := lt_trichotomy significand otherSignificand
    · rw [compare_lt_iff_lt.mpr below]
      exact Place.order_of_lt (Place.ofRat_lt_ofRat.mpr (magnitude_lt_of_significand below))
    · rw [compare_eq_iff_eq.mpr rfl]
      exact Place.order_self _
    · rw [compare_gt_iff_gt.mpr above]
      exact Place.order_of_gt (Place.ofRat_lt_ofRat.mpr (magnitude_lt_of_significand above))
  · rw [compare_gt_iff_gt.mpr above]
    exact Place.order_of_gt
      (Place.ofRat_lt_ofRat.mpr (magnitude_lt_of_exponent otherCanonical canonical above))

theorem compare_finite (canonical : Canonical significand exponent)
    (otherCanonical : Canonical otherSignificand otherExponent) (positive : 0 < significand)
    (otherPositive : 0 < otherSignificand) (sign otherSign : Sign) :
    (UnpackedFloat.finite sign significand exponent positive).compare
        (.finite otherSign otherSignificand otherExponent otherPositive) =
      some ((Place.ofRat (sign.apply significand * 2 ^ exponent)).order
        (.ofRat (otherSign.apply otherSignificand * 2 ^ otherExponent))) := by
  have above := magnitude_pos positive exponent
  have otherAbove := magnitude_pos otherPositive otherExponent
  cases sign with
  | positive =>
      cases otherSign with
      | positive => exact congrArg some (order_magnitudes canonical otherCanonical).symm
      | negative =>
          have apart := (neg_neg_of_pos otherAbove).trans above
          simp [UnpackedFloat.compare, Sign.apply, Place.order_of_gt, apart]
  | negative =>
      cases otherSign with
      | positive =>
          have apart := (neg_neg_of_pos above).trans otherAbove
          simp [UnpackedFloat.compare, Sign.apply, Place.order_of_lt, apart]
      | negative =>
          have swapped := order_magnitudes otherCanonical canonical
          simp [UnpackedFloat.compare, Sign.apply, Place.order_neg, swapped, Ordering.swap_then,
            Int.compare_swap, Nat.compare_swap]

/-- Doubles are compared as their places are. -/
theorem compare_eq_order (leftCanonical : IsCanonical left) (rightCanonical : IsCanonical right) :
    left.compare right =
      (unpackedPlace? left).bind fun place => (unpackedPlace? right).map place.order := by
  cases left with
  | notANumber => rfl
  | infinity sign =>
      cases right with
      | notANumber => cases sign <;> rfl
      | infinity otherSign =>
          cases sign <;> cases otherSign <;>
            simp [UnpackedFloat.compare, unpackedPlace?, Place.order_self, Place.order_of_lt,
              Place.order_of_gt] <;> rfl
      | zero otherSign =>
          cases sign <;>
            simp [UnpackedFloat.compare, unpackedPlace?, Place.order_of_lt, Place.order_of_gt]
      | finite otherSign otherSignificand otherExponent otherPositive =>
          cases sign <;>
            simp [UnpackedFloat.compare, unpackedPlace?, Place.order_of_lt, Place.order_of_gt]
  | zero sign =>
      cases right with
      | notANumber => rfl
      | infinity otherSign =>
          cases otherSign <;>
            simp [UnpackedFloat.compare, unpackedPlace?, Place.order_of_lt, Place.order_of_gt]
      | zero otherSign => exact congrArg some (Place.order_self _).symm
      | finite otherSign otherSignificand otherExponent otherPositive =>
          have above := magnitude_pos otherPositive otherExponent
          cases otherSign <;>
            simp [UnpackedFloat.compare, unpackedPlace?, Sign.apply, Place.order_of_lt,
              Place.order_of_gt, above]
  | finite sign significand exponent positive =>
      have above := magnitude_pos positive exponent
      cases right with
      | notANumber => rfl
      | infinity otherSign =>
          cases sign <;> cases otherSign <;>
            simp [UnpackedFloat.compare, unpackedPlace?, Place.order_of_lt, Place.order_of_gt]
      | zero otherSign =>
          cases sign <;>
            simp [UnpackedFloat.compare, unpackedPlace?, Sign.apply, Place.order_of_lt,
              Place.order_of_gt, above]
      | finite otherSign otherSignificand otherExponent otherPositive =>
          exact compare_finite leftCanonical rightCanonical positive otherPositive sign otherSign

theorem compare_swap (leftCanonical : IsCanonical left) (rightCanonical : IsCanonical right) :
    right.compare left = (left.compare right).map Ordering.swap := by
  rw [compare_eq_order leftCanonical rightCanonical, compare_eq_order rightCanonical leftCanonical]
  cases unpackedPlace? left with
  | none => cases unpackedPlace? right <;> rfl
  | some leftPlace =>
      cases unpackedPlace? right with
      | none => rfl
      | some rightPlace => exact congrArg some (leftPlace.order_swap rightPlace).symm

theorem isCanonical (value : Float) : IsCanonical value.toModel.unpack :=
  isCanonical_unpack _

theorem order?_eq_compare (left right : Float) :
    order? left right = left.toModel.unpack.compare right.toModel.unpack := by
  have below : left < right ↔ left.toModel.unpack.compare right.toModel.unpack = some .lt := by
    show decide (left.toModel.unpack.lt right.toModel.unpack = true) = true ↔ _
    simp [UnpackedFloat.lt]
  have above : right < left ↔ left.toModel.unpack.compare right.toModel.unpack = some .gt := by
    show decide (right.toModel.unpack.lt left.toModel.unpack = true) = true ↔ _
    rw [UnpackedFloat.lt, compare_swap (isCanonical left) (isCanonical right)]
    cases left.toModel.unpack.compare right.toModel.unpack with
    | none => simp
    | some order => cases order <;> simp
  have equal : (left == right) = true ↔
      left.toModel.unpack.compare right.toModel.unpack = some .eq := by
    show left.toModel.unpack.beq right.toModel.unpack = true ↔ _
    simp [UnpackedFloat.beq]
  unfold order?
  simp only [below, above, equal]
  cases left.toModel.unpack.compare right.toModel.unpack with
  | none => rfl
  | some order => cases order <;> rfl

end Order

/-! ### Products with one -/

section One

variable {significand : Nat} {exponent : Int}

/-- Dropping zeros is exact. -/
theorem shiftRight_zeros (places : Nat) :
    ExtendedMantissa.ofMantissaAndAccuracy (significand * 2 ^ places) .exact >>> places =
      ExtendedMantissa.ofMantissaAndAccuracy significand .exact := by
  show places.repeat ExtendedMantissa.shiftRightOne _ = _
  induction places generalizing significand with
  | zero => simp [Nat.repeat]
  | succ count ih =>
      have doubled : significand * 2 ^ (count + 1) = significand * 2 * 2 ^ count := by ring
      rw [Nat.repeat, doubled, ih]
      simp [ExtendedMantissa.ofMantissaAndAccuracy, ExtendedMantissa.shiftRightOne]

theorem log2_mul_twoPow (positive : 0 < significand) (places : Nat) :
    (significand * 2 ^ places).log2 = significand.log2 + places := by
  induction places with
  | zero => simp
  | succ count ih =>
      have doubled : significand * 2 ^ (count + 1) = 2 * (significand * 2 ^ count) := by ring
      have nonzero := (Nat.mul_pos positive (Nat.two_pow_pos count)).ne'
      rw [doubled, Nat.log2_two_mul nonzero, ih]
      omega

/-- A canonical exponent is the one that rounding aims at. -/
theorem targetExponent_eq (positive : 0 < significand)
    (canonical : Canonical significand exponent) :
    Format.binary64.targetExponent (totalExponent significand exponent) = exponent := by
  have short : significand.log2 < 53 := (Nat.log2_lt positive.ne').mpr canonical.fits
  obtain ⟨_, notBelow, full⟩ := canonical
  show max ((significand.log2 : Int) + 1 + exponent - 53) (-1074) = exponent
  unfold Binary64.leastExponent at notBelow full
  obtain full | least := full
  · have long := (Nat.le_log2 positive.ne').mpr full
    omega
  · omega

/-- Zeros that were appended to a canonical significand are shifted out again. -/
theorem shift_zeros (positive : 0 < significand) (canonical : Canonical significand exponent)
    (places : Nat) :
    shiftToTargetExponent Format.binary64 (significand * 2 ^ places) (exponent - places) .exact =
      (ExtendedMantissa.ofMantissaAndAccuracy significand .exact, exponent) := by
  have total : totalExponent (significand * 2 ^ places) (exponent - places) =
      totalExponent significand exponent := by
    simp only [totalExponent, log2_mul_twoPow positive]
    omega
  have shift : (exponent - (exponent - places)).toNat = places := by omega
  simp only [shiftToTargetExponent, total, targetExponent_eq positive canonical, shiftToExponent,
    shift, shiftRight_zeros]
  rw [Int.sub_add_cancel]

/-- Of a canonical significand nothing is shifted out. -/
theorem shift_canonical (positive : 0 < significand) (canonical : Canonical significand exponent) :
    shiftToTargetExponent Format.binary64 significand exponent .exact =
      (ExtendedMantissa.ofMantissaAndAccuracy significand .exact, exponent) := by
  simpa using shift_zeros positive canonical 0

/-- Rounding takes zeros off again that were appended to a canonical significand. -/
theorem round_zeros (sign : Sign) (positive : 0 < significand)
    (canonical : Canonical significand exponent) (places : Nat) :
    roundWithAccuracy Format.binary64 sign (significand * 2 ^ places) (exponent - places) .exact =
      .finite sign significand exponent positive := by
  have rounded :
      (ExtendedMantissa.ofMantissaAndAccuracy significand .exact).roundedMantissa = significand :=
    rfl
  simp only [roundWithAccuracy, shift_zeros positive canonical, rounded,
    shift_canonical positive canonical]
  exact dif_neg positive.ne'

/-- One, unpacked. -/
def unpackedOne : UnpackedFloat :=
  .finite .positive (2 ^ 52) (-52) (by decide)

theorem mul_unpackedOne {value : UnpackedFloat} (canonical : IsCanonical value) :
    UnpackedFloat.mul Format.binary64 value unpackedOne = value := by
  have signs (sign : Sign) : sign * .positive = sign := by cases sign <;> rfl
  cases value with
  | notANumber => rfl
  | infinity sign => exact congrArg UnpackedFloat.infinity (signs sign)
  | zero sign => exact congrArg UnpackedFloat.zero (signs sign)
  | finite sign significand exponent positive =>
      rw [unpackedOne, UnpackedFloat.mul, signs]
      exact round_zeros sign positive canonical 52

theorem mul_one (value : Float) : value * Float.ofBits 0x3ff0000000000000 = value := by
  show Float.ofModel (Float.Model.pack
    (UnpackedFloat.mul Format.binary64 value.toModel.unpack unpackedOne)) = value
  rw [mul_unpackedOne (isCanonical value)]
  exact Float.ofBits_toBits value

end One

/-! ### The laws -/

instance : OrderedArithmetic Float where
  place? value := unpackedPlace? value.toModel.unpack
  order?_eq left right :=
    (order?_eq_compare left right).trans (compare_eq_order (isCanonical left) (isCanonical right))
  rational?_eq_some_iff value exact := by
    have parts : binary64? value = parts? value.toModel.unpack := ofBits?_eq_parts _
    show (binary64? value).map Binary64.toRat = some exact ↔ _
    rw [parts]
    exact toRat_parts?_iff _ exact
  place?_zero := rfl

instance : RoundedArithmetic Float where
  ofByte value fits := by
    have each : ∀ byte : Fin 256, (Binary64.nearestBits? byte 1).isSome := by decide +kernel
    obtain ⟨bits, found⟩ := Option.isSome_iff_exists.mp (each ⟨value, by omega⟩)
    exact ⟨_, congrArg (Option.map _) found⟩
  mul_one one isOne value := by
    have nearest : ofRat? 1 = some (Float.ofBits 0x3ff0000000000000) := by decide +kernel
    cases nearest.symm.trans isOne
    exact mul_one value

instance : WholeArithmetic Float where
  ofWhole whole small := by
    have each : ∀ index : Fin 376,
        (Double.ofRat? (((index : Int) - 15 : Int) : Rat)).bind Arithmetic.rational? =
          some (((index : Int) - 15 : Int) : Rat) := by
      decide +kernel
    obtain ⟨above, below⟩ := small
    obtain ⟨index, isIndex⟩ : ∃ index : Fin 376, (index : Int) - 15 = whole :=
      ⟨⟨(whole + 15).toNat, by omega⟩, by dsimp only; omega⟩
    have found := each index
    rw [isIndex] at found
    exact Option.bind_eq_some_iff.mp found
  zero := by decide +kernel

end MapStyle.Double
