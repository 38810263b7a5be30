import Mathlib
import MapStyle.Proofs.Number.Rounding

/-!
# Numbers that are not below zero

A number that stands for a rational not below zero is not below zero, and neither is the product of two
such numbers, however it is rounded. In double precision that is a matter of signs alone.
-/

namespace MapStyle

set_option autoImplicit false

/-- A fractional number that is not below zero, unless it is undefined. -/
def NotBelow {F : Type} [Arithmetic F] [OrderedArithmetic F] (value : F) : Prop :=
  ∀ place, OrderedArithmetic.place? value = some place → .ofRat 0 ≤ place

/-- Rounding leaves the sign of what is not below zero. -/
class SignedArithmetic (F : Type) [Arithmetic F] [OrderedArithmetic F] : Prop where
  ofRat? : ∀ (exact : Rat) (nearest : F), 0 ≤ exact → Arithmetic.ofRat? exact = some nearest →
    NotBelow nearest
  mul : ∀ left right : F, NotBelow left → NotBelow right → NotBelow (left * right)

theorem notBelow_rat {value : Rat} : NotBelow value ↔ 0 ≤ value := by
  rw [← Place.ofRat_le_ofRat]
  constructor
  · intro notBelow
    exact notBelow _ rfl
  · rintro above _ ⟨⟩
    exact above

instance : SignedArithmetic Rat where
  ofRat? exact nearest notBelow found := by
    cases found
    exact notBelow_rat.mpr notBelow
  mul left right leftNotBelow rightNotBelow :=
    notBelow_rat.mpr (mul_nonneg (notBelow_rat.mp leftNotBelow) (notBelow_rat.mp rightNotBelow))

/-! ### Signs of doubles -/

namespace Double

open MapStyle.Decimal (Binary64 twoTo)
open Float.Model (Format UnpackedFloat)
open Float.Model.UnpackedFloat

/-- A sign that does not put a number below zero; a zero may have either. -/
def SignAllows : UnpackedFloat → Prop
  | .infinity sign => sign = .positive
  | .finite sign _ _ _ => sign = .positive
  | _ => True

theorem signAllows_iff {value : Float} : SignAllows value.toModel.unpack ↔ NotBelow value := by
  show _ ↔ ∀ place, unpackedPlace? value.toModel.unpack = some place → .ofRat 0 ≤ place
  cases value.toModel.unpack with
  | notANumber => simp [SignAllows, unpackedPlace?]
  | infinity sign =>
      cases sign with
      | positive => simp [SignAllows, unpackedPlace?]
      | negative => simp [SignAllows, unpackedPlace?, (Place.bot_lt_ofRat 0).ne']
  | zero sign => simp [SignAllows, unpackedPlace?]
  | finite sign significand exponent positive =>
      have above := magnitude_pos positive exponent
      cases sign with
      | positive => simp [SignAllows, unpackedPlace?, Sign.apply, Place.ofRat_le_ofRat, above.le]
      | negative => simp [SignAllows, unpackedPlace?, Sign.apply, Place.ofRat_le_ofRat, above]

theorem signAllows_unpack {bits : BitVec Format.binary64.numBits}
    (isPositive : Sign.ofBitVec (unpackSign bits) = .positive) :
    SignAllows (unpack Format.binary64 bits) := by
  rw [unpack, isPositive]
  dsimp only
  split_ifs <;> trivial

theorem signAllows_packComponents (field : BitVec Format.binary64.exponentBits)
    (fraction : BitVec Format.binary64.mantissaBitsWithoutImplicit) :
    SignAllows (unpack Format.binary64 (packComponents Format.binary64 .positive field fraction)) := by
  apply signAllows_unpack
  rw [unpackSign_packComponents, Sign.ofBitVec_toBitVec]

theorem unpack_packedZero (sign : Sign) :
    unpack Format.binary64 (packedZero Format.binary64 sign) = .zero sign := by
  simp [unpack, packedZero]

/-- Packing keeps the sign. -/
theorem signAllows_pack {unpacked : UnpackedFloat} (allows : SignAllows unpacked) :
    SignAllows (unpack Format.binary64 (pack Format.binary64 unpacked)) := by
  cases unpacked with
  | notANumber => exact signAllows_packComponents _ _
  | infinity sign =>
      cases allows
      exact signAllows_packComponents _ _
  | zero sign =>
      rw [pack, unpack_packedZero]
      trivial
  | finite sign significand exponent positive =>
      cases allows
      rw [pack]
      dsimp only
      split_ifs
      · exact signAllows_packComponents _ _
      · exact signAllows_packComponents _ _
      · exact signAllows_packComponents _ _

theorem signAllows_mul {left right : UnpackedFloat} (leftAllows : SignAllows left)
    (rightAllows : SignAllows right) :
    SignAllows (UnpackedFloat.mul Format.binary64 left right) := by
  cases left with
  | notANumber => trivial
  | zero sign => cases right <;> trivial
  | infinity sign =>
      cases leftAllows
      cases right with
      | infinity other =>
          cases rightAllows
          rfl
      | finite other =>
          cases rightAllows
          rfl
      | _ => trivial
  | finite sign =>
      cases leftAllows
      cases right with
      | infinity other =>
          cases rightAllows
          rfl
      | finite other =>
          cases rightAllows
          unfold UnpackedFloat.mul roundWithAccuracy
          dsimp only
          split <;> trivial
      | _ => trivial

theorem nearestBits?_lt {numerator denominator bits : Nat}
    (found : Binary64.nearestBits? numerator denominator = some bits) :
    bits < Binary64.reservedField * twoTo 52 := by
  unfold Binary64.nearestBits? at found
  split at found
  · cases found
    decide
  · obtain ⟨fits, same⟩ := Option.ite_none_right_eq_some.mp found
    rw [← Option.some_inj.mp same]
    exact fits

/-- The sign bit of a finite double that has been put together from smaller bits is not set. -/
theorem positive_unpackSign {bits : Nat} (finite : bits < Binary64.reservedField * twoTo 52) :
    Sign.ofBitVec (@unpackSign Format.binary64
      (Float.ofBits (UInt64.ofNat bits)).toBits.toBitVec) = .positive := by
  have notNegative := isNegative_unpackSign (Float.ofBits (UInt64.ofNat bits)).toBits.toBitVec
  have same : (Float.ofBits (UInt64.ofNat bits)).toBits.toBitVec.toNat = bits := toBits_ofBits finite
  have small : ¬ twoTo 63 ≤ bits := not_le.mpr (finite.trans (by decide))
  rw [same, decide_eq_false small] at notNegative
  generalize Sign.ofBitVec (@unpackSign Format.binary64
    (Float.ofBits (UInt64.ofNat bits)).toBits.toBitVec) = sign at notNegative
  cases sign with
  | positive => rfl
  | negative => cases notNegative

instance : SignedArithmetic Float where
  ofRat? exact nearest notBelow found := by
    obtain ⟨bits, isBits, isNearest⟩ := Option.map_eq_some_iff.mp found
    rw [if_neg (Rat.num_nonneg.mpr notBelow).not_gt] at isNearest
    rw [← isNearest, ← signAllows_iff]
    apply signAllows_unpack
    exact positive_unpackSign (nearestBits?_lt isBits)
  mul left right leftNotBelow rightNotBelow := by
    rw [← signAllows_iff] at leftNotBelow rightNotBelow ⊢
    exact signAllows_pack (signAllows_mul leftNotBelow rightNotBelow)

end Double

/-! ### Products of numbers of either kind -/

namespace Number

variable {F : Type} [Arithmetic F] [OrderedArithmetic F] {number product : Number F}

/-- A number is not below zero, unless it is undefined. -/
def NotBelow (number : Number F) : Prop :=
  ∀ place, number.place? = some place → .ofRat 0 ≤ place

theorem AtLeast.notBelow (atLeast : number.AtLeast 0) : number.NotBelow := by
  obtain ⟨place, isPlace, above⟩ := atLeast
  intro other isOther
  cases isPlace.symm.trans isOther
  exact above

theorem notBelow_toReal [SignedArithmetic F] {value : F} {whole : Nat}
    (found : (Number.int whole : Number F).toReal = .ok value) : MapStyle.NotBelow value := by
  unfold toReal at found
  simp only [view_int] at found
  split at found
  · rename_i nearest isNearest
    cases found
    exact SignedArithmetic.ofRat? _ _ (by positivity) isNearest
  · cases found

/-- The product with an integer that is not negative. -/
theorem NotBelow.mul [SignedArithmetic F] {ratio : Nat} (notBelow : number.NotBelow)
    (multiplied : number.mul (.int ratio) = .ok product) : product.NotBelow := by
  unfold Number.mul combine at multiplied
  cases viewed : number.view with
  | inl whole =>
      have notNegative : 0 ≤ whole := by
        have above := notBelow (.ofRat whole) (by simp only [place?, viewed])
        exact_mod_cast Place.ofRat_le_ofRat.mp above
      simp only [viewed, view_int] at multiplied
      cases multiplied
      apply AtLeast.notBelow
      refine ⟨_, rfl, Place.ofRat_le_ofRat.mpr ?_⟩
      exact_mod_cast mul_nonneg notNegative (Int.natCast_nonneg ratio)
  | inr value =>
      simp only [viewed, view_int] at multiplied
      obtain ⟨left, isLeft, further⟩ := bind_eq_ok.mp multiplied
      obtain ⟨right, isRight, ended⟩ := bind_eq_ok.mp further
      cases ended
      cases (toReal_of_view viewed).symm.trans isLeft
      have leftNotBelow : MapStyle.NotBelow value := by
        intro place isPlace
        exact notBelow place (by simpa only [place?, viewed] using isPlace)
      exact SignedArithmetic.mul _ _ leftNotBelow (notBelow_toReal isRight)

theorem NotBelow.ceil_notNegative {ceiling : Int} (notBelow : number.NotBelow)
    (found : number.ceil = .ok ceiling) : 0 ≤ ceiling := by
  have atLeast : number.AtLeast 0 := by
    have isCeiling := found
    unfold ceil at isCeiling
    split at isCeiling
    · rename_i whole viewed
      have isPlace : number.place? = some (.ofRat whole) := by simp only [place?, viewed]
      exact ⟨_, isPlace, notBelow _ isPlace⟩
    · rename_i value viewed
      split at isCeiling
      · rename_i exact isExact
        have isPlace : number.place? = some (.ofRat exact) := by
          simp only [place?, viewed]
          exact (OrderedArithmetic.rational?_eq_some_iff value exact).mp isExact
        exact ⟨_, isPlace, notBelow _ isPlace⟩
      · split at isCeiling <;> cases isCeiling
  exact_mod_cast atLeast.le_ceil found

end Number

end MapStyle
