import Mathlib
import MapStyle.Proofs.Number.Double

/-!
# The double nearest to a quotient

A positive quotient lies between two powers of two, and in units of the last place of a double it
has 53 bits before the point. Rounding drops the bits behind the point and may add one, so of a
quotient that is not tiny the nearest double leaves most.
-/

namespace MapStyle

set_option autoImplicit false

open MapStyle.Decimal (Binary64 roundHalfEven twoTo)

/-! ### Dropping bits -/

/-- The part of a number with 53 bits that is left at least when the bits behind are dropped. -/
def kept : Rat := 1 - 1 / 2 ^ 52

theorem kept_pos : 0 < kept := by norm_num [kept]

theorem kept_le_one : kept ≤ 1 := by norm_num [kept]

/-- The least double with 53 bits. -/
def leastNormal : Rat := 2 ^ (-1022 : Int)

/-- What is dropped is less than one, and the quotient has 53 bits. -/
theorem kept_le_floor {numerator denominator : Nat} (positive : 0 < denominator)
    (full : 2 ^ 52 * denominator ≤ numerator) :
    (numerator : Rat) / denominator * kept ≤ (numerator / denominator : Nat) := by
  have long : (2 : Rat) ^ 52 ≤ numerator / denominator := by
    rw [le_div_iff₀ (by exact_mod_cast positive)]
    exact_mod_cast full
  have dropped : (numerator : Rat) / denominator < (numerator / denominator : Nat) + 1 := by
    rw [div_lt_iff₀ (by exact_mod_cast positive)]
    exact_mod_cast Nat.lt_mul_of_div_lt (Nat.lt_succ_self _) positive
  unfold kept
  linarith

/-! ### The double nearest to a quotient -/

section Nearest

variable (numerator denominator : Nat)

theorem div_le_roundHalfEven : numerator / denominator ≤ roundHalfEven numerator denominator := by
  unfold roundHalfEven
  dsimp only
  split_ifs <;> omega

theorem roundHalfEven_le :
    roundHalfEven numerator denominator ≤ numerator / denominator + 1 := by
  unfold roundHalfEven
  dsimp only
  split_ifs <;> omega

variable {denominator}

/-- Whether a power of two is reached is decided in natural numbers. -/
theorem twoPow_le_div_iff (positive : 0 < denominator) (power : Int) :
    (2 : Rat) ^ power ≤ numerator / denominator ↔
      if 0 ≤ power then denominator * twoTo power.toNat ≤ numerator
      else denominator ≤ numerator * twoTo (-power).toNat := by
  have positiveRat : (0 : Rat) < denominator := by exact_mod_cast positive
  rw [le_div_iff₀ positiveRat]
  split_ifs with isNat
  · obtain ⟨count, rfl⟩ := Int.eq_ofNat_of_zero_le isNat
    rw [mul_comm]
    show (denominator : Rat) * 2 ^ (count : Int) ≤ numerator ↔ denominator * 2 ^ count ≤ numerator
    rw [zpow_natCast]
    exact_mod_cast Iff.rfl
  · obtain ⟨count, isCount⟩ := Int.eq_ofNat_of_zero_le (show 0 ≤ -power by omega)
    obtain rfl : power = -(count : Int) := by omega
    have unit : (0 : Rat) < 2 ^ count := by positivity
    rw [zpow_neg, zpow_natCast, neg_neg, inv_mul_le_iff₀ unit, mul_comm]
    show (denominator : Rat) ≤ numerator * 2 ^ count ↔ denominator ≤ numerator * 2 ^ count
    exact_mod_cast Iff.rfl

theorem twoPow_log2_le {value : Nat} (positive : 0 < value) :
    (2 : Rat) ^ (value.log2 : Int) ≤ value := by
  rw [zpow_natCast]
  exact_mod_cast Nat.log2_self_le positive.ne'

theorem lt_twoPow_log2 (value : Nat) : (value : Rat) < 2 ^ ((value.log2 : Int) + 1) := by
  have below : value < 2 ^ (value.log2 + 1) := Nat.lt_log2_self
  rw [zpow_add_one₀ (by norm_num), zpow_natCast, ← pow_succ]
  exact_mod_cast below

variable {numerator} in
theorem twoPow_le_div (positive : 0 < numerator) (otherPositive : 0 < denominator) :
    (2 : Rat) ^ ((numerator.log2 : Int) - denominator.log2 - 1) ≤ numerator / denominator := by
  calc (2 : Rat) ^ ((numerator.log2 : Int) - denominator.log2 - 1)
      = 2 ^ (numerator.log2 : Int) / 2 ^ ((denominator.log2 : Int) + 1) := by
        rw [← zpow_sub₀ (by norm_num)]
        congr 1
        ring
    _ ≤ numerator / denominator := by
        gcongr
        · exact twoPow_log2_le positive
        · exact (lt_twoPow_log2 denominator).le

theorem div_lt_twoPow (otherPositive : 0 < denominator) :
    (numerator : Rat) / denominator < 2 ^ ((numerator.log2 : Int) - denominator.log2 + 1) := by
  calc (numerator : Rat) / denominator
      < 2 ^ ((numerator.log2 : Int) + 1) / 2 ^ (denominator.log2 : Int) := by
        gcongr
        · exact lt_twoPow_log2 numerator
        · exact twoPow_log2_le otherPositive
    _ = 2 ^ ((numerator.log2 : Int) - denominator.log2 + 1) := by
        rw [← zpow_sub₀ (by norm_num)]
        congr 1
        ring

variable {numerator}

/-- A quotient lies between two powers of two. -/
theorem floorLog2_spec (positive : 0 < numerator) (otherPositive : 0 < denominator) :
    (2 : Rat) ^ Binary64.floorLog2 numerator denominator ≤ numerator / denominator ∧
      (numerator : Rat) / denominator < 2 ^ (Binary64.floorLog2 numerator denominator + 1) := by
  have above := twoPow_le_div positive otherPositive
  have below := div_lt_twoPow numerator otherPositive
  have reached := twoPow_le_div_iff numerator otherPositive
    ((numerator.log2 : Int) - denominator.log2)
  unfold Binary64.floorLog2
  dsimp only
  generalize (numerator.log2 : Int) - denominator.log2 = guess at above below reached ⊢
  have decided : (if 0 ≤ guess then decide (denominator * twoTo guess.toNat ≤ numerator)
      else decide (denominator ≤ numerator * twoTo (-guess).toNat)) =
        decide ((2 : Rat) ^ guess ≤ numerator / denominator) := by
    split_ifs at reached ⊢ <;> exact (decide_eq_decide.mpr reached).symm
  rw [decided]
  by_cases exact : (2 : Rat) ^ guess ≤ numerator / denominator
  · rw [decide_eq_true exact]
    exact ⟨exact, below⟩
  · rw [decide_eq_false exact]
    refine ⟨above, ?_⟩
    simpa using exact

/-- A significand of 53 bits or the next power of two, added to the field of its exponent. -/
theorem ofBits?_add {field significand : Nat} (full : 2 ^ 52 ≤ significand)
    (notAbove : significand ≤ 2 ^ 53)
    (stored : field * twoTo 52 + significand < Binary64.reservedField * twoTo 52) :
    ∃ value, Binary64.ofBits? (field * twoTo 52 + significand) = some value ∧
      value.toRat = significand * 2 ^ (field + Binary64.leastExponent) := by
  have unit : twoTo 52 = 2 ^ 52 := rfl
  have fields : twoTo 11 = 2 ^ 11 := rfl
  have signUnit : twoTo 63 = 2 ^ 63 := rfl
  unfold Binary64.reservedField at stored
  simp only [Binary64.ofBits?, unit, fields, signUnit, Binary64.reservedField] at stored ⊢
  have positive : ¬2 ^ 63 ≤ field * 2 ^ 52 + significand := by omega
  obtain fits | carried := Nat.lt_or_eq_of_le notAbove
  · have own : (field * 2 ^ 52 + significand) / 2 ^ 52 % 2 ^ 11 = field + 1 := by omega
    have fraction : (field * 2 ^ 52 + significand) % 2 ^ 52 = significand - 2 ^ 52 := by omega
    rw [own, fraction, if_neg (by omega), if_neg (by omega)]
    refine ⟨_, rfl, ?_⟩
    have whole : 2 ^ 52 + (significand - 2 ^ 52) = significand := by omega
    rw [Double.toRat_eq, whole, decide_eq_false positive]
    have exponent : ((field + 1 : Nat) : Int) - 1075 = field + Binary64.leastExponent := by
      unfold Binary64.leastExponent
      omega
    rw [exponent]
    simp
  · subst carried
    have next : (field * 2 ^ 52 + 2 ^ 53) / 2 ^ 52 % 2 ^ 11 = field + 2 := by omega
    have fraction : (field * 2 ^ 52 + 2 ^ 53) % 2 ^ 52 = 0 := by omega
    rw [next, fraction, if_neg (by omega), if_neg (by omega)]
    refine ⟨_, rfl, ?_⟩
    rw [Double.toRat_eq, decide_eq_false positive]
    have exponent : ((field + 2 : Nat) : Int) - 1075 = field + Binary64.leastExponent + 1 := by
      unfold Binary64.leastExponent
      omega
    rw [exponent, zpow_add_one₀ (by norm_num)]
    simp
    ring

/-- The quotient that is rounded to a significand, in units of the last place. -/
theorem exists_scaled (numerator : Nat) (positive : 0 < denominator) (exponent : Int) :
    ∃ dividend divisor : Nat, 0 < divisor ∧
      (dividend : Rat) / divisor = numerator / denominator / 2 ^ exponent ∧
      (if 0 ≤ exponent then roundHalfEven numerator (denominator * twoTo exponent.toNat)
        else roundHalfEven (numerator * twoTo (-exponent).toNat) denominator) =
          roundHalfEven dividend divisor := by
  split_ifs with isNat
  · obtain ⟨count, rfl⟩ := Int.eq_ofNat_of_zero_le isNat
    refine ⟨_, _, Nat.mul_pos positive (Decimal.twoTo_pos _), ?_, rfl⟩
    have power : ((twoTo count : Nat) : Rat) = 2 ^ count := by simp [twoTo]
    rw [Int.toNat_natCast, Nat.cast_mul, power, zpow_natCast, div_div]
  · obtain ⟨count, isCount⟩ := Int.eq_ofNat_of_zero_le (show 0 ≤ -exponent by omega)
    obtain rfl : exponent = -(count : Int) := by omega
    refine ⟨_, _, positive, ?_, rfl⟩
    have power : ((twoTo count : Nat) : Rat) = 2 ^ count := by simp [twoTo]
    rw [neg_neg, Int.toNat_natCast, Nat.cast_mul, power, zpow_neg, zpow_natCast, div_inv_eq_mul,
      div_mul_eq_mul_div]

/-- A quotient of 53 bits is rounded to 53 bits or to the next power of two. -/
theorem roundHalfEven_full {dividend divisor : Nat} (positive : 0 < divisor)
    (above : (2 : Rat) ^ 52 ≤ dividend / divisor) (below : (dividend : Rat) / divisor < 2 ^ 53) :
    2 ^ 52 ≤ roundHalfEven dividend divisor ∧ roundHalfEven dividend divisor ≤ 2 ^ 53 ∧
      (dividend : Rat) / divisor * kept ≤ roundHalfEven dividend divisor := by
  have positiveRat : (0 : Rat) < divisor := by exact_mod_cast positive
  have full : 2 ^ 52 * divisor ≤ dividend := by
    rw [le_div_iff₀ positiveRat] at above
    exact_mod_cast above
  have fits : dividend < 2 ^ 53 * divisor := by
    rw [div_lt_iff₀ positiveRat] at below
    exact_mod_cast below
  have floorAbove : 2 ^ 52 ≤ dividend / divisor := (Nat.le_div_iff_mul_le positive).mpr full
  have floorBelow : dividend / divisor < 2 ^ 53 := (Nat.div_lt_iff_lt_mul positive).mpr fits
  have notBelow := div_le_roundHalfEven dividend divisor
  have notAbove := roundHalfEven_le dividend divisor
  refine ⟨floorAbove.trans notBelow, by omega, ?_⟩
  exact (kept_le_floor positive full).trans (by exact_mod_cast notBelow)

/-- Of a quotient that is not tiny the nearest double leaves most. -/
theorem kept_le_nearest {bits : Nat} (positive : 0 < numerator) (otherPositive : 0 < denominator)
    (normal : leastNormal ≤ numerator / denominator)
    (found : Binary64.nearestBits? numerator denominator = some bits) :
    ∃ value, Binary64.ofBits? bits = some value ∧ bits < Binary64.reservedField * twoTo 52 ∧
      (numerator : Rat) / denominator * kept ≤ value.toRat := by
  obtain ⟨above, below⟩ := floorLog2_spec positive otherPositive
  have notTiny : -1022 < Binary64.floorLog2 numerator denominator + 1 :=
    (zpow_lt_zpow_iff_right₀ one_lt_two).mp (normal.trans_lt below)
  have notLeast : max Binary64.leastExponent (Binary64.floorLog2 numerator denominator - 52) =
      Binary64.floorLog2 numerator denominator - 52 := by
    unfold Binary64.leastExponent
    omega
  obtain ⟨dividend, divisor, divisorPositive, isScaled, isRound⟩ :=
    exists_scaled numerator otherPositive (Binary64.floorLog2 numerator denominator - 52)
  unfold Binary64.nearestBits? at found
  simp only [notLeast, isRound, if_neg positive.ne'] at found
  generalize isUnit : Binary64.floorLog2 numerator denominator - 52 = exponent at isScaled found
  have isLog : Binary64.floorLog2 numerator denominator = 52 + exponent := by omega
  have unit : (0 : Rat) < 2 ^ exponent := by positivity
  rw [isLog, zpow_add₀ (by norm_num), ← le_div_iff₀ unit, ← isScaled] at above
  rw [isLog, add_right_comm, zpow_add₀ (by norm_num), ← div_lt_iff₀ unit, ← isScaled] at below
  obtain ⟨full, notAbove, left⟩ := roundHalfEven_full divisorPositive above below
  split at found
  · rename_i stored
    cases found
    obtain ⟨value, isValue, exact⟩ := ofBits?_add full notAbove stored
    refine ⟨value, isValue, stored, ?_⟩
    have field : ((exponent - Binary64.leastExponent).toNat : Int) + Binary64.leastExponent =
        exponent := by
      unfold Binary64.leastExponent
      omega
    rw [exact, field]
    calc (numerator : Rat) / denominator * kept
        = dividend / divisor * kept * 2 ^ exponent := by
          rw [isScaled]
          field_simp
      _ ≤ roundHalfEven dividend divisor * 2 ^ exponent := by gcongr
  · cases found

end Nearest

end MapStyle
