import MapStyle.Proofs.Number.Nearest

/-!
# Rationals that are read as a double

The rationals around a finite double of which it is the nearest one reach half a unit of its last
place up and down, and below a power of two a quarter. Each of them is rounded to the bits of this
double.
-/

namespace MapStyle.Double

set_option autoImplicit false

open MapStyle.Decimal (Binary64 roundHalfEven twoTo)

/-- A quotient within half of one of an integer is rounded to it; at the ends the integer has to be
even. -/
theorem roundHalfEven_eq {numerator denominator nearest : Nat} (positive : 0 < denominator)
    (above : 2 * nearest * denominator ≤ 2 * numerator + denominator)
    (below : 2 * numerator ≤ (2 * nearest + 1) * denominator)
    (even : nearest % 2 = 1 → 2 * nearest * denominator < 2 * numerator + denominator ∧
      2 * numerator < (2 * nearest + 1) * denominator) :
    roundHalfEven numerator denominator = nearest := by
  have split := Nat.div_add_mod numerator denominator
  have rest := Nat.mod_lt numerator positive
  unfold roundHalfEven
  dsimp only
  generalize numerator / denominator = quotient at split ⊢
  generalize numerator % denominator = remainder at split rest ⊢
  subst split
  have notBelow : quotient ≤ nearest := by
    by_contra less
    have next : nearest + 1 ≤ quotient := by omega
    have scaled := Nat.mul_le_mul_left denominator next
    nlinarith
  have notAbove : nearest ≤ quotient + 1 := by
    by_contra more
    have next : quotient + 2 ≤ nearest := by omega
    have scaled := Nat.mul_le_mul_left denominator next
    nlinarith
  obtain rfl | rfl : quotient = nearest ∨ nearest = quotient + 1 := by omega
  · have low : 2 * remainder ≤ denominator := by linarith
    have odd (isOdd : quotient % 2 = 1) : 2 * remainder < denominator := by linarith [even isOdd]
    split_ifs <;> omega
  · have high : denominator ≤ 2 * remainder := by linarith
    have odd (isOdd : (quotient + 1) % 2 = 1) : denominator < 2 * remainder := by
      linarith [even isOdd]
    split_ifs <;> omega

/-- A rational around the double with a significand and an exponent of which this double is the
nearest one. -/
structure RoundsTo (significand : Nat) (exponent : Int) (exact : Rat) : Prop where
  above : (significand - 1 / 2) * 2 ^ exponent ≤ exact
  below : exact ≤ (significand + 1 / 2) * 2 ^ exponent
  even : significand % 2 = 1 →
    (significand - 1 / 2) * 2 ^ exponent < exact ∧ exact < (significand + 1 / 2) * 2 ^ exponent
  power : significand = 2 ^ 52 → exponent ≠ Binary64.leastExponent →
    (significand - 1 / 4) * 2 ^ exponent ≤ exact

/-- The largest exponent of a double. -/
def largestExponent : Int := 971

/-- The bits of a double that is not negative. -/
def packed (significand : Nat) (exponent : Int) : Nat :=
  (exponent - Binary64.leastExponent).toNat * twoTo 52 + significand

section Quotient

variable {significand numerator denominator : Nat} {exponent : Int}

/-- Half a unit of the last place is rounded away. -/
theorem roundHalfEven_of_between {dividend divisor : Nat} (positive : 0 < divisor)
    (above : (significand : Rat) - 1 / 2 ≤ dividend / divisor)
    (below : (dividend : Rat) / divisor ≤ significand + 1 / 2)
    (even : significand % 2 = 1 → (significand : Rat) - 1 / 2 < dividend / divisor ∧
      (dividend : Rat) / divisor < significand + 1 / 2) :
    roundHalfEven dividend divisor = significand := by
  have positiveRat : (0 : Rat) < divisor := by exact_mod_cast positive
  rw [le_div_iff₀ positiveRat] at above
  rw [div_le_iff₀ positiveRat] at below
  rw [lt_div_iff₀ positiveRat, div_lt_iff₀ positiveRat] at even
  refine roundHalfEven_eq positive ?_ ?_ fun isOdd => ⟨?_, ?_⟩
  · have cast : (2 * significand * divisor : Rat) ≤ 2 * dividend + divisor := by linarith
    exact_mod_cast cast
  · have cast : (2 * dividend : Rat) ≤ (2 * significand + 1) * divisor := by linarith
    exact_mod_cast cast
  · have cast : (2 * significand * divisor : Rat) < 2 * dividend + divisor := by
      linarith [(even isOdd).1]
    exact_mod_cast cast
  · have cast : (2 * dividend : Rat) < (2 * significand + 1) * divisor := by
      linarith [(even isOdd).2]
    exact_mod_cast cast

theorem packed_lt (canonical : Canonical significand exponent) (finite : exponent ≤ largestExponent) :
    packed significand exponent < Binary64.reservedField * twoTo 52 := by
  have fits := canonical.fits
  have notBelow := canonical.notBelow
  have unit : twoTo 52 = 2 ^ 52 := rfl
  unfold packed Binary64.reservedField
  unfold largestExponent at finite
  unfold Binary64.leastExponent at notBelow ⊢
  rw [unit]
  omega

/-- The bits of the nearest double by its last place and what the quotient is rounded to there. -/
theorem nearestBits?_eq {rounded : Nat} (numeratorPositive : 0 < numerator)
    (positive : 0 < denominator)
    (isUnit : max Binary64.leastExponent (Binary64.floorLog2 numerator denominator - 52) = exponent)
    (isRounded : ∀ dividend divisor : Nat, 0 < divisor →
      (dividend : Rat) / divisor = numerator / denominator / 2 ^ exponent →
      roundHalfEven dividend divisor = rounded)
    (stored : packed rounded exponent < Binary64.reservedField * twoTo 52) :
    Binary64.nearestBits? numerator denominator = some (packed rounded exponent) := by
  obtain ⟨dividend, divisor, divisorPositive, isScaled, isRound⟩ :=
    exists_scaled numerator positive exponent
  unfold Binary64.nearestBits?
  rw [if_neg numeratorPositive.ne', isUnit]
  dsimp only
  rw [isRound, isRounded dividend divisor divisorPositive isScaled]
  exact if_pos stored

/-- The last place of a quotient that is not below the first double with an exponent, and below the
first one with the next exponent. -/
theorem unit_of_bounds (numeratorPositive : 0 < numerator) (positive : 0 < denominator)
    (above : (2 : Rat) ^ (52 + exponent) ≤ numerator / denominator)
    (below : (numerator : Rat) / denominator < 2 ^ (53 + exponent)) :
    Binary64.floorLog2 numerator denominator - 52 = exponent := by
  obtain ⟨logAbove, logBelow⟩ := floorLog2_spec numeratorPositive positive
  have notBelow := (zpow_lt_zpow_iff_right₀ (one_lt_two (α := Rat))).mp (above.trans_lt logBelow)
  have notAbove := (zpow_lt_zpow_iff_right₀ (one_lt_two (α := Rat))).mp (logAbove.trans_lt below)
  omega

theorem RoundsTo.pos {exact : Rat} (rounds : RoundsTo significand exponent exact)
    (significandPositive : 0 < significand) : 0 < exact := by
  have least : (1 : Rat) ≤ significand := by exact_mod_cast significandPositive
  have unit : (0 : Rat) < 2 ^ exponent := by positivity
  exact (mul_pos (by linarith) unit).trans_le rounds.above

theorem RoundsTo.lt {exact : Rat} (rounds : RoundsTo significand exponent exact)
    (canonical : Canonical significand exponent) : exact < 2 ^ (53 + exponent) := by
  have fits : (significand : Rat) + 1 ≤ 2 ^ 53 := by exact_mod_cast canonical.fits
  calc exact ≤ (significand + 1 / 2) * 2 ^ exponent := rounds.below
    _ < 2 ^ 53 * 2 ^ exponent := by
        gcongr
        linarith
    _ = 2 ^ (53 + exponent) := (zpow_add₀ (by norm_num) 53 exponent).symm

/-- Only around a power of two there are rationals with a smaller last place. -/
theorem RoundsTo.eq_power {exact : Rat} (rounds : RoundsTo significand exponent exact)
    (canonical : Canonical significand exponent) (notLeast : exponent ≠ Binary64.leastExponent)
    (smaller : exact < 2 ^ (52 + exponent)) : significand = 2 ^ 52 := by
  by_contra other
  have full := canonical.full.resolve_right notLeast
  have more : (2 : Rat) ^ 52 + 1 ≤ significand := by
    exact_mod_cast Nat.succ_le_of_lt (lt_of_le_of_ne full (Ne.symm other))
  refine smaller.not_ge ?_
  calc (2 : Rat) ^ (52 + exponent) = 2 ^ 52 * 2 ^ exponent := zpow_add₀ (by norm_num) 52 exponent
    _ ≤ (significand - 1 / 2) * 2 ^ exponent := by
        gcongr
        linarith
    _ ≤ exact := rounds.above

/-- The last place of the rational is that of the double. -/
theorem RoundsTo.nearestBits?_of_within
    (rounds : RoundsTo significand exponent ((numerator : Rat) / denominator))
    (canonical : Canonical significand exponent) (finite : exponent ≤ largestExponent)
    (numeratorPositive : 0 < numerator) (positive : 0 < denominator)
    (within : (2 : Rat) ^ (52 + exponent) ≤ numerator / denominator ∨
      exponent = Binary64.leastExponent) :
    Binary64.nearestBits? numerator denominator = some (packed significand exponent) := by
  have unit : (0 : Rat) < 2 ^ exponent := by positivity
  have below := rounds.lt canonical
  have notBelow := canonical.notBelow
  apply nearestBits?_eq numeratorPositive positive _ _ (packed_lt canonical finite)
  · rcases within with above | isLeast
    · have isUnit := unit_of_bounds numeratorPositive positive above below
      omega
    · have logBelow := (floorLog2_spec numeratorPositive positive).1.trans_lt below
      have notAbove := (zpow_lt_zpow_iff_right₀ (one_lt_two (α := Rat))).mp logBelow
      omega
  · intro dividend divisor divisorPositive isScaled
    apply roundHalfEven_of_between divisorPositive
    · rw [isScaled, le_div_iff₀ unit]
      exact rounds.above
    · rw [isScaled, div_le_iff₀ unit]
      exact rounds.below
    · rw [isScaled, lt_div_iff₀ unit, div_lt_iff₀ unit]
      exact rounds.even

/-- A significand that has been rounded up to the next power of two is stored with the next
exponent. -/
theorem packed_carried (notBelow : Binary64.leastExponent ≤ exponent) :
    packed (2 ^ 53) exponent = packed (2 ^ 52) (exponent + 1) := by
  have unit : twoTo 52 = 2 ^ 52 := rfl
  unfold packed
  unfold Binary64.leastExponent at notBelow ⊢
  rw [unit]
  omega

/-- The rational lies below a power of two, and its last place is half as large. -/
theorem nearestBits?_below_power (notLeast : Binary64.leastExponent < exponent)
    (stored : packed (2 ^ 52) exponent < Binary64.reservedField * twoTo 52)
    (numeratorPositive : 0 < numerator) (positive : 0 < denominator)
    (above : ((2 : Rat) ^ 52 - 1 / 4) * 2 ^ exponent ≤ numerator / denominator)
    (below : (numerator : Rat) / denominator < 2 ^ (52 + exponent)) :
    Binary64.nearestBits? numerator denominator = some (packed (2 ^ 52) exponent) := by
  have half : (2 : Rat) ^ exponent = 2 * 2 ^ (exponent - 1) := by
    rw [← zpow_one_add₀ (by norm_num)]
    congr 1
    omega
  have halfUnit : (0 : Rat) < 2 ^ (exponent - 1) := by positivity
  rw [zpow_add₀ (by norm_num), half] at below
  rw [half] at above
  have isUnit : Binary64.floorLog2 numerator denominator - 52 = exponent - 1 := by
    apply unit_of_bounds numeratorPositive positive
    · rw [zpow_add₀ (by norm_num)]
      refine le_trans ?_ above
      rw [← mul_assoc]
      gcongr
      norm_num
    · rw [zpow_add₀ (by norm_num)]
      refine below.trans_le ?_
      rw [← mul_assoc]
      gcongr
      norm_num
  have carried : packed (2 ^ 53) (exponent - 1) = packed (2 ^ 52) (exponent - 1 + 1) :=
    packed_carried (by omega)
  rw [sub_add_cancel] at carried
  rw [← carried] at stored ⊢
  apply nearestBits?_eq numeratorPositive positive _ _ stored
  · omega
  · intro dividend divisor divisorPositive isScaled
    apply roundHalfEven_of_between divisorPositive
    · rw [isScaled, le_div_iff₀ halfUnit]
      push_cast
      linarith
    · rw [isScaled, div_le_iff₀ halfUnit]
      push_cast
      linarith
    · intro isOdd
      exact absurd isOdd (by decide)

/-- A rational around a double is rounded to the bits of the double. -/
theorem nearestBits?_of_roundsTo (canonical : Canonical significand exponent)
    (finite : exponent ≤ largestExponent) (significandPositive : 0 < significand)
    (positive : 0 < denominator)
    (rounds : RoundsTo significand exponent ((numerator : Rat) / denominator)) :
    Binary64.nearestBits? numerator denominator = some (packed significand exponent) := by
  have quotientPositive := rounds.pos significandPositive
  have numeratorPositive : 0 < numerator := by
    rcases Nat.eq_zero_or_pos numerator with rfl | positive
    · simp at quotientPositive
    · exact positive
  by_cases within : (2 : Rat) ^ (52 + exponent) ≤ numerator / denominator ∨
      exponent = Binary64.leastExponent
  · exact rounds.nearestBits?_of_within canonical finite numeratorPositive positive within
  · obtain ⟨smaller, notLeast⟩ := not_or.mp within
    rw [not_le] at smaller
    obtain rfl := rounds.eq_power canonical notLeast smaller
    have above := rounds.power rfl notLeast
    push_cast at above
    exact nearestBits?_below_power (lt_of_le_of_ne canonical.notBelow (Ne.symm notLeast))
      (packed_lt canonical finite) numeratorPositive positive above smaller

end Quotient

end MapStyle.Double
