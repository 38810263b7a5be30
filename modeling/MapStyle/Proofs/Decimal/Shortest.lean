import MapStyle.Decimal.Shortest
import MapStyle.Proofs.Decimal.Nearest

/-!
# The shortest decimal of a double reads back

Whatever decimal is found on one of the grids lies among the rationals of which the double is the
nearest one. On the grid with seventeen digits one of the two neighbours always does: the step of
that grid is less than the distance between two doubles. So the shortest decimal is found, and it is
rounded to the double.
-/

namespace MapStyle.Decimal

set_option autoImplicit false

open MapStyle.Double (Canonical RoundsTo)

/-! ### Numbers of digits -/

theorem lt_ten_pow_digitCount (value : Nat) : value < 10 ^ digitCount value :=
  (Nat.length_toDigits_le_iff (by decide) Nat.length_toDigits_pos).mp (le_refl _)

theorem ten_pow_digitCount_le {value : Nat} (positive : 0 < value) :
    10 ^ (digitCount value - 1) ≤ value := by
  rcases Nat.eq_zero_or_pos (digitCount value - 1) with one | more
  · rw [one]
    exact positive
  · by_contra below
    have shorter := (Nat.length_toDigits_le_iff (by decide) more).mpr (not_le.mp below)
    have counted : digitCount value ≤ digitCount value - 1 := shorter
    omega

/-- The power of ten of the leading digit is not above a quotient. -/
theorem ten_pow_leadingExponent_le {numerator denominator : Nat} (numeratorPositive : 0 < numerator)
    (positive : 0 < denominator) :
    (10 : Rat) ^ leadingExponent numerator denominator ≤ numerator / denominator := by
  have numeratorRat : (0 : Rat) < numerator := by exact_mod_cast numeratorPositive
  have positiveRat : (0 : Rat) < denominator := by exact_mod_cast positive
  unfold leadingExponent
  split
  · rename_i notBelow
    rw [zpow_natCast, le_div_iff₀ positiveRat]
    have wholePositive : 0 < numerator / denominator := Nat.div_pos notBelow positive
    have reached := Nat.mul_le_mul_right denominator (ten_pow_digitCount_le wholePositive)
    exact_mod_cast reached.trans (Nat.div_mul_le_self numerator denominator)
  · rename_i below
    dsimp only
    generalize isReciprocal : (denominator + numerator - 1) / numerator = reciprocal
    have reached := lt_ten_pow_digitCount (reciprocal - 1)
    generalize digitCount (reciprocal - 1) = count at reached ⊢
    have enough : denominator ≤ numerator * reciprocal := by
      have split := Nat.div_add_mod (denominator + numerator - 1) numerator
      have rest := Nat.mod_lt (denominator + numerator - 1) numeratorPositive
      rw [isReciprocal] at split
      omega
    have notAbove : denominator ≤ numerator * 10 ^ count :=
      enough.trans (Nat.mul_le_mul_left numerator (by omega))
    have negated : Int.negOfNat count = -(count : Int) := by cases count <;> rfl
    rw [negated, zpow_neg, zpow_natCast, le_div_iff₀ positiveRat, inv_mul_le_iff₀ (by positivity)]
    have cast : (denominator : Rat) ≤ numerator * 10 ^ count := by exact_mod_cast notAbove
    linarith

/-! ### Scaled amounts -/

/-- A power as a quotient of two powers of which one is one. -/
theorem zpow_eq_div {base : Rat} (positive : 0 < base) (exponent : Int) :
    base ^ exponent = base ^ exponent.toNat / base ^ (-exponent).toNat := by
  rw [← zpow_natCast, ← zpow_natCast, ← zpow_sub₀ positive.ne']
  congr 1
  omega

theorem scaled_div (amount : Nat) (binary decimal : Int) :
    0 < (scaled amount binary decimal).2 ∧
      ((scaled amount binary decimal).1 : Rat) / (scaled amount binary decimal).2 =
        amount * 2 ^ binary / 10 ^ decimal := by
  have two (power : Nat) : ((twoTo power : Nat) : Rat) = 2 ^ power := by simp [twoTo]
  have ten (power : Nat) : ((tenTo power : Nat) : Rat) = 10 ^ power := by simp [tenTo]
  constructor
  · exact Nat.mul_pos (twoTo_pos _) (tenTo_pos _)
  · simp only [scaled, Nat.cast_mul, two, ten]
    rw [zpow_eq_div (by norm_num) binary, zpow_eq_div (by norm_num) decimal]
    field_simp

/-! ### Neighbours on a grid -/

/-- A rational in quarters of the last place of a double, among those of which the double is the
nearest one. -/
def Interval.Holds (interval : Interval) (quarters : Rat) : Prop :=
  if interval.closed then interval.low ≤ quarters ∧ quarters ≤ interval.high
  else interval.low < quarters ∧ quarters < interval.high

variable {interval : Interval} {binary decimal : Int} {point : Nat}

theorem scaled_le_iff (amount : Nat) :
    (scaled amount binary decimal).1 ≤ point * (scaled amount binary decimal).2 ↔
      (amount : Rat) ≤ point * 10 ^ decimal / 2 ^ binary := by
  obtain ⟨positive, isScaled⟩ := scaled_div amount binary decimal
  have positiveRat : (0 : Rat) < (scaled amount binary decimal).2 := by exact_mod_cast positive
  have cast : (scaled amount binary decimal).1 ≤ point * (scaled amount binary decimal).2 ↔
      ((scaled amount binary decimal).1 : Rat) ≤ point * (scaled amount binary decimal).2 := by
    exact_mod_cast Iff.rfl
  rw [cast, ← div_le_iff₀ positiveRat, isScaled, div_le_iff₀ (by positivity),
    le_div_iff₀ (by positivity)]

theorem le_scaled_iff (amount : Nat) :
    point * (scaled amount binary decimal).2 ≤ (scaled amount binary decimal).1 ↔
      (point * 10 ^ decimal / 2 ^ binary : Rat) ≤ amount := by
  obtain ⟨positive, isScaled⟩ := scaled_div amount binary decimal
  have positiveRat : (0 : Rat) < (scaled amount binary decimal).2 := by exact_mod_cast positive
  have cast : point * (scaled amount binary decimal).2 ≤ (scaled amount binary decimal).1 ↔
      (point * (scaled amount binary decimal).2 : Rat) ≤ (scaled amount binary decimal).1 := by
    exact_mod_cast Iff.rfl
  rw [cast, ← le_div_iff₀ positiveRat, isScaled, le_div_iff₀ (by positivity),
    div_le_iff₀ (by positivity)]

/-- Whether a grid point reads back is decided in natural numbers. -/
theorem holds_iff :
    (if interval.closed then
      (scaled interval.low binary decimal).1 ≤ point * (scaled interval.centre binary decimal).2 ∧
        point * (scaled interval.centre binary decimal).2 ≤ (scaled interval.high binary decimal).1
    else
      (scaled interval.low binary decimal).1 < point * (scaled interval.centre binary decimal).2 ∧
        point * (scaled interval.centre binary decimal).2 <
          (scaled interval.high binary decimal).1) ↔
      interval.Holds (point * 10 ^ decimal / 2 ^ binary) := by
  have low : (scaled interval.centre binary decimal).2 = (scaled interval.low binary decimal).2 :=
    rfl
  have high : (scaled interval.centre binary decimal).2 = (scaled interval.high binary decimal).2 :=
    rfl
  unfold Interval.Holds
  split
  · rw [low, scaled_le_iff, ← low, high, le_scaled_iff]
  · rw [← not_le, ← not_le, low, le_scaled_iff, ← low, high, scaled_le_iff, not_le, not_le]

/-- The neighbour of a double on a grid that is not above it. -/
def neighbour (interval : Interval) (binary decimal : Int) : Nat :=
  (scaled interval.centre binary decimal).1 / (scaled interval.centre binary decimal).2

/-- A neighbour that is chosen reads back. -/
theorem holds_of_gridPoint? (found : gridPoint? interval binary decimal = some point) :
    interval.Holds (point * 10 ^ decimal / 2 ^ binary) := by
  unfold gridPoint? at found
  dsimp only at found
  split at found
  · rename_i belowHolds aboveHolds
    have isNeighbour : point = neighbour interval binary decimal ∨
        point = neighbour interval binary decimal + 1 := by
      unfold neighbour
      split_ifs at found <;> cases found
      · exact .inl rfl
      · exact .inr rfl
      · omega
    obtain rfl | rfl := isNeighbour
    · exact holds_iff.mp (of_decide_eq_true belowHolds)
    · exact holds_iff.mp (of_decide_eq_true aboveHolds)
  · rename_i belowHolds _
    cases found
    exact holds_iff.mp (of_decide_eq_true belowHolds)
  · rename_i _ aboveHolds
    cases found
    exact holds_iff.mp (of_decide_eq_true aboveHolds)
  · cases found

/-- If no neighbour is chosen, none of the two reads back. -/
theorem not_holds_of_gridPoint? (nothing : gridPoint? interval binary decimal = none) :
    (∀ point, point = neighbour interval binary decimal ∨
      point = neighbour interval binary decimal + 1 →
        ¬ interval.Holds (point * 10 ^ decimal / 2 ^ binary)) := by
  unfold gridPoint? at nothing
  dsimp only at nothing
  split at nothing
  · split_ifs at nothing
  · cases nothing
  · cases nothing
  · rename_i belowHolds aboveHolds
    rintro point (rfl | rfl) holds
    · exact of_decide_eq_false belowHolds (holds_iff.mpr holds)
    · exact of_decide_eq_false aboveHolds (holds_iff.mpr holds)

/-! ### The interval of a double -/

section OfDouble

variable {value : Binary64}

/-- Below a power of two doubles lie half as far apart. -/
def IsBoundary (value : Binary64) : Prop :=
  value.significand = 2 ^ 52 ∧ value.exponent ≠ Binary64.leastExponent

instance : Decidable (IsBoundary value) :=
  inferInstanceAs (Decidable (_ ∧ _))

/-- How far the interval of a double reaches down, in quarters of its last place. -/
def reach (value : Binary64) : Nat := if IsBoundary value then 1 else 2

theorem low_ofDouble (positive : 0 < value.significand) :
    ((Interval.ofDouble value).low : Rat) = 4 * value.significand - reach value := by
  have low : (Interval.ofDouble value).low = 4 * value.significand - reach value := rfl
  have small : reach value ≤ 4 * value.significand := by
    unfold reach
    split <;> omega
  rw [low, Nat.cast_sub small]
  push_cast
  rfl

theorem high_ofDouble : ((Interval.ofDouble value).high : Rat) = 4 * value.significand + 2 := by
  have high : (Interval.ofDouble value).high = 4 * value.significand + 2 := rfl
  rw [high]
  push_cast
  rfl

theorem reach_le_two : (reach value : Rat) ≤ 2 := by
  unfold reach
  split <;> norm_num

/-- The last place of a double in quarters. -/
theorem zpow_eq_quarters (exponent : Int) : (2 : Rat) ^ exponent = 4 * 2 ^ (exponent - 2) := by
  rw [zpow_sub₀ (by norm_num)]
  norm_num
  ring

/-- The ends of the interval of a double belong to it if the double is even. -/
theorem within_of_holds {quarters : Rat} (positive : 0 < value.significand)
    (holds : (Interval.ofDouble value).Holds quarters) :
    4 * value.significand - reach value ≤ quarters ∧ quarters ≤ 4 * value.significand + 2 ∧
      (value.significand % 2 = 1 → 4 * value.significand - reach value < quarters ∧
        quarters < 4 * value.significand + 2) := by
  have closed : (Interval.ofDouble value).closed = decide (value.significand % 2 = 0) := rfl
  unfold Interval.Holds at holds
  rw [low_ofDouble positive, high_ofDouble, closed] at holds
  split at holds
  · rename_i isEven
    have even := of_decide_eq_true isEven
    exact ⟨holds.1, holds.2, fun isOdd => by omega⟩
  · exact ⟨holds.1.le, holds.2.le, fun _ => holds⟩

/-- A rational inside the interval of a double is rounded to the double. -/
theorem roundsTo_of_holds {exact : Rat} (positive : 0 < value.significand)
    (holds : (Interval.ofDouble value).Holds (exact / 2 ^ (value.exponent - 2))) :
    RoundsTo value.significand value.exponent exact := by
  have quarter : (0 : Rat) < 2 ^ (value.exponent - 2) := by positivity
  have short : (reach value : Rat) ≤ 2 := reach_le_two
  have within := within_of_holds positive holds
  rw [le_div_iff₀ quarter, div_le_iff₀ quarter, lt_div_iff₀ quarter, div_lt_iff₀ quarter] at within
  obtain ⟨above, below, even⟩ := within
  constructor
  · rw [zpow_eq_quarters]
    nlinarith
  · rw [zpow_eq_quarters]
    linarith
  · intro isOdd
    obtain ⟨strictAbove, strictBelow⟩ := even isOdd
    rw [zpow_eq_quarters]
    constructor
    · nlinarith
    · linarith
  · intro isPower notLeast
    have one : reach value = 1 := if_pos ⟨isPower, notLeast⟩
    rw [one, Nat.cast_one] at above
    rw [zpow_eq_quarters]
    linarith

/-- What is nearer to a double than its interval reaches lies in the interval. -/
theorem holds_of_near {quarters : Rat} (positive : 0 < value.significand)
    (above : 4 * value.significand - reach value < quarters)
    (below : quarters < 4 * value.significand + 2) :
    (Interval.ofDouble value).Holds quarters := by
  unfold Interval.Holds
  rw [low_ofDouble positive, high_ofDouble]
  split
  · exact ⟨above.le, below.le⟩
  · exact ⟨above, below⟩

/-- Half a step of a grid with seventeen digits is less than what the interval reaches down. -/
theorem half_step_lt_reach {decimal : Int} (fits : value.significand < 2 ^ 53)
    (fine : (10 : Rat) ^ (decimal + 16) ≤ value.significand * 2 ^ value.exponent) :
    (10 : Rat) ^ decimal / 2 ^ (value.exponent - 2) / 2 < reach value := by
  have small : (10 : Rat) ^ decimal / 2 ^ (value.exponent - 2) / 2 ≤
      2 * value.significand / 10 ^ 16 := by
    rw [zpow_eq_quarters, zpow_add₀ (by norm_num)] at fine
    rw [div_le_iff₀ (by norm_num), div_le_iff₀ (by positivity)]
    norm_num at fine ⊢
    linarith
  refine small.trans_lt ?_
  unfold reach
  split
  · rename_i isBoundary
    rw [isBoundary.1]
    norm_num
  · have short : (value.significand : Rat) < 2 ^ 53 := by exact_mod_cast fits
    rw [div_lt_iff₀ (by norm_num)]
    push_cast
    linarith

/-- A double lies between its neighbour on a grid and the next point, measured in steps. -/
theorem neighbour_spec (value : Binary64) (decimal : Int) :
    (neighbour (Interval.ofDouble value) (value.exponent - 2) decimal : Rat) ≤
        4 * value.significand * 2 ^ (value.exponent - 2) / 10 ^ decimal ∧
      4 * value.significand * 2 ^ (value.exponent - 2) / 10 ^ decimal <
        (neighbour (Interval.ofDouble value) (value.exponent - 2) decimal : Rat) + 1 := by
  obtain ⟨positive, isScaled⟩ :=
    scaled_div (Interval.ofDouble value).centre (value.exponent - 2) decimal
  have centre : (Interval.ofDouble value).centre = 4 * value.significand := rfl
  have positiveRat :
      (0 : Rat) < (scaled (Interval.ofDouble value).centre (value.exponent - 2) decimal).2 := by
    exact_mod_cast positive
  have isCentre : ((Interval.ofDouble value).centre : Rat) = 4 * value.significand := by
    rw [centre]
    push_cast
    rfl
  rw [isCentre] at isScaled
  rw [← isScaled, le_div_iff₀ positiveRat, div_lt_iff₀ positiveRat]
  constructor
  · exact_mod_cast Nat.div_mul_le_self _ _
  · exact_mod_cast Nat.lt_mul_of_div_lt (Nat.lt_succ_self _) positive

/-- A grid on which a double has seventeen digits has a neighbour of the double inside its
interval. -/
theorem exists_neighbour {decimal : Int} (positive : 0 < value.significand)
    (fits : value.significand < 2 ^ 53)
    (fine : (10 : Rat) ^ (decimal + 16) ≤ value.significand * 2 ^ value.exponent) :
    ∃ point, (point = neighbour (Interval.ofDouble value) (value.exponent - 2) decimal ∨
      point = neighbour (Interval.ofDouble value) (value.exponent - 2) decimal + 1) ∧
      (Interval.ofDouble value).Holds (point * 10 ^ decimal / 2 ^ (value.exponent - 2)) := by
  obtain ⟨notAbove, notBelow⟩ := neighbour_spec value decimal
  generalize neighbour (Interval.ofDouble value) (value.exponent - 2) decimal = below
    at notAbove notBelow ⊢
  -- Everything is measured in steps of the grid.
  have isStep (point : Nat) : (point * 10 ^ decimal / 2 ^ (value.exponent - 2) : Rat) =
      point * (10 ^ decimal / 2 ^ (value.exponent - 2)) := mul_div_assoc _ _ _
  have stepPositive : (0 : Rat) < 10 ^ decimal / 2 ^ (value.exponent - 2) := by positivity
  have steps : (4 * value.significand : Rat) =
      4 * value.significand * 2 ^ (value.exponent - 2) / 10 ^ decimal *
        (10 ^ decimal / 2 ^ (value.exponent - 2)) := by field_simp
  have near := half_step_lt_reach fits fine
  have short : (reach value : Rat) ≤ 2 := reach_le_two
  generalize (10 : Rat) ^ decimal / 2 ^ (value.exponent - 2) = step
    at isStep stepPositive steps near
  generalize 4 * (value.significand : Rat) * 2 ^ (value.exponent - 2) / 10 ^ decimal = exact
    at notAbove notBelow steps
  rcases le_or_gt (exact - below) (1 / 2) with lower | upper
  · refine ⟨below, .inl rfl, holds_of_near positive ?_ ?_⟩
    · rw [isStep, steps]
      nlinarith
    · rw [isStep, steps]
      nlinarith
  · refine ⟨below + 1, .inr rfl, holds_of_near positive ?_ ?_⟩
    · rw [isStep, steps]
      push_cast
      nlinarith
    · rw [isStep, steps]
      push_cast
      nlinarith

end OfDouble

/-- Zeros at the end are written as an exponent. -/
theorem stripZeros_spec (fuel : Nat) (decimal : Digits) :
    ((stripZeros fuel decimal).digits : Rat) * 10 ^ (stripZeros fuel decimal).exponent =
      decimal.digits * 10 ^ decimal.exponent := by
  induction fuel generalizing decimal with
  | zero => rfl
  | succ fuel ih =>
      unfold stripZeros
      split
      · rename_i round
        have digits : decimal.digits = 10 * (decimal.digits / 10) := by omega
        rw [ih, zpow_add_one₀ (by norm_num)]
        conv_rhs => rw [digits]
        push_cast
        ring
      · rfl

/-- The exponent of the leading digit of a double. -/
def leading (value : Binary64) : Int :=
  leadingExponent (scaled (Interval.ofDouble value).centre (value.exponent - 2) 0).1
    (scaled (Interval.ofDouble value).centre (value.exponent - 2) 0).2

theorem ten_pow_leading_le {value : Binary64} (positive : 0 < value.significand) :
    (10 : Rat) ^ leading value ≤ value.significand * 2 ^ value.exponent := by
  obtain ⟨unitPositive, isScaled⟩ :=
    scaled_div (Interval.ofDouble value).centre (value.exponent - 2) 0
  have centre : (Interval.ofDouble value).centre = 4 * value.significand := rfl
  have numeratorPositive : 0 < (scaled (Interval.ofDouble value).centre (value.exponent - 2) 0).1 :=
    Nat.mul_pos (Nat.mul_pos (by omega) (twoTo_pos _)) (tenTo_pos _)
  calc (10 : Rat) ^ leading value ≤ _ := ten_pow_leadingExponent_le numeratorPositive unitPositive
    _ = value.significand * 2 ^ value.exponent := by
        rw [isScaled, centre, zpow_sub₀ (by norm_num)]
        push_cast
        norm_num
        ring

/-- The decimal of the coarsest grid on which one reads back. -/
def coarsest? (value : Binary64) : Option Digits :=
  (List.range mostDigits).findSome? fun count =>
    (gridPoint? (Interval.ofDouble value) (value.exponent - 2) (leading value - count)).map
      fun digits => ⟨digits, leading value - count⟩

theorem shortest_eq {value : Binary64} (positive : 0 < value.significand) :
    shortest value = stripZeros (mostDigits + 1) ((coarsest? value).getD ⟨0, 0⟩) :=
  if_neg positive.ne'

/-- One of the grids has a decimal that reads back. -/
theorem coarsest?_spec {value : Binary64} (canonical : Canonical value.significand value.exponent)
    (positive : 0 < value.significand) :
    ∃ decimal, coarsest? value = some decimal ∧
      RoundsTo value.significand value.exponent (decimal.digits * 10 ^ decimal.exponent) := by
  cases isFound : coarsest? value with
  | none =>
      -- The grid with seventeen digits has a neighbour that reads back.
      have nothing := List.findSome?_eq_none_iff.mp isFound 16 (by decide)
      rw [Option.map_eq_none_iff] at nothing
      have fine : (10 : Rat) ^ (leading value - (16 : Nat) + 16) ≤
          value.significand * 2 ^ value.exponent := by
        rw [Nat.cast_ofNat, Int.sub_add_cancel]
        exact ten_pow_leading_le positive
      obtain ⟨point, isNeighbour, holds⟩ := exists_neighbour positive canonical.fits fine
      exact absurd holds (not_holds_of_gridPoint? nothing point isNeighbour)
  | some decimal =>
      obtain ⟨count, _, chosen⟩ := List.exists_of_findSome?_eq_some isFound
      obtain ⟨digits, isPoint, rfl⟩ := Option.map_eq_some_iff.mp chosen
      exact ⟨_, rfl, roundsTo_of_holds positive (holds_of_gridPoint? isPoint)⟩

/-- The shortest decimal of a positive double is rounded to the double. -/
theorem shortest_roundsTo {value : Binary64} (canonical : Canonical value.significand value.exponent)
    (positive : 0 < value.significand) :
    RoundsTo value.significand value.exponent
      ((shortest value).digits * 10 ^ (shortest value).exponent) := by
  obtain ⟨decimal, isFound, rounds⟩ := coarsest?_spec canonical positive
  rw [shortest_eq positive, isFound, stripZeros_spec]
  exact rounds

/-- The shortest decimal of a positive double has a digit. -/
theorem shortest_pos {value : Binary64} (canonical : Canonical value.significand value.exponent)
    (positive : 0 < value.significand) : 0 < (shortest value).digits := by
  have rounds := shortest_roundsTo canonical positive
  have least : (1 : Rat) ≤ value.significand := by exact_mod_cast positive
  rcases Nat.eq_zero_or_pos (shortest value).digits with none | some
  · have above := rounds.above
    have unit : (0 : Rat) < 2 ^ value.exponent := by positivity
    rw [none, Nat.cast_zero, zero_mul] at above
    nlinarith
  · exact some

end MapStyle.Decimal
