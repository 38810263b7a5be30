import Mathlib.Algebra.Order.Group.MinMax
import Mathlib.Algebra.Order.Ring.Abs
import Mathlib.Tactic.GCongr
import Mathlib.Tactic.Linarith
import Mathlib.Tactic.NormNum
import Mathlib.Tactic.Positivity
import Mathlib.Tactic.Ring
import MapStyle.Proofs.Number.Decimals

/-!
# Errors of rounding

A result of ordinary size is rounded to a number near it. So the error of a computation is summed
up along it: each operation passes on the errors of what it is applied to, and adds one of its own.
-/

namespace MapStyle

set_option autoImplicit false

open Arithmetic (rational? larger smaller lt same)

/-- What rounding changes at most in a result of ordinary size. -/
def roundoff : Rat := 1 / 2 ^ 32

theorem roundoff_nonneg : 0 ≤ roundoff := by norm_num [roundoff]

/-- Results are of ordinary size up to this one. -/
def largestOrdinary : Rat := 2 ^ 20

/-- The half and the small integers that colours are computed with, in tenths. -/
def exactTenths : List Nat :=
  [0, 5, 10, 20, 30, 40, 50, 60, 1000, 2550, 3600]

section Near

variable {F : Type} [Arithmetic F]

/-- A number that is finite and lies no further from a value than an error. -/
def Near (error exact : Rat) (value : F) : Prop :=
  ∃ found, rational? value = some found ∧ |found - exact| ≤ error

/-- Each operation rounds a result of ordinary size to a number near it. Some tenths are read as
what they are, and hundredths as numbers near them. -/
class RoundoffArithmetic (F : Type) [Arithmetic F] : Prop where
  add : ∀ {left right : F} {leftValue rightValue : Rat}, rational? left = some leftValue →
    rational? right = some rightValue → |leftValue + rightValue| ≤ largestOrdinary →
    Near roundoff (leftValue + rightValue) (left + right)
  sub : ∀ {left right : F} {leftValue rightValue : Rat}, rational? left = some leftValue →
    rational? right = some rightValue → |leftValue - rightValue| ≤ largestOrdinary →
    Near roundoff (leftValue - rightValue) (left - right)
  mul : ∀ {left right : F} {leftValue rightValue : Rat}, rational? left = some leftValue →
    rational? right = some rightValue → |leftValue * rightValue| ≤ largestOrdinary →
    Near roundoff (leftValue * rightValue) (left * right)
  div : ∀ {left right : F} {leftValue rightValue : Rat}, rational? left = some leftValue →
    rational? right = some rightValue → rightValue ≠ 0 →
    |leftValue / rightValue| ≤ largestOrdinary →
    Near roundoff (leftValue / rightValue) (left / right)
  tenth : ∀ count ∈ exactTenths,
    rational? (OfScientific.ofScientific count true 1 : F) = some (count / 10 : Rat)
  hundredth : ∀ count : Nat, count ≤ 200 →
    Near roundoff (count / 100) (OfScientific.ofScientific count true 2 : F)

variable {value left right : F} {error leftError rightError exact leftExact rightExact bound : Rat}

theorem near_of_rational? (isExact : rational? value = some exact) : Near 0 exact value :=
  ⟨exact, isExact, by simp⟩

theorem Near.mono {weaker : Rat} (near : Near error exact value) (le : error ≤ weaker) :
    Near weaker exact value := by
  obtain ⟨found, isFound, close⟩ := near
  exact ⟨found, isFound, close.trans le⟩

/-- A value that is near to a number is near to what the value is near to. -/
theorem Near.trans {other further : Rat} (near : Near error exact value)
    (close : |exact - other| ≤ further) : Near (error + further) other value := by
  obtain ⟨found, isFound, closeFound⟩ := near
  exact ⟨found, isFound, (abs_sub_le _ _ _).trans (add_le_add closeFound close)⟩

/-- A result of rounding lies near an exact one if what was rounded lies near it. -/
theorem near_of_rounded {found : Rat}
    (rounded : |found| ≤ largestOrdinary → Near roundoff found value)
    (close : |found - exact| ≤ error) (within : |exact| ≤ bound)
    (ordinary : bound + error ≤ largestOrdinary) : Near (roundoff + error) exact value := by
  have size := abs_sub_abs_le_abs_sub found exact
  exact (rounded (by linarith)).trans close

section Operations

variable [RoundoffArithmetic F]

theorem rational?_tenth {count : Nat} (isExact : count ∈ exactTenths) (same : count / 10 = exact) :
    rational? (OfScientific.ofScientific count true 1 : F) = some exact := by
  rw [← same]
  exact RoundoffArithmetic.tenth count isExact

variable (nearLeft : Near leftError leftExact left) (nearRight : Near rightError rightExact right)

include nearLeft nearRight

theorem Near.add (within : |leftExact + rightExact| ≤ bound)
    (ordinary : bound + (leftError + rightError) ≤ largestOrdinary) :
    Near (roundoff + (leftError + rightError)) (leftExact + rightExact) (left + right) := by
  obtain ⟨leftFound, isLeft, leftClose⟩ := nearLeft
  obtain ⟨rightFound, isRight, rightClose⟩ := nearRight
  have close : |leftFound + rightFound - (leftExact + rightExact)| ≤ leftError + rightError := by
    calc |leftFound + rightFound - (leftExact + rightExact)|
        = |(leftFound - leftExact) + (rightFound - rightExact)| := by
          congr 1
          ring
      _ ≤ leftError + rightError := (abs_add_le _ _).trans (add_le_add leftClose rightClose)
  exact near_of_rounded (RoundoffArithmetic.add isLeft isRight) close within ordinary

theorem Near.sub (within : |leftExact - rightExact| ≤ bound)
    (ordinary : bound + (leftError + rightError) ≤ largestOrdinary) :
    Near (roundoff + (leftError + rightError)) (leftExact - rightExact) (left - right) := by
  obtain ⟨leftFound, isLeft, leftClose⟩ := nearLeft
  obtain ⟨rightFound, isRight, rightClose⟩ := nearRight
  have close : |leftFound - rightFound - (leftExact - rightExact)| ≤ leftError + rightError := by
    calc |leftFound - rightFound - (leftExact - rightExact)|
        = |(leftFound - leftExact) - (rightFound - rightExact)| := by
          congr 1
          ring
      _ ≤ leftError + rightError := (abs_sub _ _).trans (add_le_add leftClose rightClose)
  exact near_of_rounded (RoundoffArithmetic.sub isLeft isRight) close within ordinary

/-- The error of each factor is multiplied by the size of the other one. -/
theorem Near.mul {leftBound rightBound : Rat} (leftWithin : |leftExact| ≤ leftBound)
    (rightWithin : |rightExact| ≤ rightBound)
    (ordinary : (leftBound + leftError) * (rightBound + rightError) ≤ largestOrdinary) :
    Near (roundoff + (leftError * (rightBound + rightError) + leftBound * rightError))
      (leftExact * rightExact) (left * right) := by
  obtain ⟨leftFound, isLeft, leftClose⟩ := nearLeft
  obtain ⟨rightFound, isRight, rightClose⟩ := nearRight
  have leftSize : |leftFound| ≤ leftBound + leftError := by
    have size := abs_sub_abs_le_abs_sub leftFound leftExact
    linarith
  have rightSize : |rightFound| ≤ rightBound + rightError := by
    have size := abs_sub_abs_le_abs_sub rightFound rightExact
    linarith
  have close : |leftFound * rightFound - leftExact * rightExact| ≤
      leftError * (rightBound + rightError) + leftBound * rightError := by
    calc |leftFound * rightFound - leftExact * rightExact|
        = |(leftFound - leftExact) * rightFound + leftExact * (rightFound - rightExact)| := by
          congr 1
          ring
      _ ≤ |leftFound - leftExact| * |rightFound| + |leftExact| * |rightFound - rightExact| := by
          rw [← abs_mul, ← abs_mul]
          exact abs_add_le _ _
      _ ≤ leftError * (rightBound + rightError) + leftBound * rightError := by
          have leftErrorNonneg := (abs_nonneg _).trans leftClose
          have leftBoundNonneg := (abs_nonneg _).trans leftWithin
          gcongr
  have size : |leftFound * rightFound| ≤ (leftBound + leftError) * (rightBound + rightError) := by
    rw [abs_mul]
    exact mul_le_mul leftSize rightSize (abs_nonneg _) ((abs_nonneg _).trans leftSize)
  exact (RoundoffArithmetic.mul isLeft isRight (size.trans ordinary)).trans close

omit nearRight in
/-- By a number above zero that is known exactly the error is divided, too. -/
theorem Near.div (isRight : rational? right = some rightExact) (positive : 0 < rightExact)
    (within : |leftExact / rightExact| ≤ bound)
    (ordinary : bound + leftError / rightExact ≤ largestOrdinary) :
    Near (roundoff + leftError / rightExact) (leftExact / rightExact) (left / right) := by
  obtain ⟨leftFound, isLeft, leftClose⟩ := nearLeft
  have close : |leftFound / rightExact - leftExact / rightExact| ≤ leftError / rightExact := by
    rw [← sub_div, abs_div, abs_of_pos positive]
    gcongr
  exact near_of_rounded (RoundoffArithmetic.div isLeft isRight positive.ne') close within ordinary

end Operations

/-! ### Comparisons -/

section Order

variable [OrderedArithmetic F] {leftValue rightValue : Rat}

theorem lt_of_rational? (isLeft : rational? left = some leftValue)
    (isRight : rational? right = some rightValue) :
    lt left right = decide (leftValue < rightValue) :=
  Number.lt_of_finite (show (Number.real left).rational? = some leftValue from isLeft)
    (show (Number.real right).rational? = some rightValue from isRight)

theorem same_of_rational? (isLeft : rational? left = some leftValue)
    (isRight : rational? right = some rightValue) :
    same left right = decide (leftValue = rightValue) :=
  Number.same_of_finite (show (Number.real left).rational? = some leftValue from isLeft)
    (show (Number.real right).rational? = some rightValue from isRight)

theorem rational?_larger (isLeft : rational? left = some leftValue)
    (isRight : rational? right = some rightValue) :
    rational? (larger left right) = some (max leftValue rightValue) := by
  rw [larger, lt_of_rational? isLeft isRight]
  obtain below | notBelow := lt_or_ge leftValue rightValue
  · rw [decide_eq_true below, if_pos rfl, isRight, max_eq_right below.le]
  · rw [decide_eq_false notBelow.not_gt, if_neg Bool.false_ne_true, isLeft, max_eq_left notBelow]

theorem rational?_smaller (isLeft : rational? left = some leftValue)
    (isRight : rational? right = some rightValue) :
    rational? (smaller left right) = some (min leftValue rightValue) := by
  rw [smaller, lt_of_rational? isRight isLeft]
  obtain above | notAbove := lt_or_ge rightValue leftValue
  · rw [decide_eq_true above, if_pos rfl, isRight, min_eq_right above.le]
  · rw [decide_eq_false notAbove.not_gt, if_neg Bool.false_ne_true, isLeft, min_eq_left notAbove]

theorem Near.larger (nearLeft : Near error leftExact left)
    (nearRight : Near error rightExact right) :
    Near error (max leftExact rightExact) (larger left right) := by
  obtain ⟨leftFound, isLeft, leftClose⟩ := nearLeft
  obtain ⟨rightFound, isRight, rightClose⟩ := nearRight
  exact ⟨_, rational?_larger isLeft isRight,
    (abs_max_sub_max_le_max _ _ _ _).trans (max_le leftClose rightClose)⟩

theorem Near.smaller (nearLeft : Near error leftExact left)
    (nearRight : Near error rightExact right) :
    Near error (min leftExact rightExact) (smaller left right) := by
  obtain ⟨leftFound, isLeft, leftClose⟩ := nearLeft
  obtain ⟨rightFound, isRight, rightClose⟩ := nearRight
  exact ⟨_, rational?_smaller isLeft isRight,
    (abs_min_sub_min_le_max _ _ _ _).trans (max_le leftClose rightClose)⟩

end Order

end Near

/-! ### Exact arithmetic -/

instance : RoundoffArithmetic Rat where
  add isLeft isRight _ := by
    cases isLeft
    cases isRight
    exact (near_of_rational? rfl).mono roundoff_nonneg
  sub isLeft isRight _ := by
    cases isLeft
    cases isRight
    exact (near_of_rational? rfl).mono roundoff_nonneg
  mul isLeft isRight _ := by
    cases isLeft
    cases isRight
    exact (near_of_rational? rfl).mono roundoff_nonneg
  div isLeft isRight _ _ := by
    cases isLeft
    cases isRight
    exact (near_of_rational? rfl).mono roundoff_nonneg
  tenth count _ := congrArg some (by rw [ofScientific_rat, pow_one])
  hundredth count _ := by
    refine (near_of_rational? (congrArg some ?_)).mono roundoff_nonneg
    rw [ofScientific_rat]
    norm_num

end MapStyle
