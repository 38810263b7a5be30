import Mathlib.Algebra.Order.Ring.Rat
import Mathlib.Tactic.Linarith
import Mathlib.Tactic.NormNum
import MapStyle.Number
import MapStyle.Number.Arithmetic
import MapStyle.Proofs.Outcome

/-!
# Numbers over exact arithmetic

Every number has a rational value. Numbers are compared by it, and sums, differences, products and
quotients have the values that their names promise. Nothing fails but a division by zero.
-/

namespace MapStyle

set_option autoImplicit false

namespace Number

variable {left right number : Number Rat}

def exact (number : Number Rat) : Rat :=
  match number.view with
  | .inl value => value
  | .inr value => value

@[simp] theorem exact_int (value : Int) : (Number.int value : Number Rat).exact = value :=
  rfl

@[simp] theorem exact_real (value : Rat) : (Number.real value).exact = value :=
  rfl

@[simp] theorem exact_ofNat (value : Nat) :
    (no_index (OfNat.ofNat value) : Number Rat).exact = value :=
  rfl

@[simp] theorem exact_ofScientific (mantissa : Nat) (sign : Bool) (exponent : Nat) :
    (OfScientific.ofScientific mantissa sign exponent : Number Rat).exact =
      OfScientific.ofScientific mantissa sign exponent :=
  rfl

/-! ### Order -/

theorem orderRat_cast (left right : Int) : Arithmetic.orderRat left right = compare left right := by
  simp only [Arithmetic.orderRat, compare, compareOfLessAndEq, Int.cast_lt, Int.cast_inj]

theorem orderRat_swap (left right : Rat) :
    (Arithmetic.orderRat left right).swap = Arithmetic.orderRat right left := by
  unfold Arithmetic.orderRat
  obtain below | equal | above := lt_trichotomy left right
  · simp [below, below.not_gt, below.ne']
  · simp [equal]
  · simp [above, above.not_gt, above.ne']

theorem order?_eq_orderRat :
    left.order? right = some (Arithmetic.orderRat left.exact right.exact) := by
  unfold order? exact
  cases left.view with
  | inl leftValue =>
      cases right.view with
      | inl rightValue => exact congrArg some (orderRat_cast leftValue rightValue).symm
      | inr rightValue => exact congrArg some (orderRat_swap rightValue leftValue)
  | inr leftValue =>
      cases right.view with
      | inl rightValue => rfl
      | inr rightValue => rfl

@[simp] theorem lt_eq_decide : left.lt right = decide (left.exact < right.exact) := by
  simp only [lt, order?_eq_orderRat, Arithmetic.orderRat]
  split
  · simp [*]
  · split <;> simp [*]

@[simp] theorem le_eq_decide : left.le right = decide (left.exact ≤ right.exact) := by
  simp only [le, order?_eq_orderRat, Arithmetic.orderRat]
  split
  · rename_i below
    simp [below.le]
  · split
    · rename_i equal
      simp [equal]
    · rename_i notBelow different
      have above := lt_of_le_of_ne (not_lt.mp notBelow) (Ne.symm different)
      simp [above]

@[simp] theorem same_eq_decide : left.same right = decide (left.exact = right.exact) := by
  simp only [same, order?_eq_orderRat, Arithmetic.orderRat]
  split
  · rename_i below
    simp [below.ne]
  · split <;> simp [*]

/-- Numbers of strictly ascending values. -/
def Ascend (numbers : List (Number Rat)) : Prop :=
  numbers.Pairwise fun lower upper => lower.exact < upper.exact

instance (numbers : List (Number Rat)) : Decidable (Ascend numbers) :=
  inferInstanceAs (Decidable (List.Pairwise _ numbers))

/-! ### Computations -/

@[simp] theorem toReal_eq_ok : number.toReal = .ok number.exact := by
  unfold toReal exact
  cases number.view <;> rfl

@[simp] theorem isFinite_eq_ok : number.isFinite = .ok true := by
  simp [isFinite, Except.map, Exact.isFinite_eq_true]

theorem exact_next : number.next.exact = number.exact + 1 := by
  unfold next exact
  cases number.view with
  | inl value => exact Int.cast_add value 1
  | inr value =>
      show value + 1.0 = value + 1
      norm_num

theorem returns_combine {onIntegers : Int → Int → Int} {onReals : Rat → Rat → Rat}
    (agree : ∀ leftValue rightValue : Int,
      ((onIntegers leftValue rightValue : Int) : Rat) = onReals leftValue rightValue) :
    Returns (fun result => result.exact = onReals left.exact right.exact)
      (combine onIntegers onReals left right) := by
  unfold combine
  split
  · rename_i leftValue rightValue leftFound rightFound
    apply Returns.ok_iff.mpr
    rw [exact_int, agree]
    simp [exact, leftFound, rightFound]
  · simp only [toReal_eq_ok]
    exact Returns.ok_iff.mpr rfl

theorem returns_add : Returns (fun sum => sum.exact = left.exact + right.exact) (left.add right) :=
  returns_combine Int.cast_add

theorem returns_sub :
    Returns (fun difference => difference.exact = left.exact - right.exact) (left.sub right) :=
  returns_combine Int.cast_sub

theorem returns_mul :
    Returns (fun product => product.exact = left.exact * right.exact) (left.mul right) :=
  returns_combine Int.cast_mul

theorem returns_div (given : right.exact ≠ 0) :
    Returns (fun quotient => quotient.exact = left.exact / right.exact) (left.div right) := by
  unfold div
  split
  · rename_i leftValue rightValue leftFound rightFound
    have rightExact : right.exact = rightValue := by simp [exact, rightFound]
    have leftExact : left.exact = leftValue := by simp [exact, leftFound]
    have nonzero : rightValue ≠ 0 := by
      intro zero
      exact given (by simp [rightExact, zero])
    rw [if_neg nonzero, leftExact, rightExact]
    exact Returns.ok_iff.mpr rfl
  · have nonzero : Arithmetic.same right.exact 0.0 = false := by
      rw [Exact.same_eq_decide]
      norm_num [given]
    simp only [toReal_eq_ok]
    show Returns _ (if Arithmetic.same right.exact 0.0 = true then _ else _)
    rw [nonzero]
    exact Returns.ok_iff.mpr rfl

/-- At integers the power is exact. -/
theorem returns_twoPow {power : Nat} (whole : number.exact = power) :
    Returns (fun result => result.exact = 2 ^ power) number.twoPow := by
  unfold twoPow
  cases found : number.view with
  | inl value =>
      have exactValue : number.exact = value := by simp [exact, found]
      have same : value = power := by exact_mod_cast exactValue.symm.trans whole
      rw [same]
      exact Returns.ok_iff.mpr (by simp [Decimal.twoTo])
  | inr value =>
      have exactValue : number.exact = value := by simp [exact, found]
      have floored : (power : Rat).floor = power := rfl
      have powered : Exact.power (power : Rat) = 2 ^ power := by
        simp [Exact.power, Exact.wholePower, Decimal.twoTo, floored]
      rw [exactValue.symm.trans whole]
      exact Returns.ok_iff.mpr powered

theorem succeeds_twoPow : Succeeds number.twoPow := by
  unfold twoPow
  cases number.view <;> exact Returns.ok_iff.mpr trivial

end Number

end MapStyle
