import Mathlib.Data.Real.Basic
import MapStyle.Proofs.Number.Laws

/-!
# Numbers with exact values

Arithmetic is exact where fractional numbers have real values and a product has the product of the
values. Of a power of two it is only asked that it is positive: it need not be rational, and where a
statement holds for whatever stands for it, it holds for the power itself.
-/

namespace MapStyle

set_option autoImplicit false

/-- Fractional numbers with real values. All rationals are among them, and all of them have an
order. -/
class ExactArithmetic (F : Type) [Arithmetic F] where
  value : F → ℝ
  ofRat? : ∀ exact : Rat, ∃ number : F,
    Arithmetic.ofRat? exact = some number ∧ value number = exact
  ordered : ∀ left right : F, ∃ order, Arithmetic.order? left right = some order
  mul : ∀ left right : F, value (left * right) = value left * value right
  twoPow? : ∀ exponent : F, ∃ power : F,
    Arithmetic.twoPow? exponent = some power ∧ 0 < value power

namespace Exact

theorem wholePower_pos (exponent : Int) : 0 < wholePower exponent := by
  have twoTo_pos (steps : Nat) : (0 : Rat) < (Decimal.twoTo steps : Int) := by
    exact_mod_cast Decimal.twoTo_pos steps
  unfold wholePower
  split
  · exact twoTo_pos _
  · exact one_div_pos.mpr (twoTo_pos _)

theorem power_pos (exponent : Rat) : 0 < power exponent := by
  have notBelow : 0 ≤ exponent - exponent.floor := sub_nonneg.mpr (Rat.floor_le exponent)
  exact mul_pos (wholePower_pos _) (add_pos_of_pos_of_nonneg one_pos notBelow)

end Exact

instance : ExactArithmetic Rat where
  value number := number
  ofRat? exact := ⟨exact, rfl, rfl⟩
  ordered _ _ := ⟨_, rfl⟩
  mul := Rat.cast_mul
  twoPow? exponent := ⟨_, rfl, Rat.cast_pos.mpr (Exact.power_pos exponent)⟩

namespace Number

section Exact

variable {F : Type} [Arithmetic F] [ExactArithmetic F] {number left right : Number F} {whole : Int}

def value (number : Number F) : ℝ :=
  match number.view with
  | .inl value => value
  | .inr value => ExactArithmetic.value value

theorem returns_value_toReal :
    Returns (fun real => ExactArithmetic.value real = number.value) number.toReal := by
  unfold toReal value
  cases number.view with
  | inl whole =>
      obtain ⟨nearest, isNearest, same⟩ := ExactArithmetic.ofRat? (F := F) (whole : Rat)
      simp only [isNearest]
      exact Returns.ok_iff.mpr (same.trans (Rat.cast_intCast whole))
  | inr real => exact Returns.ok_iff.mpr rfl

theorem returns_value_mul :
    Returns (fun product => product.value = left.value * right.value) (left.mul right) := by
  unfold mul combine
  split
  · rename_i leftFound rightFound
    apply Returns.ok_iff.mpr
    simp [value, leftFound, rightFound, view_int]
  · refine returns_value_toReal.bind fun leftReal leftSame => ?_
    refine returns_value_toReal.bind fun rightReal rightSame => ?_
    rw [← leftSame, ← rightSame]
    exact Returns.ok_iff.mpr (ExactArithmetic.mul leftReal rightReal)

theorem succeeds_sub : Succeeds (left.sub right) := by
  unfold sub combine
  split
  · exact Returns.ok_iff.mpr trivial
  · refine returns_value_toReal.bind fun _ _ => returns_value_toReal.bind fun _ _ => ?_
    exact Returns.ok_iff.mpr trivial

theorem returns_twoPow_pos : Returns (fun power => 0 < power.value) number.twoPow := by
  unfold twoPow
  split
  · apply Returns.ok_iff.mpr
    simp [value, view_int, Decimal.twoTo]
  · rename_i exponent _
    obtain ⟨power, isPower, positive⟩ := ExactArithmetic.twoPow? exponent
    rw [isPower]
    exact Returns.ok_iff.mpr positive

theorem exists_orderWhole? (value : F) (whole : Int) :
    ∃ order, Arithmetic.orderWhole? value whole = some order := by
  unfold Arithmetic.orderWhole?
  split
  · exact ⟨_, rfl⟩
  · exact ExactArithmetic.ordered _ _

/-- A number is below an integer unless the integer is at or below it. -/
theorem lt_int_of_not_le (notAbove : (Number.int whole : Number F).le number = false) :
    number.lt (.int whole) = true := by
  unfold le order? at notAbove
  unfold lt order?
  rw [view_int] at notAbove ⊢
  cases found : number.view with
  | inl value =>
      simp only [found] at notAbove ⊢
      rw [← Int.compare_swap]
      cases order : compare whole value <;> simp_all
  | inr value =>
      obtain ⟨order, isOrder⟩ := exists_orderWhole? value whole
      simp only [found, isOrder] at notAbove ⊢
      cases order <;> simp_all

end Exact

theorem value_rat (number : Number Rat) : number.value = number.exact := by
  unfold value exact
  cases number.view with
  | inl value => exact (Rat.cast_intCast value).symm
  | inr value => rfl

end Number

end MapStyle
