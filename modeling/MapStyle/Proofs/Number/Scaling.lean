import Mathlib.Data.Rat.Floor
import Mathlib.Tactic.FieldSimp
import Mathlib.Tactic.GCongr
import Mathlib.Tactic.Linarith
import Mathlib.Tactic.Positivity
import Mathlib.Tactic.Ring
import MapStyle.Proofs.Number.Laws
import MapStyle.Proofs.Outcome

/-!
# Rows that are scaled

A row of an image is divided by one number of pixels and multiplied by another one. Rounding may
lose a small part at each step. What is lost of rows of images is less than a whole row, so the
least integer that is not below the result is not above the row.
-/

namespace MapStyle

set_option autoImplicit false

open OrderedArithmetic (place?)

@[simp] theorem Place.ofRat_le_ofRat {left right : Rat} :
    ofRat left ≤ ofRat right ↔ left ≤ right := by
  rw [← not_lt, Place.ofRat_lt_ofRat, not_lt]

/-- Between two rationals there are only rationals. -/
theorem Place.exists_rat {place : Place} {lower upper : Rat} (above : ofRat lower < place)
    (below : place ≤ ofRat upper) : ∃ value, place = ofRat value := by
  induction place using WithBot.recBotCoe with
  | bot => exact absurd above not_lt_bot
  | coe place =>
      induction place using WithTop.recTopCoe with
      | top => exact absurd below (ofRat_lt_top upper).not_ge
      | coe value => exact ⟨value, rfl⟩

/-- The part of a result that is left at least after it has been rounded. -/
def retained : Rat := 1 - 1 / 2 ^ 48

theorem retained_pos : 0 < retained := by norm_num [retained]

theorem retained_le_one : retained ≤ 1 := by norm_num [retained]

/-- Four steps of rounding lose less than one row of an image. -/
theorem sub_one_lt_retained {row : Nat} (stored : row < 2 ^ 32) :
    (row : Rat) - 1 < row * retained ^ 4 := by
  have below : (row : Rat) < 2 ^ 32 := by exact_mod_cast stored
  have least : 1 - 1 / 2 ^ 33 ≤ retained ^ 4 := by norm_num [retained]
  have kept : row * (1 - 1 / 2 ^ 33) ≤ row * retained ^ 4 := by gcongr
  linarith

/-- Results above this one lose no more than a small part of themselves. -/
def leastOrdinary : Rat := 1 / 2 ^ 100

section AtLeast

variable {F : Type} [Arithmetic F] [OrderedArithmetic F]

/-- A number whose place is not below a rational. -/
def AtLeast (bound : Rat) (value : F) : Prop :=
  ∃ place, place? value = some place ∧ .ofRat bound ≤ place

/-- Of positive results that are not too small, rounding leaves most. -/
class ScalingArithmetic (F : Type) [Arithmetic F] [OrderedArithmetic F] : Prop where
  zero : place? (0.0 : F) = some (.ofRat 0)
  ofRat? : ∀ (exact : Rat) (nearest : F), leastOrdinary ≤ exact →
    Arithmetic.ofRat? exact = some nearest → AtLeast (exact * retained) nearest
  mul : ∀ (left right : F) (leftBound rightBound : Rat), 0 < leftBound → 0 < rightBound →
    leastOrdinary ≤ leftBound * rightBound → AtLeast leftBound left → AtLeast rightBound right →
    AtLeast (leftBound * rightBound * retained) (left * right)
  div : ∀ (left right : F) (leftBound rightValue : Rat), 0 < leftBound → 0 < rightValue →
    leastOrdinary ≤ leftBound / rightValue → AtLeast leftBound left →
    place? right = some (.ofRat rightValue) →
    AtLeast (leftBound / rightValue * retained) (left / right)

end AtLeast

theorem atLeast_rat {bound value : Rat} : AtLeast bound value ↔ bound ≤ value := by
  constructor
  · rintro ⟨place, isPlace, above⟩
    cases isPlace
    exact Place.ofRat_le_ofRat.mp above
  · intro above
    exact ⟨_, rfl, Place.ofRat_le_ofRat.mpr above⟩

/-- Nothing is lost where nothing is rounded. -/
instance : ScalingArithmetic Rat where
  zero := congrArg (some ∘ Place.ofRat) (by norm_num)
  ofRat? exact nearest ordinary found := by
    cases found
    have positive : 0 < exact := lt_of_lt_of_le (by norm_num [leastOrdinary]) ordinary
    exact atLeast_rat.mpr (mul_le_of_le_one_right positive.le retained_le_one)
  mul left right leftBound rightBound leftPositive rightPositive _ leftAbove rightAbove := by
    rw [atLeast_rat] at leftAbove rightAbove ⊢
    calc leftBound * rightBound * retained ≤ leftBound * rightBound :=
          mul_le_of_le_one_right (by positivity) retained_le_one
      _ ≤ left * right := by gcongr; exact leftPositive.le.trans leftAbove
  div left right leftBound rightValue leftPositive rightPositive _ leftAbove isRight := by
    rw [atLeast_rat] at leftAbove ⊢
    have same : right = rightValue := Place.ofRat_inj.mp (Option.some_inj.mp isRight)
    subst same
    calc leftBound / right * retained ≤ leftBound / right :=
          mul_le_of_le_one_right (by positivity) retained_le_one
      _ ≤ left / right := by gcongr

namespace Number

variable {F : Type} [Arithmetic F] [OrderedArithmetic F]

/-- A number of either kind whose place is not below a rational. -/
def AtLeast (bound : Rat) (number : Number F) : Prop :=
  ∃ place, number.place? = some place ∧ .ofRat bound ≤ place

variable {bound weaker : Rat} {number left right product quotient : Number F}

theorem AtLeast.mono (atLeast : number.AtLeast bound) (below : weaker ≤ bound) :
    number.AtLeast weaker := by
  obtain ⟨place, isPlace, above⟩ := atLeast
  exact ⟨place, isPlace, le_trans (Place.ofRat_le_ofRat.mpr below) above⟩

/-- A positive number that is not above an integer is a rational. -/
theorem exists_ratio {scale : Nat} (positive : (0 : Number F).lt number = true)
    (notAbove : number.le (.int scale) = true) :
    ∃ ratio : Rat, number.place? = some (.ofRat ratio) ∧ 0 < ratio ∧ ratio ≤ scale := by
  have isZero : (0 : Number F).place? = some (.ofRat 0) := rfl
  have isScale : (Number.int scale : Number F).place? = some (.ofRat scale) := rfl
  cases isPlace : number.place? with
  | none =>
      rw [lt, order?_eq_place, isZero, isPlace] at positive
      cases positive
  | some place =>
      have above : .ofRat 0 < place := by
        simpa [lt_of_places isZero isPlace] using positive
      have below : place ≤ .ofRat scale := by
        have same : number.same (.int scale) = (number.order? (.int scale) == some .eq) := rfl
        rw [le, ← lt, ← same, lt_of_places isPlace isScale, same_of_places isPlace isScale]
          at notAbove
        simpa [le_iff_lt_or_eq] using notAbove
      obtain ⟨ratio, rfl⟩ := Place.exists_rat above below
      exact ⟨ratio, rfl, Place.ofRat_lt_ofRat.mp above, Place.ofRat_le_ofRat.mp below⟩

/-! ### The largest of several numbers -/

/-- The larger one of two numbers is not below the first one, if that has a place. -/
theorem place?_larger {place : Place} (right : Number F) (isPlace : left.place? = some place) :
    ∃ largerPlace, (left.larger right).place? = some largerPlace ∧ place ≤ largerPlace ∧
      ∀ other, right.place? = some other → other ≤ largerPlace := by
  unfold larger
  cases isOther : right.place? with
  | none =>
      have apart : left.lt right = false := by
        rw [lt, order?_eq_place, isPlace, isOther]
        rfl
      rw [apart]
      exact ⟨place, isPlace, le_rfl, by simp⟩
  | some other =>
      rw [lt_of_places isPlace isOther]
      by_cases below : place < other
      · refine ⟨other, by simp [below, isOther], below.le, ?_⟩
        rintro _ ⟨⟩
        exact le_rfl
      · refine ⟨place, by simp [below, isPlace], le_rfl, ?_⟩
        rintro _ ⟨⟩
        exact not_lt.mp below

theorem AtLeast.foldl_larger {numbers : List (Number F)} {start : Number F}
    (atLeast : start.AtLeast bound) : (numbers.foldl larger start).AtLeast bound := by
  induction numbers generalizing start with
  | nil => exact atLeast
  | cons first rest ih =>
      obtain ⟨place, isPlace, above⟩ := atLeast
      obtain ⟨next, isNext, notBelow, _⟩ := place?_larger first isPlace
      exact ih ⟨next, isNext, above.trans notBelow⟩

/-- No number of a list is above the largest one. -/
theorem atLeast_foldl_of_mem {numbers : List (Number F)} {start : Number F} {place : Place}
    (isPlace : start.place? = some place) (member : number ∈ numbers)
    (atLeast : number.AtLeast bound) : (numbers.foldl larger start).AtLeast bound := by
  induction numbers generalizing start place with
  | nil => cases member
  | cons first rest ih =>
      obtain ⟨next, isNext, _, notBelow⟩ := place?_larger first isPlace
      obtain rfl | inRest := List.mem_cons.mp member
      · obtain ⟨own, isOwn, above⟩ := atLeast
        have reached : (start.larger number).AtLeast bound :=
          ⟨next, isNext, above.trans (notBelow own isOwn)⟩
        exact reached.foldl_larger
      · exact ih isNext inRest

/-! ### Steps of scaling -/

/-- An integer that is not below a number is not below what the number is not below. -/
theorem AtLeast.le_ceil {ceiling : Int} (atLeast : number.AtLeast bound)
    (found : number.ceil = .ok ceiling) : bound ≤ ceiling := by
  obtain ⟨place, isPlace, above⟩ := atLeast
  unfold place? at isPlace
  unfold ceil at found
  cases view : number.view with
  | inl value =>
      simp only [view] at isPlace found
      cases isPlace
      cases found
      exact Place.ofRat_le_ofRat.mp above
  | inr value =>
      simp only [view] at isPlace found
      split at found
      · rename_i exact isExact
        cases found
        rw [OrderedArithmetic.rational?_eq_some_iff] at isExact
        cases isExact.symm.trans isPlace
        exact (Place.ofRat_le_ofRat.mp above).trans Rat.le_ceil
      · split at found <;> cases found

omit [OrderedArithmetic F] in
theorem toReal_of_view {value : F} (view : number.view = .inr value) :
    number.toReal = .ok value := by
  simp only [toReal, view]

variable [ScalingArithmetic F] {row scale : Nat}

theorem atLeast_toReal {nearest : F} (positive : 1 ≤ row)
    (found : (Number.int row : Number F).toReal = .ok nearest) :
    MapStyle.AtLeast (row * retained) nearest := by
  have ordinary : leastOrdinary ≤ ((row : Int) : Rat) := by
    have one : (1 : Rat) ≤ row := by exact_mod_cast positive
    have small : leastOrdinary ≤ 1 := by norm_num [leastOrdinary]
    exact_mod_cast small.trans one
  unfold toReal at found
  simp only [view_int] at found
  split at found
  · rename_i value isNearest
    cases found
    exact ScalingArithmetic.ofRat? _ _ ordinary isNearest
  · cases found

/-- A quotient of two integers is rounded once. -/
theorem atLeast_div_int {own : Number F} {divisor : Int} (view : own.view = .inl divisor)
    (ordinary : leastOrdinary ≤ (row : Rat) / divisor)
    (found : (Number.int row).div own = .ok quotient) :
    quotient.AtLeast (row / divisor * retained) := by
  simp only [div, view, view_int] at found
  split at found
  · cases found
  split at found
  · rename_i nearest isNearest
    cases found
    rw [Int.cast_natCast] at isNearest
    exact ScalingArithmetic.ofRat? _ _ ordinary isNearest
  · cases found

/-- For a fractional divisor the row is rounded as well. -/
theorem atLeast_div_real {own : Number F} {divisor : F} {ratio : Rat} (positive : 1 ≤ row)
    (view : own.view = .inr divisor)
    (isRatio : OrderedArithmetic.place? divisor = some (.ofRat ratio)) (ratioPositive : 0 < ratio)
    (ordinary : leastOrdinary ≤ row * retained / ratio)
    (found : (Number.int row).div own = .ok quotient) :
    quotient.AtLeast (row * retained / ratio * retained) := by
  simp only [div, view, view_int] at found
  obtain ⟨rowReal, rowFound, rest⟩ := bind_eq_ok.mp found
  obtain ⟨ownReal, ownFound, same⟩ := bind_eq_ok.mp rest
  rw [toReal_of_view view] at ownFound
  cases ownFound
  split at same
  · cases same
  · cases same
    have rowPositive : (0 : Rat) < row * retained := by
      have := retained_pos
      positivity
    exact ScalingArithmetic.div rowReal divisor _ ratio rowPositive ratioPositive ordinary
      (atLeast_toReal positive rowFound) isRatio

/-- A quotient of a row and a ratio: of two integers it is rounded once, else twice. -/
theorem atLeast_div {own : Number F} {ratio : Rat} (positive : 1 ≤ row)
    (isRatio : own.place? = some (.ofRat ratio)) (ratioPositive : 0 < ratio)
    (small : ratio ≤ 2 ^ 32) (found : (Number.int row).div own = .ok quotient) :
    quotient.AtLeast (row / ratio * retained ^ 2) := by
  have keptPositive := retained_pos
  have one : (1 : Rat) ≤ row := by exact_mod_cast positive
  have ordinary : leastOrdinary ≤ row * retained / ratio := by
    calc leastOrdinary ≤ 1 * retained / 2 ^ 32 := by norm_num [leastOrdinary, retained]
      _ ≤ row * retained / ratio := by gcongr
  unfold place? at isRatio
  cases view : own.view with
  | inl divisor =>
      simp only [view] at isRatio
      obtain rfl := Place.ofRat_inj.mp (Option.some_inj.mp isRatio)
      have exactOrdinary : leastOrdinary ≤ (row : Rat) / divisor := by
        refine ordinary.trans ?_
        gcongr
        exact mul_le_of_le_one_right (by positivity) retained_le_one
      refine (atLeast_div_int view exactOrdinary found).mono ?_
      gcongr
      exact pow_le_of_le_one retained_pos.le retained_le_one (by decide)
  | inr divisor =>
      simp only [view] at isRatio
      refine (atLeast_div_real positive view isRatio ratioPositive ordinary found).mono ?_
      exact le_of_eq (by ring)

/-- A product of a fractional number and an integer is rounded, and so is the integer. -/
theorem atLeast_mul_real {factor : F} (view : number.view = .inr factor)
    (atLeast : MapStyle.AtLeast bound factor) (boundPositive : 0 < bound) (positive : 1 ≤ scale)
    (ordinary : leastOrdinary ≤ bound * (scale * retained))
    (found : number.mul (.int scale) = .ok product) :
    product.AtLeast (bound * (scale * retained) * retained) := by
  simp only [mul, combine, view, view_int] at found
  obtain ⟨left, leftFound, rest⟩ := bind_eq_ok.mp found
  obtain ⟨right, rightFound, same⟩ := bind_eq_ok.mp rest
  rw [toReal_of_view view] at leftFound
  cases leftFound
  cases same
  have scalePositive : (0 : Rat) < scale * retained := by
    have := retained_pos
    positivity
  exact ScalingArithmetic.mul factor right _ _ boundPositive scalePositive ordinary atLeast
    (atLeast_toReal positive rightFound)

/-- A product with an integer: of two integers it is exact, else it is rounded twice. -/
theorem atLeast_mul (atLeast : number.AtLeast bound) (notSmall : 1 / 2 ^ 40 ≤ bound)
    (positive : 1 ≤ scale) (found : number.mul (.int scale) = .ok product) :
    product.AtLeast (bound * scale * retained ^ 2) := by
  have keptPositive := retained_pos
  have one : (1 : Rat) ≤ scale := by exact_mod_cast positive
  have boundPositive : 0 < bound := lt_of_lt_of_le (by norm_num) notSmall
  obtain ⟨place, isPlace, above⟩ := atLeast
  unfold place? at isPlace
  cases view : number.view with
  | inl value =>
      simp only [mul, combine, view, view_int] at found isPlace
      cases isPlace
      cases found
      refine ⟨_, rfl, Place.ofRat_le_ofRat.mpr ?_⟩
      have below := Place.ofRat_le_ofRat.mp above
      have left : retained ^ 2 ≤ 1 := pow_le_one₀ retained_pos.le retained_le_one
      calc bound * scale * retained ^ 2 ≤ bound * scale :=
            mul_le_of_le_one_right (by positivity) left
        _ ≤ value * scale := by gcongr
        _ = ((value * scale : Int) : Rat) := by push_cast; rfl
  | inr factor =>
      simp only [view] at isPlace
      have ordinary : leastOrdinary ≤ bound * (scale * retained) := by
        calc leastOrdinary ≤ 1 / 2 ^ 40 * (1 * retained) := by norm_num [leastOrdinary, retained]
          _ ≤ bound * (scale * retained) := by gcongr
      refine (atLeast_mul_real view ⟨place, isPlace, above⟩ boundPositive positive ordinary
        found).mono ?_
      exact le_of_eq (by ring)

/-- A row that is divided by a ratio and multiplied by one that is not smaller is not above the
integer that the product is rounded up to. Nor is it if a larger quotient has been multiplied. -/
theorem row_le_ceil {own largest : Number F} {ratio : Rat} {ceiling : Int} (positive : 1 ≤ row)
    (rowStored : row < 2 ^ 32) (scaleStored : scale < 2 ^ 32)
    (isRatio : own.place? = some (.ofRat ratio)) (ratioPositive : 0 < ratio)
    (notFiner : ratio ≤ scale) (divided : (Number.int row).div own = .ok quotient)
    (notSmaller : ∀ {bound}, quotient.AtLeast bound → largest.AtLeast bound)
    (multiplied : largest.mul (.int scale) = .ok product) (found : product.ceil = .ok ceiling) :
    (row : Int) ≤ ceiling := by
  have one : (1 : Rat) ≤ row := by exact_mod_cast positive
  have small : (scale : Rat) ≤ 2 ^ 32 := by exact_mod_cast scaleStored.le
  have scalePositive : 1 ≤ scale := by
    have : (0 : Rat) < scale := ratioPositive.trans_le notFiner
    exact_mod_cast this
  have atLeast := notSmaller (atLeast_div positive isRatio ratioPositive (notFiner.trans small)
    divided)
  have notSmall : 1 / 2 ^ 40 ≤ row / ratio * retained ^ 2 := by
    calc (1 : Rat) / 2 ^ 40 ≤ 1 / 2 ^ 32 * retained ^ 2 := by norm_num [retained]
      _ ≤ row / ratio * retained ^ 2 := by
        gcongr
        exact notFiner.trans small
  have reached := (atLeast_mul atLeast notSmall scalePositive multiplied).le_ceil found
  have scaled : row * retained ^ 4 ≤ row / ratio * retained ^ 2 * scale * retained ^ 2 := by
    have grown : 1 ≤ scale / ratio := (one_le_div ratioPositive).mpr notFiner
    have whole : row * retained ^ 4 * 1 ≤ row * retained ^ 4 * (scale / ratio) := by
      have := retained_pos
      gcongr
    calc row * retained ^ 4 ≤ row * retained ^ 4 * (scale / ratio) := by linarith
      _ = row / ratio * retained ^ 2 * scale * retained ^ 2 := by ring
  have below : (row : Rat) - 1 < ceiling :=
    (sub_one_lt_retained rowStored).trans_le (scaled.trans reached)
  have step : (row : Rat) < ceiling + 1 := by linarith
  exact Int.lt_add_one_iff.mp (by exact_mod_cast step)

end Number

end MapStyle
