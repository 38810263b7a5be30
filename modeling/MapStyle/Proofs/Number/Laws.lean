import Mathlib.Order.WithBot
import MapStyle.Proofs.Number.Exact

/-!
# Laws of fractional numbers

What is asked of fractional numbers where a statement holds in double precision and exactly alike.
They are ordered by their places on the line of the rationals with two infinite ends, on which an
undefined number has no place; integers that fit into a byte are among them, with one as the number
by which multiplication changes nothing; and so are the integers with which colours are computed.
-/

namespace MapStyle

set_option autoImplicit false

/-- The line of the rationals with its two ends. -/
abbrev Place := WithBot (WithTop Rat)

namespace Place

variable {left right : Place}

def ofRat (value : Rat) : Place :=
  ((value : WithTop Rat) : WithBot (WithTop Rat))

@[simp] theorem ofRat_lt_ofRat {left right : Rat} : ofRat left < ofRat right ↔ left < right := by
  simp [ofRat]

@[simp] theorem ofRat_inj {left right : Rat} : ofRat left = ofRat right ↔ left = right := by
  simp [ofRat]

def order (left right : Place) : Ordering :=
  if left < right then .lt else if left = right then .eq else .gt

theorem order_of_lt (below : left < right) : left.order right = .lt :=
  if_pos below

theorem order_self (place : Place) : place.order place = .eq := by
  simp [order]

theorem order_of_gt (above : right < left) : left.order right = .gt := by
  rw [order, if_neg above.not_gt, if_neg above.ne']

theorem order_swap (left right : Place) : (left.order right).swap = right.order left := by
  obtain below | equal | above := lt_trichotomy left right
  · rw [order_of_lt below, order_of_gt below, Ordering.swap_lt]
  · rw [equal, order_self, Ordering.swap_eq]
  · rw [order_of_gt above, order_of_lt above, Ordering.swap_gt]

theorem order_ofRat (left right : Rat) :
    (ofRat left).order (ofRat right) = Arithmetic.orderRat left right := by
  simp only [order, Arithmetic.orderRat, ofRat_lt_ofRat, ofRat_inj]

theorem order_neg (left right : Rat) :
    (ofRat (-left)).order (ofRat (-right)) = (ofRat right).order (ofRat left) := by
  simp [order, eq_comm]

@[simp] theorem bot_lt_ofRat (value : Rat) : ⊥ < ofRat value :=
  WithBot.bot_lt_coe _

@[simp] theorem ofRat_lt_top (value : Rat) : ofRat value < ⊤ :=
  WithBot.coe_lt_coe.mpr (WithTop.coe_lt_top value)

/-- Each end of the line lies alike to all rationals. -/
theorem order_of_infinite {place : Place} (infinite : ∀ value, place ≠ ofRat value)
    (left right : Rat) : place.order (ofRat left) = place.order (ofRat right) := by
  induction place using WithBot.recBotCoe with
  | bot => rw [order_of_lt (bot_lt_ofRat left), order_of_lt (bot_lt_ofRat right)]
  | coe upper =>
      induction upper using WithTop.recTopCoe with
      | top =>
          have above (value : Rat) : ofRat value < ((⊤ : WithTop Rat) : Place) := ofRat_lt_top value
          rw [order_of_gt (above left), order_of_gt (above right)]
      | coe value => exact absurd rfl (infinite value)

end Place

/-- Numbers are ordered by their places on the line; an undefined number has none, and the place
of a finite number is its value. -/
class OrderedArithmetic (F : Type) [Arithmetic F] where
  place? : F → Option Place
  order?_eq : ∀ left right : F, Arithmetic.order? left right =
    (place? left).bind fun leftPlace => (place? right).map leftPlace.order
  rational?_eq_some_iff : ∀ (value : F) (exact : Rat),
    Arithmetic.rational? value = some exact ↔ place? value = some (.ofRat exact)
  place?_zero : place? (OfScientific.ofScientific 0 false 0) = some (.ofRat 0)

/-- Integers that fit into a byte are fractional numbers, and multiplying by one changes
nothing. -/
class RoundedArithmetic (F : Type) [Arithmetic F] : Prop where
  ofByte : ∀ value : Nat, value ≤ 255 → ∃ number : F, Arithmetic.ofRat? value = some number
  mul_one : ∀ one : F, Arithmetic.ofRat? 1 = some one → ∀ value : F, value * one = value

/-- The integers with which colours are computed: from the least channel, a digit with a minus sign
before it, to the degrees of a full turn. -/
def SmallWhole (whole : Int) : Prop :=
  -16 < whole ∧ whole ≤ 360

instance (whole : Int) : Decidable (SmallWhole whole) :=
  inferInstanceAs (Decidable (_ ∧ _))

/-- Small integers are fractional numbers. -/
class WholeArithmetic (F : Type) [Arithmetic F] : Prop where
  ofWhole : ∀ whole : Int, SmallWhole whole → ∃ number : F,
    Arithmetic.ofRat? (whole : Rat) = some number ∧
      Arithmetic.rational? number = some (whole : Rat)
  zero : Arithmetic.rational? (0.0 : F) = some 0

/-! ### Exact arithmetic -/

instance : OrderedArithmetic Rat where
  place? value := some (.ofRat value)
  order?_eq left right := congrArg some (Place.order_ofRat left right).symm
  rational?_eq_some_iff value exact := by
    show some value = some exact ↔ some (Place.ofRat value) = some (Place.ofRat exact)
    rw [Option.some_inj, Option.some_inj, Place.ofRat_inj]
  place?_zero := congrArg (some ∘ Place.ofRat) (by norm_num)

instance : RoundedArithmetic Rat where
  ofByte value _ := ⟨value, rfl⟩
  mul_one one isOne value := by
    cases isOne
    exact Rat.mul_one value

instance : WholeArithmetic Rat where
  ofWhole whole _ := ⟨whole, rfl, rfl⟩
  zero := congrArg some (by norm_num)

namespace Number

/-! ### Order -/

section Order

open OrderedArithmetic (order?_eq rational?_eq_some_iff place?_zero)

variable {F : Type} [Arithmetic F] [OrderedArithmetic F] {left right number : Number F}

def place? (number : Number F) : Option Place :=
  match number.view with
  | .inl value => some (.ofRat value)
  | .inr value => OrderedArithmetic.place? value

theorem orderWhole?_eq (value : F) (whole : Int) :
    Arithmetic.orderWhole? value whole =
      (OrderedArithmetic.place? value).map fun place => place.order (.ofRat whole) := by
  unfold Arithmetic.orderWhole?
  split
  · rename_i exact found
    rw [(rational?_eq_some_iff value exact).mp found, Option.map_some, Place.order_ofRat]
  · rename_i infinite
    rw [order?_eq, place?_zero]
    cases found : OrderedArithmetic.place? value with
    | none => rfl
    | some place =>
        have noValue : ∀ exact : Rat, place ≠ .ofRat exact := by
          rintro exact rfl
          rw [(rational?_eq_some_iff value exact).mpr found] at infinite
          cases infinite
        exact congrArg some (Place.order_of_infinite noValue 0 whole)

theorem order?_eq_place : left.order? right =
    left.place?.bind fun leftPlace => right.place?.map leftPlace.order := by
  unfold order? place?
  cases left.view with
  | inl leftValue =>
      cases right.view with
      | inl rightValue =>
          rw [Option.bind_some, Option.map_some, Place.order_ofRat, orderRat_cast]
      | inr rightValue =>
          simp only [orderWhole?_eq, Option.map_map, Option.bind_some]
          exact congrArg (Option.map · _) (funext fun place => place.order_swap _)
  | inr leftValue =>
      cases right.view with
      | inl rightValue =>
          simp only [orderWhole?_eq, Option.map_some]
          cases OrderedArithmetic.place? leftValue <;> rfl
      | inr rightValue => exact order?_eq leftValue rightValue

/-- A number equals itself exactly if it has a place. -/
theorem same_self_iff : number.same number = true ↔ ∃ place, number.place? = some place := by
  rw [same, order?_eq_place]
  cases number.place? with
  | none => simp
  | some place => simp [Place.order_self]

variable {leftPlace rightPlace : Place}

theorem order?_of_places (leftFound : left.place? = some leftPlace)
    (rightFound : right.place? = some rightPlace) :
    left.order? right = some (leftPlace.order rightPlace) := by
  rw [order?_eq_place, leftFound, rightFound]
  rfl

theorem lt_of_places (leftFound : left.place? = some leftPlace)
    (rightFound : right.place? = some rightPlace) :
    left.lt right = decide (leftPlace < rightPlace) := by
  rw [lt, order?_of_places leftFound rightFound]
  obtain below | equal | above := lt_trichotomy leftPlace rightPlace
  · simp [Place.order_of_lt below, below]
  · simp [equal, Place.order_self]
  · simp [Place.order_of_gt above, above.not_gt]

theorem same_of_places (leftFound : left.place? = some leftPlace)
    (rightFound : right.place? = some rightPlace) :
    left.same right = decide (leftPlace = rightPlace) := by
  rw [same, order?_of_places leftFound rightFound]
  obtain below | equal | above := lt_trichotomy leftPlace rightPlace
  · simp [Place.order_of_lt below, below.ne]
  · simp [equal, Place.order_self]
  · simp [Place.order_of_gt above, above.ne']

theorem lt_iff_places : left.lt right = true ↔
    ∃ leftPlace rightPlace, left.place? = some leftPlace ∧ right.place? = some rightPlace ∧
      leftPlace < rightPlace := by
  cases leftFound : left.place? with
  | none => simp [lt, order?_eq_place, leftFound]
  | some leftPlace =>
      cases rightFound : right.place? with
      | none => simp [lt, order?_eq_place, leftFound, rightFound]
      | some rightPlace => simp [lt_of_places leftFound rightFound]

theorem same_iff_places : left.same right = true ↔
    ∃ place, left.place? = some place ∧ right.place? = some place := by
  cases leftFound : left.place? with
  | none => simp [same, order?_eq_place, leftFound]
  | some leftPlace =>
      cases rightFound : right.place? with
      | none => simp [same, order?_eq_place, leftFound, rightFound]
      | some rightPlace => simp [same_of_places leftFound rightFound, eq_comm]

theorem le_iff_places : left.le right = true ↔
    ∃ leftPlace rightPlace, left.place? = some leftPlace ∧ right.place? = some rightPlace ∧
      leftPlace ≤ rightPlace := by
  have split : left.le right = (left.lt right || left.same right) := rfl
  rw [split, Bool.or_eq_true, lt_iff_places, same_iff_places]
  constructor
  · rintro (⟨leftPlace, rightPlace, isLeft, isRight, below⟩ | ⟨place, isLeft, isRight⟩)
    · exact ⟨leftPlace, rightPlace, isLeft, isRight, below.le⟩
    · exact ⟨place, place, isLeft, isRight, le_rfl⟩
  · rintro ⟨leftPlace, rightPlace, isLeft, isRight, notAbove⟩
    obtain below | rfl := lt_or_eq_of_le notAbove
    · exact .inl ⟨leftPlace, rightPlace, isLeft, isRight, below⟩
    · exact .inr ⟨leftPlace, isLeft, isRight⟩

theorem same_comm : left.same right = right.same left := by
  rw [Bool.eq_iff_iff, same_iff_places, same_iff_places]
  exact exists_congr fun place => and_comm

/-- Equal numbers are equal to the same numbers. -/
theorem same_congr (equal : left.same right = true) (wanted : Number F) :
    left.same wanted = right.same wanted := by
  obtain ⟨place, isLeft, isRight⟩ := same_iff_places.mp equal
  rw [Bool.eq_iff_iff, same_iff_places, same_iff_places, isLeft, isRight]

theorem lt_trans {third : Number F} (below : left.lt right = true)
    (above : right.lt third = true) : left.lt third = true := by
  obtain ⟨leftPlace, rightPlace, isLeft, isRight, apart⟩ := lt_iff_places.mp below
  obtain ⟨otherPlace, thirdPlace, isOther, isThird, further⟩ := lt_iff_places.mp above
  cases isRight.symm.trans isOther
  exact lt_iff_places.mpr ⟨_, _, isLeft, isThird, apart.trans further⟩

protected theorem le_trans {third : Number F} (notAbove : left.le right = true)
    (further : right.le third = true) : left.le third = true := by
  obtain ⟨leftPlace, rightPlace, isLeft, isRight, first⟩ := le_iff_places.mp notAbove
  obtain ⟨otherPlace, thirdPlace, isOther, isThird, second⟩ := le_iff_places.mp further
  cases isRight.symm.trans isOther
  exact le_iff_places.mpr ⟨_, _, isLeft, isThird, first.trans second⟩

theorem lt_asymm (below : left.lt right = true) : right.lt left = false := by
  obtain ⟨leftPlace, rightPlace, leftFound, rightFound, apart⟩ := lt_iff_places.mp below
  rw [lt_of_places rightFound leftFound, decide_eq_false apart.not_gt]

/-- The place of an exact number is its value. -/
theorem place?_exact (number : Number Rat) : number.place? = some (.ofRat number.exact) := by
  cases number <;> rfl

end Order

/-! ### Small integers -/

section Rounded

variable {F : Type} [Arithmetic F] [RoundedArithmetic F] {number : Number F}

omit [RoundedArithmetic F] in
theorem toReal_of_rat {value : Int} {nearest : F}
    (found : Arithmetic.ofRat? (value : Rat) = some nearest) :
    (Number.int value : Number F).toReal = .ok nearest := by
  simp only [toReal, view_int, found]

theorem succeeds_toReal_byte {value : Nat} (fits : value ≤ 255) :
    Succeeds (Number.int value : Number F).toReal := by
  obtain ⟨nearest, found⟩ := RoundedArithmetic.ofByte (F := F) value fits
  exact succeeds_iff.mpr ⟨nearest, toReal_of_rat found⟩

/-- A quantity times one is the same quantity, written alike. -/
theorem mul_one (quantity : number.isFlag = false) : number.mul 1 = .ok number := by
  cases number with
  | flag value => cases quantity
  | int value => exact congrArg (Except.ok ∘ Number.int) (Int.mul_one value)
  | real value =>
      obtain ⟨one, found⟩ := RoundedArithmetic.ofByte (F := F) 1 (by decide)
      have oneReal : (1 : Number F).toReal = .ok one := toReal_of_rat found
      have valueReal : (Number.real value).toReal = .ok value := rfl
      have product : (Number.real value).mul 1 = .ok (.real (value * one)) := by
        show combine _ _ _ _ = _
        simp only [combine, valueReal, oneReal]
        rfl
      rw [product, RoundedArithmetic.mul_one one found value]

end Rounded

end Number

/-! ### Finite numbers

A number that is neither infinite nor undefined has an exact value. Such numbers are ordered by
their values, and one that is whole is compared as the integer that it is. -/

section Finite

variable {F : Type} [Arithmetic F]

theorem Arithmetic.rational?_of_whole? {value : F} {whole : Int}
    (found : Arithmetic.whole? value = some whole) :
    Arithmetic.rational? value = some (whole : Rat) := by
  obtain ⟨exact, isExact, isWhole⟩ := Option.bind_eq_some_iff.mp found
  split at isWhole
  · rename_i integral
    cases isWhole
    rw [isExact, Rat.coe_int_num_of_den_eq_one integral]
  · cases isWhole

namespace Number

/-- The value of a finite number. -/
def rational? (number : Number F) : Option Rat :=
  match number.view with
  | .inl value => some value
  | .inr value => Arithmetic.rational? value

variable {number left right : Number F}

/-- A whole number is finite. -/
theorem rational?_of_whole? {whole : Int} (found : number.whole? = some whole) :
    number.rational? = some (whole : Rat) := by
  unfold whole? at found
  unfold rational?
  cases view : number.view with
  | inl value =>
      rw [view] at found
      cases found
      rfl
  | inr value =>
      rw [view] at found
      exact Arithmetic.rational?_of_whole? found

variable [OrderedArithmetic F]

/-- A finite number lies at its value. -/
theorem place?_of_rational? {value : Rat} (finite : number.rational? = some value) :
    number.place? = some (.ofRat value) := by
  unfold rational? at finite
  unfold place?
  cases view : number.view with
  | inl whole =>
      rw [view] at finite
      cases finite
      rfl
  | inr real =>
      rw [view] at finite
      exact (OrderedArithmetic.rational?_eq_some_iff real value).mp finite

theorem rational?_of_place? {value : Rat} (isPlace : number.place? = some (.ofRat value)) :
    number.rational? = some value := by
  unfold place? at isPlace
  unfold rational?
  cases view : number.view with
  | inl whole =>
      rw [view] at isPlace
      exact congrArg some (Place.ofRat_inj.mp (Option.some_inj.mp isPlace))
  | inr real =>
      rw [view] at isPlace
      exact (OrderedArithmetic.rational?_eq_some_iff real value).mpr isPlace

section Order

variable {leftValue rightValue : Rat} (leftFinite : left.rational? = some leftValue)
  (rightFinite : right.rational? = some rightValue)

include leftFinite rightFinite

theorem lt_of_finite : left.lt right = decide (leftValue < rightValue) := by
  rw [lt_of_places (place?_of_rational? leftFinite) (place?_of_rational? rightFinite)]
  simp

theorem same_of_finite : left.same right = decide (leftValue = rightValue) := by
  rw [same_of_places (place?_of_rational? leftFinite) (place?_of_rational? rightFinite)]
  simp

end Order

theorem le_self_of_finite {value : Rat} (finite : number.rational? = some value) :
    number.le number = true := by
  have placed := place?_of_rational? finite
  rw [le, order?_of_places placed placed, Place.order_self]
  rfl

/-! ### Integers -/

variable {whole other : Int}

theorem same_int_of_whole? (found : number.whole? = some whole) :
    number.same (.int other) = decide (whole = other) := by
  rw [same_of_finite (rational?_of_whole? found) (rfl : (Number.int other).rational? = _)]
  simp

theorem int_lt_of_whole? (found : number.whole? = some whole) :
    (Number.int other).lt number = decide (other < whole) := by
  rw [lt_of_finite (rfl : (Number.int other).rational? = _) (rational?_of_whole? found)]
  simp

end Number

end Finite

/-! ### Small integers as fractional numbers -/

namespace Number

variable {F : Type} [Arithmetic F] [WholeArithmetic F] {whole : Int}

theorem returns_toReal_whole (small : SmallWhole whole) :
    Returns (fun number => Arithmetic.rational? number = some (whole : Rat))
      (Number.int whole : Number F).toReal := by
  obtain ⟨number, isNearest, isExact⟩ := WholeArithmetic.ofWhole (F := F) whole small
  exact ⟨number, toReal_of_rat isNearest, isExact⟩

/-- A fractional number is divided by a small integer other than zero as by the fractional number
that it is converted to. -/
theorem exists_div_whole [OrderedArithmetic F] (small : SmallWhole whole) (nonzero : whole ≠ 0) :
    ∃ divisor : F, Arithmetic.rational? divisor = some (whole : Rat) ∧
      ∀ value : F, (Number.real value).div (.int whole) = .ok (.real (value / divisor)) := by
  obtain ⟨divisor, found, isExact⟩ := returns_toReal_whole (F := F) small
  refine ⟨divisor, isExact, fun value => ?_⟩
  have different : Arithmetic.same divisor 0.0 = false := by
    have places : (Number.real divisor).same (.real 0.0) = decide ((whole : Rat) = 0) :=
      same_of_finite isExact WholeArithmetic.zero
    rw [decide_eq_false (by exact_mod_cast nonzero)] at places
    exact places
  simp only [div, view_real, view_int, found]
  show (if Arithmetic.same divisor 0.0 = true then _ else _) = _
  rw [different]
  rfl

end Number

end MapStyle
