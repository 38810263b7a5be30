import MapStyle.Decimal.Binary64

/-!
# Arithmetic on fractional numbers

A style is compiled over a type of fractional numbers that is a parameter: double precision
when it is written to a file, exact rationals when it is reasoned about. The class lists what
the compiler needs of that type. Nothing in it promises exact results; what holds of a
particular instance is stated beside the instance.
-/

namespace MapStyle

set_option autoImplicit false

/-- Fractional numbers with the operations that compiling a style needs. -/
class Arithmetic (F : Type) extends Add F, Sub F, Mul F, Div F, Neg F, OfScientific F where
  /-- The number nearest to a rational, unless it lies beyond the largest number. -/
  ofRat? : Rat → Option F
  /-- The value of a finite number. -/
  rational? : F → Option Rat
  /-- The order of two numbers, if they have one. -/
  order? : F → F → Option Ordering
  /-- Two to the power of a number, unless it lies beyond the largest number. -/
  twoPow? : F → Option F
  /-- The number as it is written in messages and files. -/
  text : F → String

namespace Arithmetic

variable {F : Type} [Arithmetic F]

def isFinite (value : F) : Bool :=
  (rational? value).isSome

/-- The value of a number without a fractional part. -/
def whole? (value : F) : Option Int :=
  (rational? value).bind fun exact => if exact.den = 1 then some exact.num else none

/-- The greatest integer that is not above a finite number. -/
def floor? (value : F) : Option Int :=
  (rational? value).map Rat.floor

def orderRat (left right : Rat) : Ordering :=
  if left < right then .lt else if left = right then .eq else .gt

/-- The order of a number and an integer, by exact value. A number that is not finite stands to
every integer as it stands to zero. -/
def orderWhole? (value : F) (whole : Int) : Option Ordering :=
  match rational? value with
  | some exact => some (orderRat exact whole)
  | none => order? value (OfScientific.ofScientific 0 false 0)

def lt (left right : F) : Bool :=
  order? left right == some .lt

def same (left right : F) : Bool :=
  order? left right == some .eq

/-- The larger of two numbers, the first one when they do not differ. -/
def larger (left right : F) : F :=
  if lt left right then right else left

/-- The smaller of two numbers, the first one when they do not differ. -/
def smaller (left right : F) : F :=
  if lt right left then right else left

end Arithmetic

/-! ### Exact arithmetic

Rationals as the fractional numbers of a style. Sums, products and quotients are not rounded, every
number is finite, and the order is that of the rationals; so a statement over this arithmetic is
about the formulas of the compiler and not about their rounding. -/

namespace Exact

def wholePower (exponent : Int) : Rat :=
  if 0 ≤ exponent then (Decimal.twoTo exponent.toNat : Int)
  else 1 / ((Decimal.twoTo exponent.natAbs : Int) : Rat)

/-- Two to the power of a number: exact at integers. Between two of them, where the power is not
rational, it is taken from the line through the powers at both. -/
def power (exponent : Rat) : Rat :=
  let lower := exponent.floor
  wholePower lower * (1 + (exponent - lower))

def text (value : Rat) : String :=
  if value.den = 1 then toString value.num else s!"{value.num}/{value.den}"

instance : Arithmetic Rat where
  ofRat? := some
  rational? := some
  order? left right := some (Arithmetic.orderRat left right)
  twoPow? := fun exponent => some (power exponent)
  text := text

theorem isFinite_eq_true (value : Rat) : Arithmetic.isFinite value = true := rfl

theorem lt_eq_decide (left right : Rat) : Arithmetic.lt left right = decide (left < right) := by
  show (some (Arithmetic.orderRat left right) == some Ordering.lt) = decide (left < right)
  by_cases below : left < right
  · simp [Arithmetic.orderRat, below]
  · by_cases equal : left = right <;> simp [Arithmetic.orderRat, below, equal]

theorem same_eq_decide (left right : Rat) : Arithmetic.same left right = decide (left = right) := by
  show (some (Arithmetic.orderRat left right) == some Ordering.eq) = decide (left = right)
  by_cases below : left < right
  · have different : left ≠ right := fun equal => Rat.lt_irrefl (equal ▸ below)
    simp [Arithmetic.orderRat, below, different]
  · by_cases equal : left = right <;> simp [Arithmetic.orderRat, below, equal]

theorem floor?_eq_some (value : Rat) : Arithmetic.floor? value = some value.floor := rfl

end Exact

end MapStyle
