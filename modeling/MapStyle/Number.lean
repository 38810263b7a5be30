import MapStyle.Decimal.Binary64
import MapStyle.Number.Arithmetic

/-!
# Numbers of a theme

A number is a truth value (which counts as one or zero), an integer of any size or a fractional
number. Sums, differences and products of integers stay integers; a quotient is always
fractional. Integers and fractional numbers are compared by exact value.
-/

namespace MapStyle

set_option autoImplicit false

/-- A number as a theme author writes it. -/
inductive Number (F : Type) where
  | flag (value : Bool)
  | int (value : Int)
  | real (value : F)
  deriving Inhabited

/-- What can go wrong in a computation with numbers. -/
inductive NumberError where
  | integerTooLarge
  | quotientTooLarge
  | powerTooLarge
  | divisionByZero
  | infiniteHasNoInteger
  | undefinedHasNoInteger
  | tooManyDigits (count : Nat)
  deriving DecidableEq, Repr

namespace NumberError

/-- The number of digits up to which an integer is read. -/
def digitLimit : Nat := 4300

def message : NumberError → String
  | .integerTooLarge => "int too large to convert to float"
  | .quotientTooLarge => "integer division result too large for a float"
  | .powerTooLarge => "(34, 'Numerical result out of range')"
  | .divisionByZero => "division by zero"
  | .infiniteHasNoInteger => "cannot convert float infinity to integer"
  | .undefinedHasNoInteger => "cannot convert float NaN to integer"
  | .tooManyDigits count =>
      s!"Exceeds the limit ({digitLimit} digits) for integer string conversion: " ++
        s!"value has {count} digits; " ++
        "use sys.set_int_max_str_digits() to increase the limit"

end NumberError

namespace Number

variable {F : Type}

instance (n : Nat) : OfNat (Number F) n := ⟨.int n⟩

instance [OfScientific F] : OfScientific (Number F) :=
  ⟨fun mantissa sign exponent => .real (OfScientific.ofScientific mantissa sign exponent)⟩

/-- An integer, or a fractional number: a truth value is one or zero. -/
def view : Number F → Int ⊕ F
  | .flag value => .inl (if value then 1 else 0)
  | .int value => .inl value
  | .real value => .inr value

/-- Truth values are numbers but no quantities. -/
def isFlag : Number F → Bool
  | .flag _ => true
  | _ => false

theorem view_flag (value : Bool) :
    (Number.flag value : Number F).view = .inl (if value then 1 else 0) := rfl

theorem view_int (value : Int) : (Number.int value : Number F).view = .inl value := rfl

theorem view_real (value : F) : (Number.real value).view = .inr value := rfl

variable [Arithmetic F]

instance : Neg (Number F) where
  neg number :=
    match number.view with
    | .inl value => .int (-value)
    | .inr value => .real (-value)

/-- The order of two numbers by exact value; none if one of them is undefined. -/
def order? (left right : Number F) : Option Ordering :=
  match left.view, right.view with
  | .inl leftValue, .inl rightValue => some (compare leftValue rightValue)
  | .inl leftValue, .inr rightValue =>
      (Arithmetic.orderWhole? rightValue leftValue).map Ordering.swap
  | .inr leftValue, .inl rightValue => Arithmetic.orderWhole? leftValue rightValue
  | .inr leftValue, .inr rightValue => Arithmetic.order? leftValue rightValue

def lt (left right : Number F) : Bool :=
  left.order? right == some .lt

def le (left right : Number F) : Bool :=
  left.order? right == some .lt || left.order? right == some .eq

/-- Equality of value: the integer six and the fractional six are the same number. -/
def same (left right : Number F) : Bool :=
  left.order? right == some .eq

theorem order?_int (left right : Int) :
    (Number.int left : Number F).order? (.int right) = some (compare left right) := rfl

theorem lt_int (left right : Int) :
    (Number.int left : Number F).lt (.int right) = decide (left < right) := by
  simp only [lt, order?_int, compare, compareOfLessAndEq]
  split
  · simp_all
  · split <;> simp_all

theorem le_int (left right : Int) :
    (Number.int left : Number F).le (.int right) = decide (left ≤ right) := by
  simp only [le, order?_int, compare, compareOfLessAndEq]
  split
  · rename_i below
    simp [Int.le_of_lt below]
  · split
    · rename_i equal
      simp [equal]
    · rename_i notBelow different
      simp
      omega

theorem same_int (left right : Int) :
    (Number.int left : Number F).same (.int right) = decide (left = right) := by
  simp only [same, order?_int, compare, compareOfLessAndEq]
  split
  · rename_i below
    simp
    omega
  · split <;> simp_all

def isZero (number : Number F) : Bool :=
  number.same 0

/-- The larger of two numbers, the first one when they do not differ. -/
def larger (left right : Number F) : Number F :=
  if left.lt right then right else left

/-- The smaller of two numbers, the first one when they do not differ. -/
def smaller (left right : Number F) : Number F :=
  if right.lt left then right else left

/-- The number as a fractional number. -/
def toReal (number : Number F) : Except NumberError F :=
  match number.view with
  | .inl value =>
      match Arithmetic.ofRat? (F := F) value with
      | some nearest => .ok nearest
      | none => .error .integerTooLarge
  | .inr value => .ok value

/-- Fails on an integer beyond the range of fractional numbers. -/
def isFinite (number : Number F) : Except NumberError Bool :=
  number.toReal.map Arithmetic.isFinite

/-- Integers are combined as integers, anything else as fractional numbers. -/
def combine (onIntegers : Int → Int → Int) (onReals : F → F → F)
    (left right : Number F) : Except NumberError (Number F) :=
  match left.view, right.view with
  | .inl leftValue, .inl rightValue => .ok (.int (onIntegers leftValue rightValue))
  | _, _ => do
      let leftValue ← left.toReal
      let rightValue ← right.toReal
      .ok (.real (onReals leftValue rightValue))

def add (left right : Number F) : Except NumberError (Number F) :=
  combine (· + ·) (· + ·) left right

theorem add_int (left right : Int) :
    (Number.int left : Number F).add (.int right) = .ok (.int (left + right)) := rfl

def sub (left right : Number F) : Except NumberError (Number F) :=
  combine (· - ·) (· - ·) left right

def mul (left right : Number F) : Except NumberError (Number F) :=
  combine (· * ·) (· * ·) left right

/-- The fractional quotient. That of two integers is rounded once, whatever their size. -/
def div (left right : Number F) : Except NumberError (Number F) :=
  match left.view, right.view with
  | .inl leftValue, .inl rightValue =>
      if rightValue = 0 then .error .divisionByZero
      else
        match Arithmetic.ofRat? (F := F) ((leftValue : Rat) / (rightValue : Rat)) with
        | some quotient => .ok (.real quotient)
        | none => .error .quotientTooLarge
  | _, _ => do
      let leftValue ← left.toReal
      let rightValue ← right.toReal
      if Arithmetic.same rightValue 0.0 then .error .divisionByZero
      else .ok (.real (leftValue / rightValue))

/-- Two to the power of a number that is not negative. -/
def twoPow (exponent : Number F) : Except NumberError (Number F) :=
  match exponent.view with
  | .inl value => .ok (.int (Decimal.twoTo value.toNat))
  | .inr value =>
      match Arithmetic.twoPow? value with
      | some power => .ok (.real power)
      | none => .error .powerTooLarge

/-- One more: the zoom that follows a zoom. -/
def next (number : Number F) : Number F :=
  match number.view with
  | .inl value => .int (value + 1)
  | .inr value => .real (value + 1.0)

/-- The least integer that is not below the number. -/
def ceil (number : Number F) : Except NumberError Int :=
  match number.view with
  | .inl value => .ok value
  | .inr value =>
      match Arithmetic.rational? value with
      | some exact => .ok exact.ceil
      | none =>
          if Arithmetic.same value value then .error .infiniteHasNoInteger
          else .error .undefinedHasNoInteger

/-- The integer nearest to a rational, of two equally near ones the even one. -/
def nearestEven (value : Rat) : Int :=
  let floor := value.floor
  let rest := value - floor
  if rest < 1 / 2 then floor
  else if 1 / 2 < rest then floor + 1
  else if floor % 2 = 0 then floor
  else floor + 1

/-- The integer nearest to the number, of two equally near ones the even one. -/
def round (number : Number F) : Except NumberError Int :=
  match number.view with
  | .inl value => .ok value
  | .inr value =>
      match Arithmetic.rational? value with
      | some exact => .ok (nearestEven exact)
      | none =>
          if Arithmetic.same value value then .error .infiniteHasNoInteger
          else .error .undefinedHasNoInteger

/-- The value of a number without a fractional part. -/
def whole? (number : Number F) : Option Int :=
  match number.view with
  | .inl value => some value
  | .inr value => Arithmetic.whole? value

/-- The number as it stands in messages. -/
def text : Number F → String
  | .flag value => if value then "True" else "False"
  | .int value => toString value
  | .real value => Arithmetic.text value

end Number

end MapStyle
