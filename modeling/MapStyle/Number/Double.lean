import MapStyle.Decimal.Shortest
import MapStyle.Number.Arithmetic

/-!
# Double-precision arithmetic

The arithmetic with which styles are written: every operation is rounded to double precision,
rationals and decimals become the nearest double, and a double is written with the fewest digits
that read back.
-/

namespace MapStyle.Double

set_option autoImplicit false

open MapStyle.Decimal

def infinity : Float := 1.0 / 0.0

def undefined : Float := 0.0 / 0.0

/-- The double nearest to a rational, unless it lies beyond the largest double. -/
def ofRat? (value : Rat) : Option Float :=
  (Binary64.nearestBits? value.num.natAbs value.den).map fun bits =>
    let magnitude := Float.ofBits (UInt64.ofNat bits)
    if value.num < 0 then -magnitude else magnitude

/-- Powers of ten beyond this one take every number past the range of doubles. -/
def decimalRange : Nat := 400

/-- The double nearest to `mantissa · 10 ^ exponent`, or to `mantissa / 10 ^ exponent` when the
exponent is marked as negative. -/
def ofDecimal (mantissa : Nat) (negativeExponent : Bool) (exponent : Nat) : Float :=
  let nearest :=
    if mantissa = 0 then some 0
    else if negativeExponent then
      if digitCount mantissa + decimalRange < exponent then some 0
      else Binary64.nearestBits? mantissa (tenTo exponent)
    else if decimalRange < exponent then none
    else Binary64.nearestBits? (mantissa * tenTo exponent) 1
  match nearest with
  | some bits => Float.ofBits (UInt64.ofNat bits)
  | none => infinity

def binary64? (value : Float) : Option Binary64 :=
  Binary64.ofBits? value.toBits.toNat

def order? (left right : Float) : Option Ordering :=
  if left < right then some .lt
  else if right < left then some .gt
  else if left == right then some .eq
  else none

def twoPow? (exponent : Float) : Option Float :=
  let power := Float.pow 2.0 exponent
  if power.isInf && exponent.isFinite then none else some power

def text (value : Float) : String :=
  match binary64? value with
  | some parts => (if parts.negative then "-" else "") ++ standard.write (shortest parts)
  | none => if value.isNaN then "nan" else if value < 0.0 then "-inf" else "inf"

instance : Arithmetic Float where
  ofScientific := ofDecimal
  ofRat? := ofRat?
  rational? value := (binary64? value).map Binary64.toRat
  order? := order?
  twoPow? := twoPow?
  text := text

end MapStyle.Double
