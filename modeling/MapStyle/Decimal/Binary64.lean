/-!
# Double-precision numbers as exact values

A finite double is a significand times a power of two. The module reads that form off the 64
bits and finds the bits of the double nearest to a positive quotient: of two equally near
doubles the one with the even significand, and no double where the nearest one would need an
exponent beyond the format.
-/

namespace MapStyle.Decimal

set_option autoImplicit false

/-! ### Powers of two and ten

Doubles are written in powers of two, texts in powers of ten. -/

def twoTo (exponent : Nat) : Nat :=
  Nat.pow 2 exponent

def tenTo (exponent : Nat) : Nat :=
  Nat.pow 10 exponent

theorem twoTo_pos (exponent : Nat) : 0 < twoTo exponent :=
  Nat.pow_pos (by decide)

theorem tenTo_pos (exponent : Nat) : 0 < tenTo exponent :=
  Nat.pow_pos (by decide)

/-! ### Doubles -/

/-- The value `±significand · 2 ^ exponent`. -/
structure Binary64 where
  negative : Bool
  significand : Nat
  exponent : Int
  deriving DecidableEq, Repr

/-- The quotient rounded to the nearest integer, a half to the even neighbour. -/
def roundHalfEven (numerator denominator : Nat) : Nat :=
  let quotient := numerator / denominator
  let twice := 2 * (numerator % denominator)
  if twice < denominator then quotient
  else if denominator < twice then quotient + 1
  else quotient + quotient % 2

namespace Binary64

/-- The least exponent of the format. -/
def leastExponent : Int := -1074

/-- The exponent field of infinities and undefined results. -/
def reservedField : Nat := 2047

/-- The finite double with the given bits. -/
def ofBits? (bits : Nat) : Option Binary64 :=
  let field := bits / twoTo 52 % twoTo 11
  let fraction := bits % twoTo 52
  let negative := decide (twoTo 63 ≤ bits)
  if field = reservedField then none
  else if field = 0 then some ⟨negative, fraction, leastExponent⟩
  else some ⟨negative, twoTo 52 + fraction, (field : Int) - 1075⟩

/-- The largest exponent of a power of two that is at most the quotient of positive numbers. -/
def floorLog2 (numerator denominator : Nat) : Int :=
  let guess : Int := (numerator.log2 : Int) - (denominator.log2 : Int)
  let reached :=
    if 0 ≤ guess then decide (denominator * twoTo guess.toNat ≤ numerator)
    else decide (denominator ≤ numerator * twoTo (-guess).toNat)
  if reached then guess else guess - 1

/-- The bits of the double nearest to a quotient that is not negative. The significand is added
to the exponent field as a number, so a significand that rounds up to the next power of two
carries into the exponent. -/
def nearestBits? (numerator denominator : Nat) : Option Nat :=
  if numerator = 0 then some 0
  else
    let exponent := max leastExponent (floorLog2 numerator denominator - 52)
    let significand :=
      if 0 ≤ exponent then roundHalfEven numerator (denominator * twoTo exponent.toNat)
      else roundHalfEven (numerator * twoTo (-exponent).toNat) denominator
    let bits := (exponent - leastExponent).toNat * twoTo 52 + significand
    if bits < reservedField * twoTo 52 then some bits else none

/-- The exact value. -/
def toRat (value : Binary64) : Rat :=
  let signed : Int := if value.negative then -value.significand else value.significand
  if 0 ≤ value.exponent then (signed * twoTo value.exponent.toNat : Int)
  else mkRat signed (twoTo (-value.exponent).toNat)

end Binary64

end MapStyle.Decimal
