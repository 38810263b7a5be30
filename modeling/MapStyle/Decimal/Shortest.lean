import MapStyle.Decimal.Binary64

/-!
# The shortest decimal of a double

Every real number in a small interval around a double reads back as that double. The decimal
chosen here is, of those inside the interval, one with the fewest digits, and of these the one
nearest to the double. It is found by looking at the two neighbours of the double on the decimal
grids with one, two, three and more digits; seventeen digits always suffice. Numbers of moderate
size are written with a point and at least one digit on either side of it, all others with an
exponent of at least two digits.
-/

namespace MapStyle.Decimal

set_option autoImplicit false

/-- The decimal number `digits · 10 ^ exponent`. -/
structure Digits where
  digits : Nat
  exponent : Int
  deriving DecidableEq, Repr

/-- The number of decimal digits; one for zero. -/
def digitCount (value : Nat) : Nat :=
  (Nat.toDigits 10 value).length

/-- Bounds of the reals that round to a double, in units of a quarter of its last place. The
step below a power of two is half as wide as the step above it. -/
structure Interval where
  low : Nat
  centre : Nat
  high : Nat
  closed : Bool
  deriving Repr

def Interval.ofDouble (value : Binary64) : Interval :=
  let atBoundary :=
    value.significand = twoTo 52 ∧ value.exponent ≠ Binary64.leastExponent
  { low := 4 * value.significand - (if atBoundary then 1 else 2)
    centre := 4 * value.significand
    high := 4 * value.significand + 2
    closed := value.significand % 2 = 0 }

/-- The value `amount · 2 ^ binary / 10 ^ decimal` as a quotient. -/
def scaled (amount : Nat) (binary decimal : Int) : Nat × Nat :=
  (amount * twoTo binary.toNat * tenTo (-decimal).toNat,
    twoTo (-binary).toNat * tenTo decimal.toNat)

/-- The exponent of the leading decimal digit of a positive quotient. -/
def leadingExponent (numerator denominator : Nat) : Int :=
  if denominator ≤ numerator then ((digitCount (numerator / denominator) - 1 : Nat) : Int)
  else
    let reciprocal := (denominator + numerator - 1) / numerator
    Int.negOfNat (digitCount (reciprocal - 1))

/-- The neighbour of a double on the decimal grid with unit `10 ^ decimal` that reads back as the
double: of two the nearer one, and the even one if both are equally near. -/
def gridPoint? (interval : Interval) (binary decimal : Int) : Option Nat :=
  let (low, _) := scaled interval.low binary decimal
  let (centre, unit) := scaled interval.centre binary decimal
  let (high, _) := scaled interval.high binary decimal
  let below := centre / unit
  let above := below + 1
  let holds := fun point : Nat =>
    if interval.closed then low ≤ point * unit ∧ point * unit ≤ high
    else low < point * unit ∧ point * unit < high
  let belowHolds := decide (holds below)
  let aboveHolds := decide (holds above)
  match belowHolds, aboveHolds with
  | true, true =>
      let toBelow := centre - below * unit
      let toAbove := above * unit - centre
      if toBelow < toAbove then some below
      else if toAbove < toBelow then some above
      else some (below + below % 2)
  | true, false => some below
  | false, true => some above
  | false, false => none

def stripZeros : Nat → Digits → Digits
  | 0, decimal => decimal
  | fuel + 1, decimal =>
      if decimal.digits % 10 = 0 ∧ decimal.digits ≠ 0 then
        stripZeros fuel ⟨decimal.digits / 10, decimal.exponent + 1⟩
      else decimal

/-- The most digits a double can need. -/
def mostDigits : Nat := 17

/-- The shortest decimal of the magnitude of a double. -/
def shortest (value : Binary64) : Digits :=
  if value.significand = 0 then ⟨0, 0⟩
  else
    let interval := Interval.ofDouble value
    let binary := value.exponent - 2
    let (numerator, denominator) := scaled interval.centre binary 0
    let leading := leadingExponent numerator denominator
    let found := (List.range mostDigits).findSome? fun (count : Nat) =>
      let decimal := leading - (count : Int)
      (gridPoint? interval binary decimal).map fun digits => Digits.mk digits decimal
    stripZeros (mostDigits + 1) (found.getD ⟨0, 0⟩)

/-! ### Decimals as text -/

/-- How a decimal is laid out. -/
structure Layout where
  /-- Least exponent of the leading digit that is written without an exponent. -/
  leastPositional : Int
  /-- Largest exponent of the leading digit that is written without an exponent. -/
  largestPositional : Int
  /-- Least number of digits of an exponent. -/
  exponentWidth : Nat

/-- Positional from one ten-thousandth up to, and without, ten to the sixteenth. -/
def standard : Layout := ⟨-4, 15, 2⟩

def zeros (count : Nat) : String :=
  String.ofList (List.replicate count '0')

def padded (width value : Nat) : String :=
  let digits := toString value
  zeros (width - digits.length) ++ digits

/-- The text of a decimal that is not negative. -/
def Layout.write (layout : Layout) (decimal : Digits) : String :=
  let digits := (toString decimal.digits).toList
  let leading : Int := digits.length - 1 + decimal.exponent
  if leading < layout.leastPositional ∨ layout.largestPositional < leading then
    let fraction := digits.drop 1
    let mantissa :=
      String.ofList (digits.take 1) ++
        (if fraction.isEmpty then "" else "." ++ String.ofList fraction)
    let sign := if leading < 0 then "-" else "+"
    mantissa ++ "e" ++ sign ++ padded layout.exponentWidth leading.natAbs
  else if 0 ≤ decimal.exponent then
    String.ofList digits ++ zeros decimal.exponent.toNat ++ ".0"
  else if 0 ≤ leading then
    let place := (leading + 1).toNat
    String.ofList (digits.take place) ++ "." ++ String.ofList (digits.drop place)
  else
    "0." ++ zeros (-leading - 1).toNat ++ String.ofList digits

end MapStyle.Decimal
