import MapStyle.Json.Token
import MapStyle.Text

/-!
# Fractional numbers as words

A number on a command line: a decimal with an optional sign, fraction and exponent, or the name of
a number that is not finite. Digits may be of any script, single underscores may stand between
them, and blanks around the number do not count.
-/

namespace MapStyle.Number

set_option autoImplicit false

open MapStyle.Text

/-- The characters without underscores, if every underscore stands between two digits; `before`
tells whether a digit comes before the characters. -/
def withoutUnderscores? (before : Bool) : List Char → Option (List Char)
  | [] => some []
  | '_' :: rest =>
      if before && rest.head?.any isDigit then withoutUnderscores? false rest else none
  | character :: rest => (withoutUnderscores? (isDigit character) rest).map (character :: ·)

/-- A digit of any script as the basic one of its value. -/
def basicDigit (character : Char) : Char :=
  match digitValue? character with
  | some value => Char.ofNat (48 + value)
  | none => character

/-- A sign and what follows it. -/
def signOf : List Char → Bool × List Char
  | '-' :: rest => (true, rest)
  | '+' :: rest => (false, rest)
  | rest => (false, rest)

/-- The exponent of a decimal, if nothing or an exponent is all that is left of it. -/
def wholeExponent? (characters : List Char) : Option Int :=
  if characters.isEmpty then some 0
  else
    match Json.exponentPart characters with
    | some (negative, digits, []) =>
        let value : Int := digitsValue digits
        some (if negative then -value else value)
    | _ => none

variable {F : Type} [Arithmetic F]

/-- The value of a decimal without a sign; it has a digit before or after its point. -/
def magnitude? (characters : List Char) : Option F :=
  let whole := characters.takeWhile Json.isLatinDigit
  let rest := characters.drop whole.length
  let behindPoint :=
    match rest with
    | '.' :: tail => tail
    | _ => []
  let fraction := behindPoint.takeWhile Json.isLatinDigit
  let tail :=
    match rest with
    | '.' :: _ => behindPoint.drop fraction.length
    | _ => rest
  if whole.isEmpty && fraction.isEmpty then none
  else (wholeExponent? tail).map fun exponent =>
    Json.decimalValue false (digitsValue (whole ++ fraction)) (exponent - fraction.length)

def infinite : F := OfScientific.ofScientific 1 false 1000

/-- The number that a word stands for. -/
def readReal? (word : String) : Option F := do
  let characters :=
    (← withoutUnderscores? false (trimBoth isNumberBlank word.toList)).map basicDigit
  let (negative, unsigned) := signOf characters
  let name := String.ofList (unsigned.map Char.toLower)
  let magnitude ←
    if name = "inf" ∨ name = "infinity" then some infinite
    else if name = "nan" then some (infinite - infinite)
    else magnitude? unsigned
  return if negative then -magnitude else magnitude

end MapStyle.Number
