import MapStyle.Json.Token
import MapStyle.Text

/-!
# Zoom keys

A zoom level is written as a number or as a text such as `z6` or `z6_5`: digits of any script
behind an optional letter, and a fraction behind an underscore or a point. A key that is neither
names no zoom.
-/

namespace MapStyle.Zoom

set_option autoImplicit false

open MapStyle.Text

/-- The digits before and after the mark of a textual key. -/
def splitKey? (characters : List Char) : Option (List Char × Option (List Char)) :=
  let unmarked :=
    match characters with
    | 'z' :: rest => rest
    | _ => characters
  let whole := unmarked.takeWhile isDigit
  if whole.isEmpty then none
  else
    match unmarked.drop whole.length with
    | [] => some (whole, none)
    | mark :: fraction =>
        if (mark = '_' ∨ mark = '.') ∧ fraction ≠ [] ∧ fraction.all isDigit then
          some (whole, some fraction)
        else none

variable {F : Type} [Arithmetic F]

def textKey (text : String) : Except NumberError (Option (Number F)) :=
  match splitKey? (strip text) with
  | some (whole, none) =>
      if NumberError.digitLimit < whole.length then .error (.tooManyDigits whole.length)
      else .ok (some (.int (digitsValue whole)))
  | some (whole, some fraction) =>
      let exponent : Int := -(fraction.length : Int)
      .ok (some (.real (Json.decimalValue false (digitsValue (whole ++ fraction)) exponent)))
  | none => .ok none

/-- Zooms are finite and not negative; one without a fractional part is an integer. -/
def numberKey (value : Number F) : Except NumberError (Option (Number F)) :=
  if value.isFlag then .ok none
  else do
    let finite ← value.isFinite
    if !finite || value.lt 0 then .ok none
    else
      match value.whole? with
      | some whole => .ok (some (.int whole))
      | none => .ok (some value)

/-- The zoom that a key names. -/
def parseKey : Json F → Except NumberError (Option (Number F))
  | .number value => numberKey value
  | .text value => textKey value
  | _ => .ok none

end MapStyle.Zoom
