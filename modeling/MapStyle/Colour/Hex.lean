import MapStyle.Fault
import MapStyle.Text

/-!
# Colour texts and channels

A colour is a hexadecimal text with three or six digits behind a number sign, or one of four
functions of numbers. A hexadecimal colour stands for three channels between 0 and 255. Channels are
fractional while a colour is computed and are rounded half up when it is written.
-/

namespace MapStyle.Colour

set_option autoImplicit false

open MapStyle.Text

/-! ### Colour texts

The reader of a style ignores a line break at the end of a colour, so one is let through here. -/

def withoutFinalBreak (characters : List Char) : List Char :=
  if characters.getLast? = some '\n' then characters.dropLast else characters

def isHexCharacters : List Char → Bool
  | '#' :: digits => digits.all isLatinHexDigit && (digits.length == 3 || digits.length == 6)
  | _ => false

def isHex (text : String) : Bool :=
  isHexCharacters (withoutFinalBreak text.toList)

def functionNames : List String := ["rgb", "rgba", "hsl", "hsla"]

/-- One of the functions, whose closing parenthesis is the last character and the only one of its
kind. -/
def isFunctional (text : String) : Bool :=
  let characters := withoutFinalBreak text.toList
  functionNames.any fun name =>
    let opening := name.toList ++ ['(']
    let rest := characters.drop opening.length
    characters.take opening.length == opening &&
      rest.getLast? == some ')' && !rest.dropLast.contains ')'

/-- Whether a text is a colour; some settings take only hexadecimal ones. -/
def isColour (hexOnly : Bool) (text : String) : Bool :=
  isHex text || (!hexOnly && isFunctional text)

variable {F : Type}

/-- A colour as a theme gives it: a colour text, or nothing. -/
def check (setting : String) (hexOnly : Bool) : Json F → Result F (Option String)
  | .null => .ok none
  | .text value =>
      if isColour hexOnly value then .ok (some value)
      else Result.ofTheme (.invalidColour setting hexOnly value)
  | value => Result.ofTheme (.notText setting value)

/-! ### Channels -/

/-- The channels of a colour: red, green and blue. -/
structure Rgb (F : Type) where
  red : F
  green : F
  blue : F

/-- The integer that two characters stand for: hexadecimal digits, one of which may be a sign
before the other or a blank on either side. -/
def pairValue? (first second : Char) : Option Int :=
  match trimBoth isNumberBlank [first, second] with
  | [digit] => (hexDigitValue? digit).map Int.ofNat
  | [high, low] =>
      match high, hexDigitValue? high, hexDigitValue? low with
      | '+', _, some value => some value
      | '-', _, some value => some (-value)
      | _, some highValue, some lowValue => some (16 * highValue + lowValue)
      | _, _, _ => none
  | _ => none

/-- The channels of a text: three or six digits behind any number of number signs, three of them
each standing for a doubled digit. -/
def channels? (text : String) : Option (Int × Int × Int) :=
  let digits := text.toList.dropWhile (· = '#')
  let doubled := if digits.length = 3 then digits.flatMap fun digit => [digit, digit] else digits
  match doubled with
  | [red, redLow, green, greenLow, blue, blueLow] => do
      let redValue ← pairValue? red redLow
      let greenValue ← pairValue? green greenLow
      let blueValue ← pairValue? blue blueLow
      return (redValue, greenValue, blueValue)
  | _ => none

variable [Arithmetic F]

def hexToRgb (text : String) : Result F (Rgb F) := do
  match channels? text with
  | none => Result.ofTheme (.notHex text)
  | some (red, green, blue) =>
      let redValue ← (Number.int red : Number F).toReal
      let greenValue ← (Number.int green : Number F).toReal
      let blueValue ← (Number.int blue : Number F).toReal
      return ⟨redValue, greenValue, blueValue⟩

/-- The integer between 0 and 255 nearest to a channel, a half going up. -/
def quantize (channel : F) : Nat :=
  let rounded := (Arithmetic.floor? (channel + 0.5)).getD 0
  (max 0 (min 255 rounded)).toNat

theorem quantize_le (channel : F) : quantize channel ≤ 255 := by
  simp only [quantize]
  omega

/-- Any number of channels as text. -/
def channelsToHex (channels : List F) : String :=
  "#" ++ String.join (channels.map fun channel => hexText 2 (quantize channel))

def rgbToHex (colour : Rgb F) : String :=
  channelsToHex [colour.red, colour.green, colour.blue]

/-- The part of its brightness that an outline keeps of the fill it is derived from. -/
def outlineFactor : Number F := 0.75

/-- The colour with every channel multiplied by a factor. -/
def darken (text : String) (factor : Number F) : Result F String := do
  let colour : Rgb F ← hexToRgb text
  let scale ← factor.toReal
  return rgbToHex ⟨colour.red * scale, colour.green * scale, colour.blue * scale⟩

end MapStyle.Colour
