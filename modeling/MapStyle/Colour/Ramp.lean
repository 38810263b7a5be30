import MapStyle.Colour.Hex

/-!
# Depth colours

Colours in the cylinder model of style sheets: the hue in degrees, saturation and lightness in
per cent. Seven colours for growing depth are derived there from the colour of water: its hue is
kept, its lightness scaled down and its saturation scaled up with depth, both within fixed bounds.
-/

namespace MapStyle.Colour

set_option autoImplicit false

/-! ### Hue, saturation and lightness

The order of the operations is part of the definition, since in double precision another order
would round differently. -/

structure Hsl (F : Type) where
  hue : F
  saturation : F
  lightness : F

variable {F : Type} [Arithmetic F]

open Arithmetic (lt same larger smaller)

/-- Hue in sixths of a turn, divided by six, of a colour whose channels differ. -/
def hueTurn (colour : Rgb F) (high range : F) : F :=
  if same high colour.red then
    ((colour.green - colour.blue) / range +
      (if lt colour.green colour.blue then 6.0 else 0.0)) / 6.0
  else if same high colour.green then ((colour.blue - colour.red) / range + 2.0) / 6.0
  else ((colour.red - colour.green) / range + 4.0) / 6.0

/-- The colour model's coordinates of channels between zero and one. -/
def unitToHsl (colour : Rgb F) : Hsl F :=
  let high := larger (larger colour.red colour.green) colour.blue
  let low := smaller (smaller colour.red colour.green) colour.blue
  let lightness := (high + low) / 2.0
  if same high low then ⟨0.0 * 360.0, 0.0 * 100.0, lightness * 100.0⟩
  else
    let range := high - low
    let saturation :=
      if lt 0.5 lightness then range / (2.0 - high - low) else range / (high + low)
    ⟨hueTurn colour high range * 360.0, saturation * 100.0, lightness * 100.0⟩

def hexToHsl (text : String) : Result F (Hsl F) := do
  let colour ← hexToRgb text
  return unitToHsl ⟨colour.red / 255.0, colour.green / 255.0, colour.blue / 255.0⟩

/-- A channel from the two ends of its range and a hue in turns. -/
def hueToChannel (low high turn : F) : F :=
  let raised := if lt turn 0.0 then turn + 1.0 else turn
  let turned := if lt 1.0 raised then raised - 1.0 else raised
  if lt turned (1.0 / 6.0) then low + (high - low) * 6.0 * turned
  else if lt turned (1.0 / 2.0) then high
  else if lt turned (2.0 / 3.0) then low + (high - low) * (2.0 / 3.0 - turned) * 6.0
  else low

/-- The colour of a hue in turns and a saturation and lightness between zero and one. -/
def unitFromHsl (colour : Hsl F) : Rgb F :=
  if same colour.saturation 0.0 then ⟨colour.lightness, colour.lightness, colour.lightness⟩
  else
    let high :=
      if lt colour.lightness 0.5 then colour.lightness * (1.0 + colour.saturation)
      else colour.lightness + colour.saturation - colour.lightness * colour.saturation
    let low := 2.0 * colour.lightness - high
    ⟨hueToChannel low high (colour.hue + 1.0 / 3.0),
      hueToChannel low high colour.hue,
      hueToChannel low high (colour.hue - 1.0 / 3.0)⟩

def hslToHex (hue saturation lightness : Number F) : Result F String := do
  let turn ← (← hue.div 360).toReal
  let saturationPart ← (← saturation.div 100).toReal
  let lightnessPart ← (← lightness.div 100).toReal
  let colour := unitFromHsl ⟨turn, saturationPart, lightnessPart⟩
  return rgbToHex ⟨colour.red * 255.0, colour.green * 255.0, colour.blue * 255.0⟩

/-! ### The ramp of depths -/

/-- Factors of saturation and lightness, from shallow to deep. -/
def depthFactors : List (F × F) :=
  [(1.30, 1.80), (1.35, 1.50), (1.40, 1.20), (1.45, 1.00), (1.50, 0.75), (1.55, 0.50),
    (1.60, 0.30)]

def clamp (low high value : F) : F :=
  Arithmetic.smaller (Arithmetic.larger value low) high

def bathymetryRamp (text : String) : Result F (List String) := do
  let base ← hexToHsl (F := F) text
  depthFactors.mapM fun (saturationFactor, lightnessFactor) =>
    hslToHex (.real base.hue)
      (.real (clamp 0.0 100.0 (base.saturation * saturationFactor)))
      (.real (clamp 5.0 100.0 (base.lightness * lightnessFactor)))

end MapStyle.Colour
