import MapStyle.Expr.Filter
import MapStyle.Expr.LabelText
import MapStyle.Layer.Plan

/-!
# Road names and highway shields

Names along roads in four groups, and shields with the number of a highway.
-/

namespace MapStyle

set_option autoImplicit false

open Property (fixed computed)

variable {F : Type} [Arithmetic F]

namespace RoadLabel

/-- The classes of road that one of the first three groups labels. -/
def labelledClasses : List String :=
  ["motorway", "trunk", "primary", "secondary", "tertiary", "residential"]

def group (theme : Theme F) (id : String) (minZoom : Number F) (classFilter : Expr F)
    (tone : RoadLabelTone F) (sizes : List (Expr F × Expr F)) : DrawStep F :=
  .draw
    { id
      kind := .symbol
      source := "us_high"
      sourceLayer := "transportation_name"
      minZoom := minZoom
      filter := some (Expr.allOf (Filter.atGrade ++ [classFilter, Expr.has "name"]))
      layout := [
        fixed "text-font" (Expr.texts (theme.resolveLabelFonts.road.getD [])),
        fixed "symbol-placement" "line",
        fixed "text-rotation-alignment" "map",
        fixed "text-pitch-alignment" "viewport",
        fixed "symbol-spacing" 150,
        fixed "text-field" LabelText.abbreviated,
        computed "text-size" (Expr.linear Expr.zoom sizes)]
      paint := [
        fixed "text-halo-color" (Expr.ofText? theme.colours.label.road.halo),
        fixed "text-halo-width" 1.5,
        fixed "text-halo-blur" 1,
        fixed "text-color" (Expr.ofText? tone.colour),
        fixed "text-opacity" (Expr.ofNumber? tone.opacity)] }

def steps (theme : Theme F) : List (DrawStep F) :=
  let tones := theme.colours.label.road
  [group theme "road-label-major" 8 (Expr.isOneOf "class" ["motorway", "trunk", "primary"])
      tones.major [(8, 9), (12, 11), (15, 13)],
    group theme "road-label-secondary" 10 (Expr.equal (.get "class") "secondary")
      tones.secondary [(10, 8), (12, 10), (15, 12)],
    group theme "road-label-tertiary" 12 (Expr.isOneOf "class" ["tertiary", "residential"])
      tones.tertiary [(12, 8), (15, 10)],
    group theme "road-label-other" 14
      (Expr.negated (Expr.isOneOf "class" labelledClasses))
      tones.other [(14, 7), (15, 8)]]

end RoadLabel

namespace Shield

/-- The sizes of the text: a zoom with the size there, and a larger zoom with the size there. -/
structure TextSize (F : Type) where
  minZoom : Number F
  minSize : Number F
  maxZoom : Number F
  maxSize : Number F

def standardTextSize : TextSize F := ⟨6, 9, 14, 13⟩

/-- The text size of a shield; one that is given has exactly four entries. -/
def textSize (style : ShieldStyle F) : Result F (TextSize F) :=
  match style.textSize with
  | none | some [] => .ok standardTextSize
  | some [minZoom, minSize, maxZoom, maxSize] => .ok ⟨minZoom, minSize, maxZoom, maxSize⟩
  | some entries =>
      .error (.layer (if entries.length < textSizeEntries then .tooFewTextSizes entries.length
        else .tooManyTextSizes))

def TextSize.curve (size : TextSize F) : Result F (Expr F) :=
  Expr.linear Expr.zoom
    [(.number size.minZoom, .number size.minSize), (.number size.maxZoom, .number size.maxSize)]

/-- The road networks of a kind of shield. -/
def filter (kind : ShieldKind) : Expr F :=
  let network : Expr F :=
    match kind with
    | .interstate => Expr.equal (.get "network") "us-interstate"
    | .usHighway => Expr.equal (.get "network") "us-highway"
    | .stateHighway => Expr.isOneOf "network" ["us-state", "US:US", "US"]
  Expr.allOf [Expr.has "ref", network]

def layerId : ShieldKind → String
  | .interstate => "highway-shield-interstate"
  | .usHighway => "highway-shield-us"
  | .stateHighway => "highway-shield-state"

/-- The first stack that names a font: that of the shield, the bold one, the regular one. -/
def font (theme : Theme F) (style : ShieldStyle F) : FontStack :=
  ((givenFonts? style.textFont).or (givenFonts? theme.fonts.bold)).getD theme.fonts.regular

/-- A shield starts when both its own least zoom and that of all shields are reached. -/
def minZoom (config : ShieldsConfig F) (style : ShieldStyle F) : Result F (Number F) := do
  let own ← Result.require "shield.min_zoom" style.minZoom
  let shared ← Result.require "shields.min_zoom" config.minZoom
  return own.larger shared

def plan (theme : Theme F) (kind : ShieldKind) (style : ShieldStyle F) (size : TextSize F)
    (minZoom : Number F) : LayerPlan F where
  id := layerId kind
  kind := .symbol
  source := "us_high"
  sourceLayer := "transportation_name"
  minZoom := minZoom
  filter := some (filter kind)
  layout := [
    fixed "symbol-placement" "line",
    fixed "icon-rotation-alignment" "viewport",
    fixed "text-rotation-alignment" "viewport",
    fixed "icon-pitch-alignment" "viewport",
    fixed "text-pitch-alignment" "viewport",
    fixed "symbol-spacing" 400,
    fixed "text-field" (.get "ref"),
    fixed "icon-text-fit" "both",
    computed "icon-size" (Expr.linear Expr.zoom [(6, 0.8), (10, 1.0), (14, 1.2)]),
    fixed "text-letter-spacing" 0.05,
    fixed "icon-image" (Expr.ofText? style.sprite),
    fixed "icon-text-fit-padding" (.list (style.textPadding.map .number)),
    computed "text-size" size.curve,
    fixed "text-font" (Expr.texts (font theme style))]
  paint := [fixed "text-color" (Expr.ofText? style.textColour)]

def kindSteps (theme : Theme F) (config : ShieldsConfig F) (kind : ShieldKind) :
    List (DrawStep F) :=
  let style := config.style kind
  if !style.enabled then []
  else
    match textSize style, minZoom config style with
    | .ok size, .ok least => [.draw (plan theme kind style size least)]
    | .error fault, _ => [.check (.error fault)]
    | _, .error fault => [.check (.error fault)]

def steps (theme : Theme F) : List (DrawStep F) :=
  DrawStep.ofDomain theme.shields (·.enabled) fun config =>
    ShieldKind.all.flatMap (kindSteps theme config)

end Shield

end MapStyle
