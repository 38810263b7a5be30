import MapStyle.Expr.LabelText
import MapStyle.Layer.Road

/-!
# Airports

Long runways from zoom 6 on, all runways and aprons from zoom 8, taxiways from zoom 10, helipads
from zoom 13, and the names of airports in two sizes.
-/

namespace MapStyle.Airport

set_option autoImplicit false

open Property (fixed computed)

variable {F : Type} [Arithmetic F]

/-- The zooms of the two sizes of a name that is given as a range. -/
def labelMinZoom : Number F := 8

def labelMaxZoom : Number F := 13

def label (theme : Theme F) (style : AerowayLabelStyle F) (id : String)
    (size : Result F (Expr F)) (padding : Expr F) (minZoom : Number F)
    (maxZoom : Option (Number F)) : DrawStep F :=
  .draw
    { id, maxZoom
      kind := .symbol
      source := "aeroway-world"
      -- The areas of aprons stand in for airports.
      sourceLayer := "apron_polys"
      minZoom := minZoom
      filter := some (Expr.has "name")
      layout := [
        fixed "text-field" LabelText.name,
        fixed "text-font" (Expr.texts theme.fonts.regular),
        computed "text-size" size,
        fixed "text-anchor" "center",
        fixed "text-optional" (.bool true),
        fixed "text-allow-overlap" (.bool false),
        -- Names of airports do not hide the icons of points of interest.
        fixed "text-ignore-placement" (.bool true),
        fixed "text-padding" padding,
        fixed "symbol-placement" "point"]
      paint := [
        fixed "text-color" (Expr.ofText? style.colour),
        fixed "text-halo-color" (Expr.ofText? style.haloColour),
        fixed "text-halo-width" (Expr.ofNumber? style.haloWidth),
        fixed "text-halo-blur" 1,
        fixed "text-opacity" (Expr.ofNumber? style.opacity)] }

def area (id sourceLayer : String) (kind : LayerKind) (minZoom : Number F)
    (layout paint : List (Property F)) : LayerPlan F :=
  { id, kind, layout, paint, sourceLayer
    source := "aeroway-world"
    minZoom := minZoom }

def linePaint (colour : Option String) (width opacity : Option (Number F)) :
    List (Property F) :=
  [fixed "line-color" (Expr.ofText? colour),
    fixed "line-width" (Expr.ofNumber? width),
    fixed "line-opacity" (Expr.ofNumber? opacity)]

def longRunways (style : RunwayStyle F) : LayerPlan F :=
  { area "aeroway-runway-major" "runway_lines" .line 6 Road.roundLine
      (linePaint style.colour style.width style.opacity) with
    maxZoom := some 8
    filter := Expr.allOf
      [Expr.has "length", Expr.atLeast (.get "length") (Expr.ofNumber? style.majorLength)] }

def draw (theme : Theme F) (config : AerowayConfig F) : List (DrawStep F) :=
  let runway := config.runway
  let apron := config.apron
  let taxiway := config.taxiway
  let helipad := config.helipad
  let majorSize :=
    Expr.rangeValue config.label.majorSize labelMinZoom labelMaxZoom (.ofNumbers 10 12)
  let detailedSize :=
    Expr.rangeValue config.label.detailedSize labelMinZoom labelMaxZoom (.ofNumbers 12 14)
  [.draw (longRunways runway),
    .draw (area "aeroway-runway-all" "runway_lines" .line 8 Road.roundLine
      (linePaint runway.colour runway.width runway.opacity)),
    .draw (area "aeroway-apron-fill" "apron_polys" .fill 8 []
      [fixed "fill-color" (Expr.ofText? apron.fillColour),
        fixed "fill-opacity" (Expr.ofNumber? apron.fillOpacity)]),
    .draw (area "aeroway-apron-outline" "apron_polys" .line 8 Road.roundLine
      (linePaint apron.outlineColour apron.outlineWidth apron.fillOpacity)),
    .draw (area "aeroway-taxiway" "taxiway_lines" .line 10 Road.roundLine
      (linePaint taxiway.colour taxiway.width taxiway.opacity)),
    .draw (area "aeroway-helipad-fill" "helipad_points" .circle 13 []
      [fixed "circle-color" (Expr.ofText? helipad.fillColour),
        fixed "circle-opacity" (Expr.ofNumber? helipad.fillOpacity),
        fixed "circle-radius" (Expr.ofNumber? helipad.size),
        fixed "circle-stroke-color" (Expr.ofText? helipad.outlineColour),
        fixed "circle-stroke-width" (Expr.ofNumber? helipad.outlineWidth),
        fixed "circle-stroke-opacity" (Expr.ofNumber? helipad.fillOpacity)]),
    label theme config.label "aeroway-label-major" majorSize 50 8 (some 10),
    label theme config.label "aeroway-label-detailed" detailedSize 30 13 none]

def steps (theme : Theme F) : List (DrawStep F) :=
  DrawStep.ofDomain theme.aeroway (·.enabled) (draw theme)

end MapStyle.Airport
