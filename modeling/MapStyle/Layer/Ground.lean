import MapStyle.Expr.ClassColour
import MapStyle.Expr.Filter
import MapStyle.Expr.Width
import MapStyle.Layer.Plan

/-!
# Background, land and water

The background, the areas of land cover, land use and water, and the lines of waterways. The layers
of the whole world change from the coarse to the middle source at zoom 6, with half a zoom in common
so that there is no gap while tiles load; the regional layers lie on top of them.
-/

namespace MapStyle

set_option autoImplicit false

variable {F : Type} [Arithmetic F]

/-- The zoom at which the coarse source ends, half a zoom after the middle one starts. -/
def coarseEnd : Number F := 6.5

namespace Ground

open Property (fixed computed)

def background (theme : Theme F) : List (DrawStep F) :=
  [.draw
    { id := "background"
      kind := .background
      paint := [fixed "background-color" (Expr.ofText? theme.colours.background)] }]

/-- Ice has layers of its own when it is drawn. -/
def landcoverFilter (theme : Theme F) : Expr F :=
  if theme.enabled .ice then Expr.unequal (.get "class") "ice" else .bool true

def opacity (config : LandConfig) (setting : Option (Number F)) : Expr F :=
  if config.transparent then 0 else Expr.ofNumber? setting

def landcover (theme : Theme F) (id source : String) (minZoom maxZoom : Option (Number F)) :
    DrawStep F :=
  .draw
    { id, minZoom, maxZoom
      kind := .fill
      source := source
      sourceLayer := "landcover"
      filter := landcoverFilter theme
      paint := [
        computed "fill-color" theme.landcoverFill,
        fixed "fill-opacity" (opacity theme.resolveLand theme.opacities.landcover),
        computed "fill-outline-color" theme.landcoverFill] }

def landuse (theme : Theme F) (id source : String) (minZoom maxZoom : Option (Number F)) :
    DrawStep F :=
  .draw
    { id, minZoom, maxZoom
      kind := .fill
      source := source
      sourceLayer := "landuse"
      paint := [
        computed "fill-color" theme.landuseFill,
        fixed "fill-opacity" (opacity theme.resolveLanduse theme.opacities.landuse)] }

def world (theme : Theme F) : List (DrawStep F) :=
  [landcover theme "landcover-world" "world_low" (some 0) (some coarseEnd),
    landcover theme "landcover-world-mid" "world_mid" (some 6) none,
    landuse theme "landuse-world" "world_low" (some 0) (some coarseEnd),
    landuse theme "landuse-world-mid" "world_mid" (some 6) none]

def regional (theme : Theme F) : List (DrawStep F) :=
  [landcover theme "landcover-us" "us_high" (some 6) none,
    landuse theme "landuse-us" "us_high" (some 6) none]

end Ground

namespace Water

open Property (fixed computed)

/-- How opaque water areas are unless they are transparent. -/
def areaOpacity : Expr F := 0.85

def area (theme : Theme F) (id source : String) (minZoom maxZoom : Option (Number F)) :
    DrawStep F :=
  .draw
    { id, minZoom, maxZoom
      kind := .fill
      source := source
      sourceLayer := "water"
      paint := [
        computed "fill-color" theme.waterFill,
        fixed "fill-opacity" (if theme.resolveWater.transparent then 0 else areaOpacity)] }

def waterway (theme : Theme F) (id source : String) (widths : List (Number F × Expr F))
    (minZoom maxZoom : Option (Number F)) : DrawStep F :=
  .draw
    { id, minZoom, maxZoom
      kind := .line
      source := source
      sourceLayer := "waterway"
      paint := [
        computed "line-color" theme.waterwayLine,
        fixed "line-opacity" (if theme.resolveWater.transparentWaterway then 0 else 1.0),
        computed "line-width" (Expr.zoomStops theme.widths.waterLine widths)] }

def world (theme : Theme F) : List (DrawStep F) :=
  [area theme "water-world" "world_low" (some 0) (some coarseEnd),
    area theme "water-world-mid" "world_mid" (some 6) none,
    waterway theme "waterway-world" "world_low" [(0, 0.1), (6, 0.4)] (some 0) (some coarseEnd),
    waterway theme "waterway-world-mid" "world_mid" [(6, 0.4), (10, 0.8)] (some 6) none]

def regional (theme : Theme F) : List (DrawStep F) :=
  [area theme "water-us" "us_high" (some 6) none,
    waterway theme "waterway-us" "us_high" [(6, 0.2), (12, 0.6), (15, 1.0)] (some 6) none]

end Water

end MapStyle
