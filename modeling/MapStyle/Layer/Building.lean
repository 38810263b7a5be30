import MapStyle.Expr.ClassColour
import MapStyle.Expr.Width
import MapStyle.Layer.Plan

/-!
# Buildings

Footprints of buildings, coloured by height. With a largest zoom they keep their opacity up to it
and fade out over the zoom that follows.
-/

namespace MapStyle.Building

set_option autoImplicit false

open Property (fixed computed)

variable {F : Type} [Arithmetic F]

/-- The opacity of buildings that are drawn from a zoom on, until after the largest zoom. -/
def fade (opacity : Option (Number F)) (minZoom maxZoom : Number F) : Result F (Expr F) :=
  Expr.zoomFade minZoom maxZoom (Expr.ofNumber? opacity) (Expr.ofNumber? opacity)

def plan (theme : Theme F) (id : String) (minZoom : Option (Number F))
    (maxZoom : Option (Number F)) (opacity : Result F (Expr F)) : LayerPlan F :=
  { id, minZoom, maxZoom
    kind := .fill
    source := "us_high"
    sourceLayer := "building"
    paint := [
      computed "fill-color" (theme.buildingFill theme.resolveBuildings.heightColoursMinZoom),
      fixed "fill-outline-color" (Expr.ofText? theme.colours.building.outline),
      computed "fill-opacity" opacity] }

/-- The layer of buildings from a zoom on. There is none if buildings are switched off or gone
before they start. -/
def stepsFrom (theme : Theme F) (id : String) (minZoom : Option (Number F)) :
    List (DrawStep F) :=
  let config := theme.resolveBuildings
  let opacity := theme.opacities.building
  if !config.enabled then []
  else
    match config.maxZoom, minZoom with
    | none, _ => [.draw (plan theme id minZoom none (.ok (Expr.ofNumber? opacity)))]
    | some maxZoom, some least =>
        if maxZoom.next.le least then []
        else
          let faded := fade opacity least maxZoom
          [.need faded, .draw (plan theme id least maxZoom.next faded)]
    | some _, none => [.check (Result.ofTheme (.missing "buildings.min_zoom"))]

/-- The buildings of the region, from the zoom that the theme sets. -/
def regional (theme : Theme F) : List (DrawStep F) :=
  stepsFrom theme "building" theme.resolveBuildings.minZoom

/-- The zoom from which buildings are drawn over regional land. -/
def overlayMinZoom : Number F := 13

def overlay (theme : Theme F) : List (DrawStep F) :=
  stepsFrom theme "building-us" (some overlayMinZoom)

end MapStyle.Building
