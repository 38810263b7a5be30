import MapStyle.Colour.Density
import MapStyle.Expr.Width
import MapStyle.Layer.Plan

/-!
# Populated places

Areas of incorporated places, coloured by the density of their population and more opaque where
more people live. Both numbers are given to the renderer when a map is shown; until then, and for
places without them, flat colours hold.
-/

namespace MapStyle.Population

set_option autoImplicit false

open Property (fixed computed)

variable {F : Type} [Arithmetic F]

def sourceName : String := "places-source"

/-- Colours for a theme that has none of its own. -/
def standardColours : DensityColours F where
  fallbackFill := "#ecda9a"
  fallbackOutline := none
  ranges := [
    ⟨100, "#efc47e", none⟩,
    ⟨300, "#f3ad6a", none⟩,
    ⟨1000, "#f7945d", none⟩,
    ⟨2000, "#f97b57", none⟩,
    ⟨5000, "#f66356", none⟩,
    ⟨10000, "#ee4d5a", none⟩]

/-- What is added to the opacity, as a part of it, at numbers of people. -/
def boosts : List (Expr F × Expr F) :=
  [(0, 0), (10000, 0.05), (50000, 0.1), (100000, 0.15), (500000, 0.2)]

/-- The zooms between which areas replace the markers of places. -/
def fadeStart : Expr F := 5

def fadeEnd : Expr F := 6.5

/-- The opacity times one plus the boost, rising from nothing. The zoom may only be the input of
the outermost curve, so the boosted opacity is the upper stop of that curve. -/
def fillOpacity (opacity : Expr F) : Result F (Expr F) := do
  let people := Expr.featureState "pop_total"
  let byPeople ← Expr.linear people boosts
  let boost := Expr.caseNode [(Expr.unequal people .null, byPeople)] 0
  Expr.linear Expr.zoom
    [(fadeStart, 0), (fadeEnd, Expr.product [opacity, Expr.sum [1.0, boost]])]

def fill (config : PlacesConfig F) (colours : DensityColours F) : LayerPlan F where
  id := "places-fill"
  kind := .fill
  source := sourceName
  sourceLayer := "places"
  minZoom := config.minZoom
  filter := some (Expr.allOf [Expr.has "GEOID"])
  paint := [
    computed "fill-color" (colours.colourExpr (Expr.ofText? config.fill.colour) false),
    computed "fill-opacity" (fillOpacity (Expr.ofNumber? config.fill.opacity)),
    fixed "fill-antialias" (.bool false)]

def outline (config : PlacesConfig F) (colours : DensityColours F) : LayerPlan F where
  id := "places-outline"
  kind := .line
  source := sourceName
  sourceLayer := "places"
  minZoom := config.minZoom
  filter := some (Expr.allOf [Expr.has "GEOID"])
  paint := [
    computed "line-color" (colours.colourExpr (Expr.ofText? config.outline.colour) true),
    computed "line-width"
      (Expr.zoomStops config.outline.width [(5, 0.5), (10, 1.0), (15, 1.5)]),
    fixed "line-opacity" (Expr.ofNumber? config.outline.opacity)]

def draw (config : PlacesConfig F) : List (DrawStep F) :=
  let colours := config.densityColours.getD standardColours
  [.draw (fill config colours), .draw (outline config colours)]

def steps (theme : Theme F) : List (DrawStep F) :=
  DrawStep.ofDomain theme.places (·.enabled) draw

end MapStyle.Population
