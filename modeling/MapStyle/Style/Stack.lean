import MapStyle.Layer.Airport
import MapStyle.Layer.Boundary
import MapStyle.Layer.Depth
import MapStyle.Layer.Graticule
import MapStyle.Layer.Ground
import MapStyle.Layer.Height
import MapStyle.Layer.PoiLabel
import MapStyle.Layer.Population
import MapStyle.Layer.RoadLabel
import MapStyle.Layer.Settlement
import MapStyle.Layer.WaterLabel

/-!
# The stack of layers

All layers of a style from back to front. The background, land, water and what lies in the ocean
come first, then boundaries, ice and the graticule, the roads, and at last all texts, with points
of interest on top. Boundaries that water hides lie below it.
-/

namespace MapStyle

set_option autoImplicit false

variable {F : Type} [Arithmetic F]

namespace Stack

/-- Steps that are only taken if they are wanted. -/
def when (wanted : Bool) (steps : List (DrawStep F)) : List (DrawStep F) :=
  if wanted then steps else []

/-- What lies below water. -/
def ground (theme : Theme F) : List (DrawStep F) :=
  Ground.background theme ++ Hillshade.steps theme ++ Ground.world theme

def water (theme : Theme F) : List (DrawStep F) :=
  Water.world theme ++ Water.regional theme ++ Depth.steps theme ++ Contour.steps theme

/-- What lies above water and below regional land. -/
def surface (theme : Theme F) : List (DrawStep F) :=
  Ice.steps theme ++ Graticule.steps theme ++ Road.world theme ++ Road.regional theme ++
    Ground.regional theme

def overlay (theme : Theme F) : List (DrawStep F) :=
  Road.overlay theme ++ Airport.steps theme

def texts (theme : Theme F) : List (DrawStep F) :=
  RoadLabel.steps theme ++ Shield.steps theme ++ WaterLabel.global theme ++
    WaterLabel.basemap theme ++ WaterLabel.waterways theme ++ Settlement.steps theme ++
    PoiLabel.steps theme

def steps (theme : Theme F) : List (DrawStep F) :=
  let hidden := theme.resolveBoundary.hideOverWater
  ground theme ++
    when hidden (Boundary.world theme ++ Boundary.regional theme) ++
    water theme ++
    when (!hidden) (Boundary.world theme) ++
    surface theme ++
    when (!hidden) (Boundary.regional theme) ++
    overlay theme ++
    texts theme

end Stack

/-- All layers of a theme, from back to front. -/
def Theme.layers (theme : Theme F) : Result F (List (Layer F)) :=
  DrawStep.compile (Stack.steps theme)

/-- The areas of places as layers. -/
def Theme.placesLayers (theme : Theme F) : Result F (List (Layer F)) :=
  DrawStep.compile (Population.steps theme)

/-- Puts the areas of places in front of the first name of a place, or on top of everything if
the theme wants them above names or there is no such name. -/
def Theme.insertPlaces (theme : Theme F) (layers : List (Layer F)) :
    Result F (List (Layer F)) := do
  let places ← theme.placesLayers
  if theme.places.any (·.renderAboveLabels) then return layers ++ places
  let isPlaceName (layer : Layer F) : Bool := (Settlement.ids theme).contains layer.id
  let below := layers.takeWhile fun layer => !isPlaceName layer
  return below ++ places ++ layers.drop below.length

end MapStyle
