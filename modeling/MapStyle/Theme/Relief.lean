import MapStyle.Theme.Description

/-!
# Depth, height, ice and light

The optional domains that show the shape of land and sea: bands of ocean depth, contour lines,
ice, and hill shading.
-/

namespace MapStyle

set_option autoImplicit false

/-- Bands of ocean depth. Without colours of their own the bands are coloured by a ramp that is
derived from the colour of water. -/
structure BathymetryConfig (F : Type) where
  enabled : Bool
  minZoom : Option (Number F)
  maxZoom : Option (Number F)
  opacity : ValueRange F
  colours : Option (List (String × Option String))
  depthOpacities : Option (List (String × Option (Number F)))

structure ContourStyle (F : Type) where
  colour : Option String
  width : ValueRange F
  opacity : Option (Number F)
  minZoom : Option (Number F)

structure ContoursConfig (F : Type) where
  enabled : Bool
  minZoom : Option (Number F)
  maxZoom : Option (Number F)
  major : ContourStyle F
  minor : ContourStyle F

structure IceFill (F : Type) where
  colour : Option String
  opacity : Option (Number F)

structure IceEdge (F : Type) where
  enabled : Bool
  colour : Option String
  width : Option (Number F)
  opacity : Option (Number F)

structure IceConfig (F : Type) where
  enabled : Bool
  minZoom : Option (Number F)
  maxZoom : Option (Number F)
  opacity : ValueRange F
  glaciated : IceFill F
  iceShelves : IceFill F
  iceEdge : Option (IceEdge F)

structure HillshadeConfig (F : Type) where
  enabled : Bool
  minZoom : Option (Number F)
  maxZoom : Option (Number F)
  opacity : Option (Number F)
  exaggeration : Option (Number F)
  illuminationDirection : Option (Number F)
  illuminationAnchor : Option String
  shadowColour : Option String
  highlightColour : Option String
  accentColour : Option String

variable {F : Type} [Arithmetic F]

/-- The opacity at the largest zoom of a domain is above zero. -/
def checkVisible (setting : String) (range : ValueRange F) : Result F Unit := do
  let largest ← Result.require setting range.atMax
  if largest.le 0 then Result.ofTheme (.neverVisible setting)

namespace BathymetryConfig

def standardOpacity : ValueRange F :=
  .ofNumbers 0.7 0.9

/-- The bounds are checked before the colours and opacities of single bands. -/
def read (description : Description F) : Result F (BathymetryConfig F) := do
  let enabled ← description.switch "enabled" true
  let minZoom ← description.number "min_zoom" (some 0)
  let maxZoom ← description.number "max_zoom" (some 6)
  let opacity ← description.part "opacity" standardOpacity ValueRange.read
  checkZoomRange "bathymetry" minZoom maxZoom
  checkOpacity "bathymetry.opacity.min" opacity.atMin
  checkOpacity "bathymetry.opacity.max" opacity.atMax
  checkVisible "bathymetry.opacity.max" opacity
  let colours ← description.setting "colors" none (Description.orOpen
    (Description.readTable "colors" fun band =>
      Colour.check ("bathymetry.colors." ++ band) false))
  let depthOpacities ← description.setting "depth_opacities" none (Description.orOpen
    (Description.readTable "depth_opacities" fun band value => do
      let found ← Description.orOpen (Description.readNumber "depth_opacities") value
      checkOpacity ("bathymetry.depth_opacities." ++ band) found
      return found))
  return { enabled, minZoom, maxZoom, opacity, colours, depthOpacities }

def toJson (config : BathymetryConfig F) : Json F :=
  .object [
    ("enabled", .bool config.enabled),
    ("min_zoom", .ofNumber? config.minZoom),
    ("max_zoom", .ofNumber? config.maxZoom),
    ("opacity", config.opacity.toJson),
    ("colors", .ofOption .ofColours config.colours),
    ("depth_opacities", .ofOption
      (fun opacities => .object (opacities.map fun entry => (entry.1, .ofNumber? entry.2)))
      config.depthOpacities)]

end BathymetryConfig

namespace ContourStyle

def read (description : Description F) : Result F (ContourStyle F) := do
  return {
    colour := ← description.mandatoryText "color"
    width := ← description.mandatoryPart "width" ValueRange.read
    opacity := ← description.mandatoryNumber "opacity"
    minZoom := ← description.number "min_zoom" none }

def toJson (style : ContourStyle F) : Json F :=
  .object [
    ("color", .ofText? style.colour),
    ("width", style.width.toJson),
    ("opacity", .ofNumber? style.opacity),
    ("min_zoom", .ofNumber? style.minZoom)]

end ContourStyle

namespace ContoursConfig

def standard : ContoursConfig F where
  enabled := true
  minZoom := none
  maxZoom := some 12
  major := ⟨"#4a5568", .ofNumbers 0.5 1.5, some 0.6, none⟩
  minor := ⟨"#3a4455", .ofNumbers 0.25 0.75, some 0.4, none⟩

def read (description : Description F) : Result F (ContoursConfig F) := do
  return {
    enabled := ← description.switch "enabled" true
    minZoom := ← description.number "min_zoom" none
    maxZoom := ← description.number "max_zoom" standard.maxZoom
    major := ← description.part "major" standard.major ContourStyle.read
    minor := ← description.part "minor" standard.minor ContourStyle.read }

def toJson (config : ContoursConfig F) : Json F :=
  .object [
    ("enabled", .bool config.enabled),
    ("min_zoom", .ofNumber? config.minZoom),
    ("max_zoom", .ofNumber? config.maxZoom),
    ("major", config.major.toJson),
    ("minor", config.minor.toJson)]

end ContoursConfig

namespace IceFill

def read (description : Description F) : Result F (IceFill F) := do
  return {
    colour := ← description.mandatoryText "color"
    opacity := ← description.number "opacity" none }

def toJson (fill : IceFill F) : Json F :=
  .object [("color", .ofText? fill.colour), ("opacity", .ofNumber? fill.opacity)]

end IceFill

namespace IceEdge

def standard : IceEdge F where
  enabled := true
  colour := "#a0c8d8"
  width := some 0.5
  opacity := some 0.6

def read (description : Description F) : Result F (IceEdge F) := do
  return {
    enabled := ← description.switch "enabled" true
    colour := ← description.text "color" (standard (F := F)).colour
    width := ← description.number "width" standard.width
    opacity := ← description.number "opacity" standard.opacity }

def toJson (edge : IceEdge F) : Json F :=
  .object [
    ("enabled", .bool edge.enabled),
    ("color", .ofText? edge.colour),
    ("width", .ofNumber? edge.width),
    ("opacity", .ofNumber? edge.opacity)]

end IceEdge

namespace IceConfig

def standard : IceConfig F where
  enabled := true
  minZoom := some 0
  maxZoom := some 6
  opacity := .ofNumbers 0.7 0.9
  glaciated := ⟨"#e8f4f8", none⟩
  iceShelves := ⟨"#d0e8f0", none⟩
  iceEdge := some .standard

def read (description : Description F) : Result F (IceConfig F) := do
  let enabled ← description.switch "enabled" true
  let minZoom ← description.number "min_zoom" standard.minZoom
  let maxZoom ← description.number "max_zoom" standard.maxZoom
  let opacity ← description.part "opacity" standard.opacity ValueRange.read
  let glaciated ← description.part "glaciated" standard.glaciated IceFill.read
  let iceShelves ← description.part "ice_shelves" standard.iceShelves IceFill.read
  let iceEdge ← description.partOrOpen "ice_edge" standard.iceEdge IceEdge.read
  checkZoomRange "ice" minZoom maxZoom
  checkVisible "ice.opacity.max" opacity
  return { enabled, minZoom, maxZoom, opacity, glaciated, iceShelves, iceEdge }

def toJson (config : IceConfig F) : Json F :=
  .object [
    ("enabled", .bool config.enabled),
    ("min_zoom", .ofNumber? config.minZoom),
    ("max_zoom", .ofNumber? config.maxZoom),
    ("opacity", config.opacity.toJson),
    ("glaciated", config.glaciated.toJson),
    ("ice_shelves", config.iceShelves.toJson),
    ("ice_edge", .ofOption IceEdge.toJson config.iceEdge)]

end IceConfig

namespace HillshadeConfig

def standard : HillshadeConfig F where
  enabled := true
  minZoom := some 0
  maxZoom := none
  opacity := some 0.5
  exaggeration := some 0.5
  illuminationDirection := some 335
  illuminationAnchor := "viewport"
  shadowColour := "#000000"
  highlightColour := "#ffffff"
  accentColour := "#000000"

def read (description : Description F) : Result F (HillshadeConfig F) := do
  let base : HillshadeConfig F := standard
  let enabled ← description.switch "enabled" true
  let minZoom ← description.number "min_zoom" base.minZoom
  let maxZoom ← description.number "max_zoom" base.maxZoom
  let opacity ← description.number "opacity" base.opacity
  let exaggeration ← description.number "exaggeration" base.exaggeration
  let illuminationDirection ←
    description.number "illumination_direction" base.illuminationDirection
  let illuminationAnchor ← description.text "illumination_anchor" base.illuminationAnchor
  let shadowColour ← description.text "shadow_color" base.shadowColour
  let highlightColour ← description.text "highlight_color" base.highlightColour
  let accentColour ← description.text "accent_color" base.accentColour
  checkZoomRange "hillshade" minZoom maxZoom
  checkOpacity "hillshade.opacity" opacity
  return {
    enabled, minZoom, maxZoom, opacity, exaggeration, illuminationDirection,
    illuminationAnchor, shadowColour, highlightColour, accentColour }

def toJson (config : HillshadeConfig F) : Json F :=
  .object [
    ("enabled", .bool config.enabled),
    ("min_zoom", .ofNumber? config.minZoom),
    ("max_zoom", .ofNumber? config.maxZoom),
    ("opacity", .ofNumber? config.opacity),
    ("exaggeration", .ofNumber? config.exaggeration),
    ("illumination_direction", .ofNumber? config.illuminationDirection),
    ("illumination_anchor", .ofText? config.illuminationAnchor),
    ("shadow_color", .ofText? config.shadowColour),
    ("highlight_color", .ofText? config.highlightColour),
    ("accent_color", .ofText? config.accentColour)]

end HillshadeConfig

end MapStyle
