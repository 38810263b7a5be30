import MapStyle.Theme.Description

/-!
# Places

Incorporated places are drawn as areas that are coloured by the density of their population. The
population itself is only known to the renderer.
-/

namespace MapStyle

set_option autoImplicit false

/-- The colours of places with a density at or above a threshold. A threshold is a number, or a
text for ranges that are ordered by their texts. -/
structure DensityRange (F : Type) where
  threshold : Json F
  fillColour : Option String
  outlineColour : Option String

structure DensityColours (F : Type) where
  fallbackFill : Option String
  ranges : List (DensityRange F)
  fallbackOutline : Option String

structure PlacesFill (F : Type) where
  colour : Option String
  opacity : Option (Number F)

structure PlacesOutline (F : Type) where
  colour : Option String
  width : Option (ZoomStops F)
  opacity : Option (Number F)

structure PlacesConfig (F : Type) where
  enabled : Bool
  minZoom : Option (Number F)
  fill : PlacesFill F
  outline : PlacesOutline F
  densityColours : Option (DensityColours F)
  renderAboveLabels : Bool

variable {F : Type} [Arithmetic F]

namespace DensityRange

/-- The threshold names the range in messages. -/
def read (description : Description F) : Result F (DensityRange F) := do
  let threshold ← description.mandatory "threshold" .ok
  let area := "density " ++ threshold.plain
  let fillColour ← description.mandatoryColour "fill_color" (area ++ " fill_color") true
  let outlineColour ← description.colour "outline_color" (area ++ " outline_color") false
  return { threshold, fillColour, outlineColour }

def toJson (range : DensityRange F) : Json F :=
  .object [
    ("threshold", range.threshold),
    ("fill_color", .ofText? range.fillColour),
    ("outline_color", .ofText? range.outlineColour)]

end DensityRange

namespace DensityColours

def read (description : Description F) : Result F (DensityColours F) := do
  let ranges ← description.setting "ranges" [] (Description.readList "ranges" fun range => do
    DensityRange.read (← Description.ofJson "ranges" range))
  let fallbackFill ←
    description.mandatoryColour "default_fill_color" "density default_fill_color" true
  let fallbackOutline ←
    description.colour "default_outline_color" "density default_outline_color" false
  return { fallbackFill, ranges, fallbackOutline }

def toJson (colours : DensityColours F) : Json F :=
  .object [
    ("default_fill_color", .ofText? colours.fallbackFill),
    ("ranges", .list (colours.ranges.map DensityRange.toJson)),
    ("default_outline_color", .ofText? colours.fallbackOutline)]

end DensityColours

namespace PlacesFill

def standard : PlacesFill F where
  colour := "#6a7588"
  opacity := some 0.15

def read (description : Description F) : Result F (PlacesFill F) := do
  return {
    colour := ← description.text "color" (standard (F := F)).colour
    opacity := ← description.number "opacity" standard.opacity }

def toJson (fill : PlacesFill F) : Json F :=
  .object [("color", .ofText? fill.colour), ("opacity", .ofNumber? fill.opacity)]

end PlacesFill

namespace PlacesOutline

def standard : PlacesOutline F where
  colour := "#8a9598"
  width := some [("z5", 0.5), ("z10", 1.0), ("z15", 1.5)]
  opacity := some 0.6

def read (description : Description F) : Result F (PlacesOutline F) := do
  return {
    colour := ← description.text "color" (standard (F := F)).colour
    width := ← description.stops "width" (standard.width.getD [])
    opacity := ← description.number "opacity" standard.opacity }

def toJson (outline : PlacesOutline F) : Json F :=
  .object [
    ("color", .ofText? outline.colour),
    ("width", .ofStops? outline.width),
    ("opacity", .ofNumber? outline.opacity)]

end PlacesOutline

namespace PlacesConfig

def standard : PlacesConfig F where
  enabled := true
  minZoom := some 5
  fill := .standard
  outline := .standard
  densityColours := none
  renderAboveLabels := false

def read (description : Description F) : Result F (PlacesConfig F) := do
  let enabled ← description.switch "enabled" true
  let minZoom ← description.number "min_zoom" standard.minZoom
  let fill ← description.part "fill" .standard PlacesFill.read
  let outline ← description.part "outline" .standard PlacesOutline.read
  let densityColours ← description.partOrOpen "density_colors" none DensityColours.read
  let renderAboveLabels ← description.switch "render_above_labels" false
  checkOpacity "places.fill.opacity" fill.opacity
  checkOpacity "places.outline.opacity" outline.opacity
  return { enabled, minZoom, fill, outline, densityColours, renderAboveLabels }

def toJson (config : PlacesConfig F) : Json F :=
  .object [
    ("enabled", .bool config.enabled),
    ("min_zoom", .ofNumber? config.minZoom),
    ("fill", config.fill.toJson),
    ("outline", config.outline.toJson),
    ("density_colors", .ofOption DensityColours.toJson config.densityColours),
    ("render_above_labels", .bool config.renderAboveLabels)]

end PlacesConfig

end MapStyle
