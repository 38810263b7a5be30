import MapStyle.Theme.Description

/-!
# Coordinate grid

Lines of latitude and longitude and their labels.
-/

namespace MapStyle

set_option autoImplicit false

structure GridLabel (F : Type) where
  enabled : Bool
  colour : Option String
  opacity : Option (Number F)
  minZoom : Option (Number F)
  size : RangeSetting F

structure GridLine (F : Type) where
  colour : Option String
  width : RangeSetting F
  opacity : Option (Number F)
  interval : Option (Number F)
  label : Option (GridLabel F)

structure GridConfig (F : Type) where
  enabled : Bool
  minZoom : Option (Number F)
  maxZoom : Option (Number F)
  latitude : Option (GridLine F)
  longitude : Option (GridLine F)

variable {F : Type} [Arithmetic F]

namespace GridLabel

def standard : GridLabel F where
  enabled := true
  colour := none
  opacity := some 0.8
  minZoom := none
  size := .range (.ofNumbers 10 12)

def read (description : Description F) : Result F (GridLabel F) := do
  return {
    enabled := ← description.switch "enabled" true
    colour := ← description.text "color" none
    opacity := ← description.number "opacity" standard.opacity
    minZoom := ← description.number "min_zoom" none
    size := ← description.setting "size" standard.size (RangeSetting.read "size") }

def toJson (label : GridLabel F) : Json F :=
  .object [
    ("enabled", .bool label.enabled),
    ("color", .ofText? label.colour),
    ("opacity", .ofNumber? label.opacity),
    ("min_zoom", .ofNumber? label.minZoom),
    ("size", label.size.toJson)]

end GridLabel

namespace GridLine

def standard : GridLine F where
  colour := "#4a5568"
  width := .unset
  opacity := some 0.4
  interval := some 10
  label := none

def read (description : Description F) : Result F (GridLine F) := do
  return {
    colour := ← description.text "color" (standard (F := F)).colour
    width := ← description.setting "width" .unset (RangeSetting.read "width")
    opacity := ← description.number "opacity" standard.opacity
    interval := ← description.number "interval" standard.interval
    label := ← description.partOrOpen "label" none GridLabel.read }

def toJson (line : GridLine F) : Json F :=
  .object [
    ("color", .ofText? line.colour),
    ("width", line.width.toJson),
    ("opacity", .ofNumber? line.opacity),
    ("interval", .ofNumber? line.interval),
    ("label", .ofOption GridLabel.toJson line.label)]

/-- The labels of a line start below the largest zoom of the grid. -/
def checkLabel (maxZoom : Option (Number F)) (line : Option (GridLine F)) : Result F Unit :=
  match line.bind GridLine.label with
  | some label => checkZoomRange "grid label" label.minZoom maxZoom
  | none => .ok ()

end GridLine

namespace GridConfig

def standard : GridConfig F where
  enabled := true
  minZoom := some 0
  maxZoom := some 10
  latitude := some .standard
  longitude := some .standard

def read (description : Description F) : Result F (GridConfig F) := do
  let enabled ← description.switch "enabled" true
  let minZoom ← description.number "min_zoom" standard.minZoom
  let maxZoom ← description.number "max_zoom" standard.maxZoom
  let latitude ← description.partOrOpen "latitude" standard.latitude GridLine.read
  let longitude ← description.partOrOpen "longitude" standard.longitude GridLine.read
  checkZoomRange "grid" minZoom maxZoom
  GridLine.checkLabel maxZoom latitude
  GridLine.checkLabel maxZoom longitude
  return { enabled, minZoom, maxZoom, latitude, longitude }

def toJson (config : GridConfig F) : Json F :=
  .object [
    ("enabled", .bool config.enabled),
    ("min_zoom", .ofNumber? config.minZoom),
    ("max_zoom", .ofNumber? config.maxZoom),
    ("latitude", .ofOption GridLine.toJson config.latitude),
    ("longitude", .ofOption GridLine.toJson config.longitude)]

end GridConfig

end MapStyle
