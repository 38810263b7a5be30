import MapStyle.Json.Printer
import MapStyle.Theme.Resolve

/-!
# Configuration of the map page

A script that sets the projection, the least zooms, the initial view and the starfield before the
page makes its map.
-/

namespace MapStyle.MapConfig

set_option autoImplicit false

variable {F : Type} [Arithmetic F]

def assignment (name : String) (value : Json F) : String :=
  s!"window.{name} = {value.compact};"

def minZoomLine (minZoom : MinZoom F) : String :=
  "window.mapMinZoom = \x7b mercator: " ++ (Json.ofNumber? minZoom.mercator).compact ++
    ", globe: " ++ (Json.ofNumber? minZoom.globe).compact ++ " \x7d;"

/-- The entries of an object, one a line, a comma behind each but the last. -/
def entryLines (indent : String) : List (String × Json F) → List String
  | [] => []
  | [(name, value)] => [indent ++ name ++ ": " ++ value.compact]
  | (name, value) :: rest => (indent ++ name ++ ": " ++ value.compact ++ ",") ::
      entryLines indent rest

def starfieldLines (starfield : StarfieldConfig F) : List String :=
  let glow := starfield.glowColours
  let colours : List (String × Json F) :=
    [("inner", .ofText? glow.inner), ("middle", .ofText? glow.middle),
      ("outer", .ofText? glow.outer), ("fade", .ofText? glow.fade)]
  let numbers : List (String × Json F) :=
    [("starCount", .ofNumber? starfield.starCount),
      ("glowIntensity", .ofNumber? starfield.glowIntensity),
      ("glowSizeMultiplier", .ofNumber? starfield.glowSizeMultiplier),
      ("glowBlurMultiplier", .ofNumber? starfield.glowBlurMultiplier)]
  ["window.starfieldConfig = \x7b", "  glowColors: \x7b"] ++ entryLines "    " colours ++
    ["  \x7d,"] ++ entryLines "  " numbers ++ ["\x7d;"]

def lines (theme : Theme F) : List String :=
  let view := theme.resolveView
  ["// Generated by basemap_styles. Do not edit by hand.",
    assignment "mapProjection" (.text theme.settings.projection.name : Json F),
    minZoomLine theme.resolveMinZoom,
    assignment "mapCenter" (.list (view.centre.map .number)),
    assignment "mapZoom" (.ofNumber? view.zoom),
    assignment "mapPitch" (.ofNumber? view.pitch),
    assignment "mapBearing" (.ofNumber? view.bearing)] ++
    ((theme.starfield.map starfieldLines).getD [])

def render (theme : Theme F) : String :=
  "\n".intercalate (lines theme) ++ "\n"

end MapStyle.MapConfig
