import MapStyle.Expr.Curve
import MapStyle.Theme.Description
import MapStyle.Theme.Settings
import MapStyle.Theme.Widths

/-!
# Values that change with the zoom

Curves over the zoom for widths, sizes and opacities, and the widths of roads by class: linear
between three zooms, or growing with the ground that a road covers.
-/

namespace MapStyle

set_option autoImplicit false

variable {F : Type} [Arithmetic F]

namespace Expr

def stopPairs (stops : Stops F) : List (Expr F × Expr F) :=
  stops.map fun stop => (.number stop.1, .number stop.2)

/-- The curve through the stops of a setting, or a default if there are fewer than two. -/
def zoomWidth (stops : Option (ZoomStops F)) (fallback : Expr F) : Result F (Expr F) := do
  let found ← Zoom.normalize (stops.getD [])
  if found.length < 2 then return fallback
  linear zoom (stopPairs found)

/-- The curve through fixed zooms, each with the value of its stop or a default. -/
def zoomStops (stops : Option (ZoomStops F)) (defaults : List (Number F × Expr F)) :
    Result F (Expr F) := do
  let pairs ← defaults.mapM fun (zoomLevel, fallback) => do
    let value ← Zoom.valueOr Expr.number (stops.getD []) zoomLevel fallback
    return (Expr.number zoomLevel, value)
  linear zoom pairs

/-- From one value at the least zoom to another one at the largest, and to nothing one zoom
later. -/
def zoomFade (minZoom maxZoom : Number F) (start full : Expr F) : Result F (Expr F) := do
  let rising := if minZoom.lt maxZoom then [(Expr.number minZoom, start)] else []
  linear zoom (rising ++ [(.number maxZoom, full), (.number maxZoom.next, 0.0)])

/-- The curve between the two values of a range. -/
def rangeCurve (range : ValueRange F) (minZoom maxZoom : Number F) : Result F (Expr F) :=
  linear zoom
    [(.number minZoom, ofNumber? range.atMin), (.number maxZoom, ofNumber? range.atMax)]

/-- A fixed number, or the curve of a range. -/
def rangeValue (setting : RangeSetting F) (minZoom maxZoom : Number F)
    (fallback : ValueRange F) : Result F (Expr F) :=
  match setting with
  | .fixed value => .ok (.number value)
  | .range range => rangeCurve range minZoom maxZoom
  | .unset => rangeCurve fallback minZoom maxZoom

end Expr

namespace RoadWidths

/-- The stops of a class: its own ones, and those of the default row at other zooms. -/
def stopsOf (widths : RoadWidths F) (featureClass : String) : Except NumberError (Stops F) := do
  let shared ← Zoom.normalize (widths.fallback.getD [])
  let own ← Zoom.normalize (widths.rowOf featureClass)
  return own.foldl (fun merged stop => Zoom.setStop stop.1 stop.2 merged) shared

/-- The width of a class at a zoom; the fallback holds only if there are no stops at all. -/
def widthAt (widths : RoadWidths F) (featureClass : String) (zoom fallback : Number F) :
    Except NumberError (Number F) := do
  match ← widths.stopsOf featureClass with
  | [] => return fallback
  | first :: rest =>
      match Zoom.at? zoom (first :: rest) with
      | some value => return value
      | none => Zoom.valueAt first rest zoom

/-- The width of a road without any stops. -/
def widthWithoutStops : Number F := 0.5

/-- The zooms of the linear width curve. -/
def curveZooms : List (Number F) := [6, 12, 15]

/-- The label under which a class is matched, with the classes that are drawn like it. -/
def matchLabel (roadClass : RoadClass) : Expr F :=
  match roadClass with
  | .residential => .labels (("residential" :: residentialAliases).map .text)
  | _ => .text roadClass.name

/-- The width by class at one zoom, times a scale. -/
def widthMatch (widths : RoadWidths F) (zoom scale : Number F) : Result F (Expr F) := do
  let scaled (featureClass : String) : Except NumberError (Expr F) := do
    return .number (← (← widths.widthAt featureClass zoom widthWithoutStops).mul scale)
  let branches ← RoadClass.all.mapM fun roadClass => do
    return (matchLabel roadClass, ← scaled roadClass.name)
  Expr.matching (.get "class") branches (← scaled "")

/-- The width by class, linear between three zooms. -/
def linearWidth (widths : RoadWidths F) : Result F (Expr F) := do
  let stops ← curveZooms.mapM fun zoom => do
    return (Expr.number zoom, ← widths.widthMatch zoom 1)
  Expr.linear Expr.zoom stops

/-- The width by class that doubles with every zoom from a start on. The stop at the last zoom is
the width at the start times a power of two, and the curve between the two is exponential with
base two. -/
def realWorldWidth (widths : RoadWidths F) (start : Number F) : Result F (Expr F) := do
  let last : Number F := .int lastScaleZoom
  if last.le start then Result.ofExpr (.scaleStart start)
  let before ← ((curveZooms.take 2).filter fun zoom => zoom.lt start).mapM fun zoom => do
    return (Expr.number zoom, ← widths.widthMatch zoom 1)
  let atStart ← widths.widthMatch start 1
  let scale ← (← last.sub start).twoPow
  let atLast ← widths.widthMatch start scale
  Expr.exponential 2 Expr.zoom
    (before ++ [(.number start, atStart), (.number last, atLast)])

/-- The width by class as the settings of a theme want it. -/
def widthFor (settings : ThemeSettings F) (widths : RoadWidths F) : Result F (Expr F) := do
  if settings.realWorldScale then
    widths.realWorldWidth
      (← Result.require "real_world_scale_min_zoom" settings.realWorldScaleMinZoom)
  else widths.linearWidth

end RoadWidths

end MapStyle
