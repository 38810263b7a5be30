import MapStyle.Expr.Error
import MapStyle.Theme.Description

/-!
# Settings of the map

The projection, the least zoom under each projection, the initial view, and whether roads grow
with the ground they cover.
-/

namespace MapStyle

set_option autoImplicit false

inductive Projection where
  | mercator
  | globe
  deriving DecidableEq, Repr

/-- The least zoom under each projection. -/
structure MinZoom (F : Type) where
  mercator : Option (Number F)
  globe : Option (Number F)

/-- The least zoom: one number, or one for each projection. -/
inductive MinZoomSetting (F : Type) where
  | same (value : Option (Number F))
  | byProjection (value : MinZoom F)

/-- The pose of the camera when a map is opened. -/
structure View (F : Type) where
  centre : List (Number F)
  zoom : Option (Number F)
  pitch : Option (Number F)
  bearing : Option (Number F)

structure ThemeSettings (F : Type) where
  projection : Projection
  minZoom : MinZoomSetting F
  realWorldScale : Bool
  realWorldScaleMinZoom : Option (Number F)
  view : View F

namespace Projection

def name : Projection → String
  | .mercator => "mercator"
  | .globe => "globe"

def read {F : Type} (value : Json F) : Result F Projection :=
  match value with
  | .text "mercator" => .ok .mercator
  | .text "globe" => .ok .globe
  | _ => Result.ofTheme (.unknownProjection value)

end Projection

variable {F : Type} [Arithmetic F]

namespace MinZoom

def standard : MinZoom F where
  mercator := some 0
  globe := some 2

def read (description : Description F) : Result F (MinZoom F) := do
  return {
    mercator := ← description.number "mercator" standard.mercator
    globe := ← description.number "globe" standard.globe }

def toJson (minZoom : MinZoom F) : Json F :=
  .object [("mercator", .ofNumber? minZoom.mercator), ("globe", .ofNumber? minZoom.globe)]

end MinZoom

namespace MinZoomSetting

def read (value : Json F) : Result F (MinZoomSetting F) :=
  match value with
  | .number value => .ok (.same (some value))
  | .null => .ok (.same none)
  | _ => do return .byProjection (← MinZoom.read (← Description.ofJson "min_zoom" value))

def toJson : MinZoomSetting F → Json F
  | .same value => .ofNumber? value
  | .byProjection value => value.toJson

/-- The least zoom under each projection. -/
def resolve : MinZoomSetting F → MinZoom F
  | .same value => ⟨value, value⟩
  | .byProjection value => value

end MinZoomSetting

namespace View

def standard : View F where
  centre := [-98.0, 39.0]
  zoom := some 4.25
  pitch := some 0
  bearing := some 0

def read (description : Description F) : Result F (View F) := do
  return {
    centre := ← description.numbers "center" standard.centre
    zoom := ← description.number "zoom" standard.zoom
    pitch := ← description.number "pitch" standard.pitch
    bearing := ← description.number "bearing" standard.bearing }

def toJson (view : View F) : Json F :=
  .object [
    ("center", .list (view.centre.map .number)),
    ("zoom", .ofNumber? view.zoom),
    ("pitch", .ofNumber? view.pitch),
    ("bearing", .ofNumber? view.bearing)]

end View

namespace ThemeSettings

def standard : ThemeSettings F where
  projection := .globe
  minZoom := .byProjection .standard
  realWorldScale := false
  realWorldScaleMinZoom := some 15
  view := .standard

/-- Growth with the ground starts below the zoom of its last stop. -/
def checkScaleStart : Option (Number F) → Result F Unit
  | none => .ok ()
  | some zoom =>
      if (Number.int lastScaleZoom : Number F).le zoom then Result.ofTheme (.scaleStart zoom)
      else .ok ()

def read (description : Description F) : Result F (ThemeSettings F) := do
  let minZoom ← description.setting "min_zoom" standard.minZoom MinZoomSetting.read
  let realWorldScale ← description.switch "real_world_scale" false
  let realWorldScaleMinZoom ←
    description.number "real_world_scale_min_zoom" standard.realWorldScaleMinZoom
  let view ← description.part "view" .standard View.read
  let projection ← description.setting "projection" .globe Projection.read
  checkScaleStart realWorldScaleMinZoom
  return { projection, minZoom, realWorldScale, realWorldScaleMinZoom, view }

def toJson (settings : ThemeSettings F) : Json F :=
  .object [
    ("projection", .text settings.projection.name),
    ("min_zoom", settings.minZoom.toJson),
    ("real_world_scale", .bool settings.realWorldScale),
    ("real_world_scale_min_zoom", .ofNumber? settings.realWorldScaleMinZoom),
    ("view", settings.view.toJson)]

end ThemeSettings

end MapStyle
