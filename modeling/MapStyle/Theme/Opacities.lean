import MapStyle.Theme.Description

/-!
# Opacities

How opaque areas, boundaries, tunnels and labels are. The opacity of country boundaries may
depend on the zoom.
-/

namespace MapStyle

set_option autoImplicit false

/-- The opacity of country boundaries: one number, or stops. A value of any other kind is kept,
but no boundary can be drawn with it. -/
inductive CountryOpacity (F : Type) where
  | fixed (value : Number F)
  | stops (stops : Option (ZoomStops F))
  | unusable (value : Json F)

structure BoundaryOpacities (F : Type) where
  country : CountryOpacity F
  state : Option (Number F)
  maritime : Option (Number F)

structure LabelOpacities (F : Type) where
  place : Option (Number F)
  water : Option (Number F)
  waterway : Option (Number F)

structure ThemeOpacities (F : Type) where
  landcover : Option (Number F)
  landuse : Option (Number F)
  building : Option (Number F)
  boundary : BoundaryOpacities F
  tunnel : Option (Number F)
  label : LabelOpacities F

variable {F : Type} [Arithmetic F]

namespace CountryOpacity

def read (value : Json F) : Result F (CountryOpacity F) :=
  match value with
  | .number value => .ok (.fixed value)
  | .null => .ok (.stops none)
  | .text _ => .ok (.unusable value)
  | _ => (Description.readStops "country" value).map fun mapping => .stops (some mapping)

/-- A fixed opacity is checked unless it is a truth value or not finite. -/
def check : CountryOpacity F → Result F Unit
  | .fixed value => do
      if (← Zoom.quantity? (.number value)).isSome then
        checkOpacity "boundary.country" (some value)
  | _ => .ok ()

def toJson : CountryOpacity F → Json F
  | .fixed value => .number value
  | .stops mapping => .ofStops? mapping
  | .unusable value => value

end CountryOpacity

namespace BoundaryOpacities

def standard : BoundaryOpacities F where
  country := .fixed 0.8
  state := some 0.6
  maritime := some 0.0

def read (description : Description F) : Result F (BoundaryOpacities F) := do
  let country ← description.setting "country" standard.country CountryOpacity.read
  let state ← description.number "state" standard.state
  let maritime ← description.number "maritime" standard.maritime
  country.check
  checkOpacity "boundary.state" state
  checkOpacity "boundary.maritime" maritime
  return { country, state, maritime }

def toJson (opacities : BoundaryOpacities F) : Json F :=
  .object [
    ("country", opacities.country.toJson),
    ("state", .ofNumber? opacities.state),
    ("maritime", .ofNumber? opacities.maritime)]

end BoundaryOpacities

namespace LabelOpacities

def standard : LabelOpacities F where
  place := some 0.75
  water := some 0.9
  waterway := some 0.85

def read (description : Description F) : Result F (LabelOpacities F) := do
  return {
    place := ← description.number "place" standard.place
    water := ← description.number "water" standard.water
    waterway := ← description.number "waterway" standard.waterway }

def toJson (opacities : LabelOpacities F) : Json F :=
  .object [
    ("place", .ofNumber? opacities.place),
    ("water", .ofNumber? opacities.water),
    ("waterway", .ofNumber? opacities.waterway)]

end LabelOpacities

namespace ThemeOpacities

def standard : ThemeOpacities F where
  landcover := some 0.6
  landuse := some 0.6
  building := some 0.9
  boundary := .standard
  tunnel := some 0.7
  label := .standard

/-- The opacities of labels are checked here, after those of areas. -/
def read (description : Description F) : Result F (ThemeOpacities F) := do
  let landcover ← description.number "landcover" standard.landcover
  let landuse ← description.number "landuse" standard.landuse
  let building ← description.number "building" standard.building
  let boundary ← description.part "boundary" .standard BoundaryOpacities.read
  let tunnel ← description.number "tunnel" standard.tunnel
  let label ← description.part "label" .standard LabelOpacities.read
  checkOpacity "landcover" landcover
  checkOpacity "landuse" landuse
  checkOpacity "building" building
  checkOpacity "tunnel" tunnel
  checkOpacity "label.place" label.place
  checkOpacity "label.water" label.water
  checkOpacity "label.waterway" label.waterway
  return { landcover, landuse, building, boundary, tunnel, label }

def toJson (opacities : ThemeOpacities F) : Json F :=
  .object [
    ("landcover", .ofNumber? opacities.landcover),
    ("landuse", .ofNumber? opacities.landuse),
    ("building", .ofNumber? opacities.building),
    ("boundary", opacities.boundary.toJson),
    ("tunnel", .ofNumber? opacities.tunnel),
    ("label", opacities.label.toJson)]

end ThemeOpacities

end MapStyle
