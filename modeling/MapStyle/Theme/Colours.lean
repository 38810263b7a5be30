import MapStyle.Theme.Description

/-!
# Colours

Every colour of the base layers. Colours of features come in tables by feature class, with a
colour for the classes that a table does not name. Most colours are checked when a theme is read;
those of boundaries and labels are passed on as they are.
-/

namespace MapStyle

set_option autoImplicit false

/-- Colours by feature class, in the order in which they are given. -/
abbrev ClassTable := List (String × Option String)

/-- A colour that is given and not empty. -/
def givenColour? (colour : Option String) : Option String :=
  colour.filter fun text => !text.isEmpty

/-- A table of class colours with the colour of all other classes. -/
structure ClassColours where
  fallback : Option String
  classes : ClassTable := []

/-- The colours of water areas and waterways. Depth colours are derived from the fill, so it is
hexadecimal. -/
structure WaterColours where
  fill : Option String
  line : Option String
  classes : ClassTable := []
  fallback : Option String := none

structure BoundaryColours where
  country : Option String
  state : Option String

/-- The colours of tunnels or bridges. -/
structure RoadVariantColours where
  fallback : Option String
  classes : ClassTable := []
  casing : Option String := none

/-- The colours of roads on the surface, and of tunnels and bridges where they differ. -/
structure RoadColours where
  motorway : Option String
  trunk : Option String
  primary : Option String
  secondary : Option String
  tertiary : Option String
  residential : Option String
  service : Option String
  other : Option String
  casing : Option String
  parkingAisle : Option String := none
  tunnel : Option RoadVariantColours := none
  bridge : Option RoadVariantColours := none
  tunnelCasing : Option String := none

/-- The colours of buildings, which may differ by height. -/
structure BuildingColours where
  fill : Option String
  outline : Option String
  short : Option String := none
  medium : Option String := none
  tall : Option String := none
  skyscraper : Option String := none
  supertall : Option String := none
  megatall : Option String := none
  fallback : Option String := none

structure LabelColour where
  colour : Option String
  halo : Option String

/-- The colour of a group of road labels and how opaque it is. -/
structure RoadLabelTone (F : Type) where
  colour : Option String
  opacity : Option (Number F)

structure RoadLabelColours (F : Type) where
  major : RoadLabelTone F
  secondary : RoadLabelTone F
  tertiary : RoadLabelTone F
  other : RoadLabelTone F
  halo : Option String

/-- How points of interest are drawn. -/
structure PoiLabelColours (F : Type) where
  iconColour : Option String
  iconSize : Option (Number F)
  textColour : Option String
  textHalo : Option String
  textHaloWidth : Option (Number F)

structure LabelColours (F : Type) where
  place : LabelColour
  road : RoadLabelColours F
  water : LabelColour
  poi : Option (PoiLabelColours F)

structure ThemeColours (F : Type) where
  background : Option String
  land : ClassColours
  landuse : ClassColours
  water : WaterColours
  boundary : BoundaryColours
  road : RoadColours
  path : Option String
  railway : Option String
  building : BuildingColours
  label : LabelColours F

variable {F : Type} [Arithmetic F]

namespace ClassColours

def read (description : Description F) : Result F ClassColours := do
  return {
    fallback := ← description.mandatoryColour "default" "default" false
    classes := ← description.classColours "classes" "" }

def toJson (colours : ClassColours) : Json F :=
  .object [
    ("default", .ofText? colours.fallback),
    ("classes", .ofColours colours.classes)]

end ClassColours

namespace WaterColours

def read (description : Description F) : Result F WaterColours := do
  let fill ← description.mandatoryColour "fill" "water.fill" true
  let line ← description.mandatoryColour "line" "water.line" false
  let fallback ← description.colour "default" "water.default" false
  let classes ← description.classColours "classes" "water."
  return { fill, line, classes, fallback }

def toJson (colours : WaterColours) : Json F :=
  .object [
    ("fill", .ofText? colours.fill),
    ("line", .ofText? colours.line),
    ("classes", .ofColours colours.classes),
    ("default", .ofText? colours.fallback)]

end WaterColours

namespace BoundaryColours

def read (description : Description F) : Result F BoundaryColours := do
  return {
    country := ← description.mandatoryText "country"
    state := ← description.mandatoryText "state" }

def toJson (colours : BoundaryColours) : Json F :=
  .object [
    ("country", .ofText? colours.country),
    ("state", .ofText? colours.state)]

end BoundaryColours

namespace RoadVariantColours

def read (description : Description F) : Result F RoadVariantColours := do
  let fallback ← description.mandatoryColour "default" "default" false
  let casing ← description.colour "casing" "casing" false
  let classes ← description.classColours "classes" ""
  return { fallback, classes, casing }

def toJson (colours : RoadVariantColours) : Json F :=
  .object [
    ("default", .ofText? colours.fallback),
    ("classes", .ofColours colours.classes),
    ("casing", .ofText? colours.casing)]

end RoadVariantColours

namespace RoadColours

/-- The tables of tunnels and bridges are read before the colours of the surface. -/
def read (description : Description F) : Result F RoadColours := do
  let tunnel ← description.partOrOpen "tunnel" none RoadVariantColours.read
  let bridge ← description.partOrOpen "bridge" none RoadVariantColours.read
  let colour (key : String) : Result F (Option String) :=
    description.mandatoryColour key ("road." ++ key) false
  return {
    motorway := ← colour "motorway"
    trunk := ← colour "trunk"
    primary := ← colour "primary"
    secondary := ← colour "secondary"
    tertiary := ← colour "tertiary"
    residential := ← colour "residential"
    service := ← colour "service"
    other := ← colour "other"
    casing := ← colour "casing"
    parkingAisle := ← description.colour "parking_aisle" "road.parking_aisle" false
    tunnelCasing := ← description.colour "tunnel_casing" "road.tunnel_casing" false
    tunnel
    bridge }

def toJson (colours : RoadColours) : Json F :=
  .object [
    ("motorway", .ofText? colours.motorway),
    ("trunk", .ofText? colours.trunk),
    ("primary", .ofText? colours.primary),
    ("secondary", .ofText? colours.secondary),
    ("tertiary", .ofText? colours.tertiary),
    ("residential", .ofText? colours.residential),
    ("service", .ofText? colours.service),
    ("other", .ofText? colours.other),
    ("casing", .ofText? colours.casing),
    ("parking_aisle", .ofText? colours.parkingAisle),
    ("tunnel", .ofOption RoadVariantColours.toJson colours.tunnel),
    ("bridge", .ofOption RoadVariantColours.toJson colours.bridge),
    ("tunnel_casing", .ofText? colours.tunnelCasing)]

/-- The colours of the road classes. -/
def byClass (colours : RoadColours) : ClassTable :=
  [("motorway", colours.motorway), ("trunk", colours.trunk), ("primary", colours.primary),
    ("secondary", colours.secondary), ("tertiary", colours.tertiary),
    ("residential", colours.residential), ("service", colours.service)]

end RoadColours

namespace BuildingColours

def read (description : Description F) : Result F BuildingColours := do
  let tier (key : String) : Result F (Option String) :=
    description.colour key ("building." ++ key) false
  return {
    fill := ← description.mandatoryColour "fill" "building.fill" false
    outline := ← description.mandatoryColour "outline" "building.outline" false
    short := ← tier "short"
    medium := ← tier "medium"
    tall := ← tier "tall"
    skyscraper := ← tier "skyscraper"
    supertall := ← tier "supertall"
    megatall := ← tier "megatall"
    fallback := ← tier "default" }

def toJson (colours : BuildingColours) : Json F :=
  .object [
    ("fill", .ofText? colours.fill),
    ("outline", .ofText? colours.outline),
    ("short", .ofText? colours.short),
    ("medium", .ofText? colours.medium),
    ("tall", .ofText? colours.tall),
    ("skyscraper", .ofText? colours.skyscraper),
    ("supertall", .ofText? colours.supertall),
    ("megatall", .ofText? colours.megatall),
    ("default", .ofText? colours.fallback)]

/-- The colours of the height tiers that have one, from low to high. -/
def byTier (colours : BuildingColours) : ClassTable :=
  [("short", colours.short), ("medium", colours.medium), ("tall", colours.tall),
    ("skyscraper", colours.skyscraper), ("supertall", colours.supertall),
    ("megatall", colours.megatall)].filter fun entry => entry.2.isSome

end BuildingColours

namespace LabelColour

def read (description : Description F) : Result F LabelColour := do
  return {
    colour := ← description.mandatoryText "color"
    halo := ← description.mandatoryText "halo" }

def toJson (label : LabelColour) : Json F :=
  .object [("color", .ofText? label.colour), ("halo", .ofText? label.halo)]

end LabelColour

namespace RoadLabelTone

def read (description : Description F) : Result F (RoadLabelTone F) := do
  let colour ← description.mandatoryText "color"
  let opacity ← description.number "opacity" (some 1.0)
  checkOpacity "road label opacity" opacity
  return { colour, opacity }

def toJson (tone : RoadLabelTone F) : Json F :=
  .object [("color", .ofText? tone.colour), ("opacity", .ofNumber? tone.opacity)]

end RoadLabelTone

namespace RoadLabelColours

def read (description : Description F) : Result F (RoadLabelColours F) := do
  return {
    major := ← description.mandatoryPart "major" RoadLabelTone.read
    secondary := ← description.mandatoryPart "secondary" RoadLabelTone.read
    tertiary := ← description.mandatoryPart "tertiary" RoadLabelTone.read
    other := ← description.mandatoryPart "other" RoadLabelTone.read
    halo := ← description.mandatoryText "halo" }

def toJson (colours : RoadLabelColours F) : Json F :=
  .object [
    ("major", colours.major.toJson),
    ("secondary", colours.secondary.toJson),
    ("tertiary", colours.tertiary.toJson),
    ("other", colours.other.toJson),
    ("halo", .ofText? colours.halo)]

end RoadLabelColours

namespace PoiLabelColours

def standard : PoiLabelColours F where
  iconColour := "#7a8ba3"
  iconSize := some 0.8
  textColour := "#a8b8d0"
  textHalo := "#0b0f14"
  textHaloWidth := some 1.5

def read (description : Description F) : Result F (PoiLabelColours F) := do
  return {
    iconColour := ← description.text "icon_color" (standard (F := F)).iconColour
    iconSize := ← description.number "icon_size" standard.iconSize
    textColour := ← description.text "text_color" (standard (F := F)).textColour
    textHalo := ← description.text "text_halo" (standard (F := F)).textHalo
    textHaloWidth := ← description.number "text_halo_width" standard.textHaloWidth }

def toJson (colours : PoiLabelColours F) : Json F :=
  .object [
    ("icon_color", .ofText? colours.iconColour),
    ("icon_size", .ofNumber? colours.iconSize),
    ("text_color", .ofText? colours.textColour),
    ("text_halo", .ofText? colours.textHalo),
    ("text_halo_width", .ofNumber? colours.textHaloWidth)]

end PoiLabelColours

namespace LabelColours

def read (description : Description F) : Result F (LabelColours F) := do
  return {
    place := ← description.mandatoryPart "place" LabelColour.read
    road := ← description.mandatoryPart "road" RoadLabelColours.read
    water := ← description.mandatoryPart "water" LabelColour.read
    poi := ← description.partOrOpen "poi" none PoiLabelColours.read }

def toJson (colours : LabelColours F) : Json F :=
  .object [
    ("place", colours.place.toJson),
    ("road", colours.road.toJson),
    ("water", colours.water.toJson),
    ("poi", .ofOption PoiLabelColours.toJson colours.poi)]

end LabelColours

namespace ThemeColours

/-- All parts are read before the colours that stand on their own. -/
def read (description : Description F) : Result F (ThemeColours F) := do
  let land ← description.mandatoryPart "land" ClassColours.read
  let landuse ← description.mandatoryPart "landuse" ClassColours.read
  let water ← description.mandatoryPart "water" WaterColours.read
  let boundary ← description.mandatoryPart "boundary" BoundaryColours.read
  let road ← description.mandatoryPart "road" RoadColours.read
  let building ← description.mandatoryPart "building" BuildingColours.read
  let label ← description.mandatoryPart "label" LabelColours.read
  let background ← description.mandatoryColour "background" "background" false
  let path ← description.mandatoryColour "path" "path" false
  let railway ← description.mandatoryColour "railway" "railway" false
  return { background, land, landuse, water, boundary, road, path, railway, building, label }

def toJson (colours : ThemeColours F) : Json F :=
  .object [
    ("background", .ofText? colours.background),
    ("land", colours.land.toJson),
    ("landuse", colours.landuse.toJson),
    ("water", colours.water.toJson),
    ("boundary", colours.boundary.toJson),
    ("road", colours.road.toJson),
    ("path", .ofText? colours.path),
    ("railway", .ofText? colours.railway),
    ("building", colours.building.toJson),
    ("label", colours.label.toJson)]

end ThemeColours

end MapStyle
