import MapStyle.Theme.Description

/-!
# Widths

Line widths by zoom. The widths of roads are rows of stops, one for each class of road and one
that fills the gaps of the others.
-/

namespace MapStyle

set_option autoImplicit false

/-- The classes of road with a width of their own. -/
inductive RoadClass where
  | motorway
  | trunk
  | primary
  | secondary
  | tertiary
  | residential
  | service
  deriving DecidableEq, Repr

namespace RoadClass

def all : List RoadClass :=
  [.motorway, .trunk, .primary, .secondary, .tertiary, .residential, .service]

def name : RoadClass → String
  | .motorway => "motorway"
  | .trunk => "trunk"
  | .primary => "primary"
  | .secondary => "secondary"
  | .tertiary => "tertiary"
  | .residential => "residential"
  | .service => "service"

def ofName? (name : String) : Option RoadClass :=
  all.find? fun roadClass => roadClass.name == name

end RoadClass

/-- Classes of road that are drawn like residential roads. -/
def residentialAliases : List String := ["minor", "unclassified"]

/-- Stops by class of road; the default row holds where a class has no stop. -/
structure RoadWidths (F : Type) where
  fallback : Option (ZoomStops F)
  motorway : Option (ZoomStops F)
  trunk : Option (ZoomStops F)
  primary : Option (ZoomStops F)
  secondary : Option (ZoomStops F)
  tertiary : Option (ZoomStops F)
  residential : Option (ZoomStops F)
  service : Option (ZoomStops F)

structure BoundaryWidths (F : Type) where
  country : Option (ZoomStops F)
  state : Option (ZoomStops F)

structure ThemeWidths (F : Type) where
  boundary : BoundaryWidths F
  waterLine : Option (ZoomStops F)
  road : RoadWidths F
  roadCasing : RoadWidths F
  tunnelRoad : Option (RoadWidths F)
  bridgeRoad : Option (RoadWidths F)
  path : Option (ZoomStops F)
  railway : Option (ZoomStops F)

namespace RoadWidths

variable {F : Type}

/-- The stops of one class of road. -/
def row (widths : RoadWidths F) : RoadClass → Option (ZoomStops F)
  | .motorway => widths.motorway
  | .trunk => widths.trunk
  | .primary => widths.primary
  | .secondary => widths.secondary
  | .tertiary => widths.tertiary
  | .residential => widths.residential
  | .service => widths.service

/-- The stops of a class by its name; a class without a row of its own has none. -/
def rowOf (widths : RoadWidths F) (featureClass : String) : ZoomStops F :=
  let named := if residentialAliases.contains featureClass then "residential" else featureClass
  ((RoadClass.ofName? named).bind widths.row).getD []

variable [Arithmetic F]

/-- Rows with stops at three zooms. -/
def ofRows (low middle high : String) (row : RoadClass → Json F × Json F × Json F)
    (fallback : Json F × Json F × Json F) : RoadWidths F :=
  let stops (values : Json F × Json F × Json F) : Option (ZoomStops F) :=
    some [(.text low, values.1), (.text middle, values.2.1), (.text high, values.2.2)]
  { fallback := stops fallback
    motorway := stops (row .motorway)
    trunk := stops (row .trunk)
    primary := stops (row .primary)
    secondary := stops (row .secondary)
    tertiary := stops (row .tertiary)
    residential := stops (row .residential)
    service := stops (row .service) }

def standard : RoadWidths F :=
  ofRows "z6" "z12" "z15"
    (fun
      | .motorway => (1, 3, 10)
      | .trunk => (0.8, 2.75, 10)
      | .primary => (0.7, 2, 10)
      | .secondary => (0.6, 1.5, 7.5)
      | .tertiary => (0.5, 1.5, 6)
      | .residential => (0.4, 1, 4)
      | .service => (0.2, 1, 4))
    (0.4, 1, 4)

def standardCasing : RoadWidths F :=
  ofRows "z6" "z12" "z15"
    (fun
      | .motorway => (1.5, 4, 11)
      | .trunk => (1.2, 3.5, 11)
      | .primary => (1.0, 2.8, 11)
      | .secondary => (0.9, 2.2, 8.5)
      | .tertiary => (0.8, 2.2, 7)
      | .residential => (0.7, 1.8, 5)
      | .service => (0.5, 1.5, 5))
    (0.7, 1.8, 5)

def read (description : Description F) : Result F (RoadWidths F) := do
  return {
    fallback := ← description.mandatory "default" (Description.orOpen
      (Description.readStops "default"))
    motorway := ← description.stops "motorway" []
    trunk := ← description.stops "trunk" []
    primary := ← description.stops "primary" []
    secondary := ← description.stops "secondary" []
    tertiary := ← description.stops "tertiary" []
    residential := ← description.stops "residential" []
    service := ← description.stops "service" [] }

def toJson (widths : RoadWidths F) : Json F :=
  .object (("default", .ofStops? widths.fallback) ::
    RoadClass.all.map fun roadClass => (roadClass.name, .ofStops? (widths.row roadClass)))

end RoadWidths

namespace BoundaryWidths

variable {F : Type} [Arithmetic F]

def standard : BoundaryWidths F where
  country := some [("z0", 0.4), ("z6", 1.2), ("z10", 2.0), ("z15", 2.5)]
  state := some [("z0", 0.2), ("z6", 0.8), ("z10", 1.2), ("z15", 1.5)]

def read (description : Description F) : Result F (BoundaryWidths F) := do
  return {
    country := ← description.stops "country" (standard.country.getD [])
    state := ← description.stops "state" (standard.state.getD []) }

def toJson (widths : BoundaryWidths F) : Json F :=
  .object [("country", .ofStops? widths.country), ("state", .ofStops? widths.state)]

end BoundaryWidths

namespace ThemeWidths

variable {F : Type} [Arithmetic F]

def standard : ThemeWidths F where
  boundary := .standard
  waterLine := some [("z0", 0.1), ("z6", 0.4), ("z10", 0.8), ("z15", 1.0)]
  road := .standard
  roadCasing := .standardCasing
  tunnelRoad := none
  bridgeRoad := none
  path := some [("z12", 0.2), ("z14", 0.6)]
  railway := some [("z10", 0.3), ("z14", 0.8)]

def read (description : Description F) : Result F (ThemeWidths F) := do
  return {
    boundary := ← description.part "boundary" .standard BoundaryWidths.read
    waterLine := ← description.stops "water_line" (standard.waterLine.getD [])
    road := ← description.part "road" .standard RoadWidths.read
    roadCasing := ← description.part "road_casing" .standardCasing RoadWidths.read
    tunnelRoad := ← description.partOrOpen "tunnel_road" none RoadWidths.read
    bridgeRoad := ← description.partOrOpen "bridge_road" none RoadWidths.read
    path := ← description.stops "path" (standard.path.getD [])
    railway := ← description.stops "railway" (standard.railway.getD []) }

def toJson (widths : ThemeWidths F) : Json F :=
  .object [
    ("boundary", widths.boundary.toJson),
    ("water_line", .ofStops? widths.waterLine),
    ("road", widths.road.toJson),
    ("road_casing", widths.roadCasing.toJson),
    ("tunnel_road", .ofOption RoadWidths.toJson widths.tunnelRoad),
    ("bridge_road", .ofOption RoadWidths.toJson widths.bridgeRoad),
    ("path", .ofStops? widths.path),
    ("railway", .ofStops? widths.railway)]

end ThemeWidths

end MapStyle
