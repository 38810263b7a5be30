import MapStyle.Theme.Description

/-!
# Points of interest

The categories of points of interest and the settings of each. A category without settings is not
drawn.
-/

namespace MapStyle

set_option autoImplicit false

inductive PoiCategory where
  | airport
  | airfield
  | hospital
  | museum
  | zoo
  | stadium
  | park
  | rail
  | school
  deriving DecidableEq, Repr

structure PoiSettings (F : Type) where
  enabled : Bool
  minZoom : Option (Number F)

structure PoisConfig (F : Type) where
  enabled : Bool
  minZoom : Option (Number F)
  airport : Option (PoiSettings F)
  airfield : Option (PoiSettings F)
  hospital : Option (PoiSettings F)
  museum : Option (PoiSettings F)
  zoo : Option (PoiSettings F)
  stadium : Option (PoiSettings F)
  park : Option (PoiSettings F)
  rail : Option (PoiSettings F)
  school : Option (PoiSettings F)

namespace PoiCategory

def all : List PoiCategory :=
  [.airport, .airfield, .hospital, .museum, .zoo, .stadium, .park, .rail, .school]

def name : PoiCategory → String
  | .airport => "airport"
  | .airfield => "airfield"
  | .hospital => "hospital"
  | .museum => "museum"
  | .zoo => "zoo"
  | .stadium => "stadium"
  | .park => "park"
  | .rail => "rail"
  | .school => "school"

def ofName? (name : String) : Option PoiCategory :=
  all.find? fun category => category.name == name

end PoiCategory

variable {F : Type} [Arithmetic F]

namespace PoiSettings

def read (description : Description F) : Result F (PoiSettings F) := do
  return {
    enabled := ← description.switch "enabled" true
    minZoom := ← description.number "min_zoom" none }

def toJson (settings : PoiSettings F) : Json F :=
  .object [("enabled", .bool settings.enabled), ("min_zoom", .ofNumber? settings.minZoom)]

end PoiSettings

namespace PoisConfig

def standardMinZoom : Number F := 12

/-- The settings of one category. -/
def settings (config : PoisConfig F) : PoiCategory → Option (PoiSettings F)
  | .airport => config.airport
  | .airfield => config.airfield
  | .hospital => config.hospital
  | .museum => config.museum
  | .zoo => config.zoo
  | .stadium => config.stadium
  | .park => config.park
  | .rail => config.rail
  | .school => config.school

def read (description : Description F) : Result F (PoisConfig F) := do
  let category (key : String) : Result F (Option (PoiSettings F)) :=
    description.partOrOpen key none PoiSettings.read
  return {
    enabled := ← description.switch "enabled" true
    minZoom := ← description.number "min_zoom" (some standardMinZoom)
    airport := ← category "airport"
    airfield := ← category "airfield"
    hospital := ← category "hospital"
    museum := ← category "museum"
    zoo := ← category "zoo"
    stadium := ← category "stadium"
    park := ← category "park"
    rail := ← category "rail"
    school := ← category "school" }

def toJson (config : PoisConfig F) : Json F :=
  .object (("enabled", .bool config.enabled) :: ("min_zoom", .ofNumber? config.minZoom) ::
    PoiCategory.all.map fun category =>
      (category.name, .ofOption PoiSettings.toJson (config.settings category)))

end PoisConfig

end MapStyle
