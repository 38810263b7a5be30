import MapStyle.Expr.Curve
import MapStyle.Theme.Category

/-!
# Filters

Conditions on features that several layers share.
-/

namespace MapStyle.Filter

set_option autoImplicit false

open MapStyle.Expr (allOf anyOf equal unequal has isOneOf)

variable {F : Type}

/-- Neither a tunnel nor a bridge. -/
def atGrade : List (Expr F) :=
  [unequal (.get "brunnel") "tunnel", unequal (.get "brunnel") "bridge"]

def normalRoadClasses : List String := roadWidthClasses ++ residentialAliases

def hasName : Expr F := anyOf [has "name", has "name:en"]

def majorRoad : Expr F := allOf (atGrade ++ [isOneOf "class" majorRoadClasses])

/-- Roads on the surface but for alleys and parking aisles, which have layers of their own. -/
def normalRoad : Expr F :=
  allOf (atGrade ++
    [isOneOf "class" normalRoadClasses,
      unequal (.get "service") "alley",
      unequal (.get "service") "parking_aisle"])

def serviceRoad (service : String) : Expr F :=
  allOf (atGrade ++ [equal (.get "class") "service", equal (.get "service") (.text service)])

def alley : Expr F := serviceRoad "alley"

def parkingAisle : Expr F := serviceRoad "parking_aisle"

def tunnel : Expr F := equal (.get "brunnel") "tunnel"

def bridge : Expr F := equal (.get "brunnel") "bridge"

def path : Expr F := isOneOf "class" ["path", "track", "footway", "cycleway"]

def railway : Expr F := equal (.get "class") "rail"

def countryBoundary : Expr F :=
  allOf [equal (.get "admin_level") 2, unequal (.get "maritime") 1]

def maritimeBoundary : Expr F :=
  allOf [equal (.get "admin_level") 2, equal (.get "maritime") 1]

def stateBoundary : Expr F := equal (.get "admin_level") 4

def marineClass : Expr F :=
  anyOf [isOneOf "class" ["ocean", "sea", "gulf", "bay"], equal (.get "class") "lake"]

/-- The filters by name. -/
def all : List (String × Expr F) :=
  [("has_name", hasName),
    ("major_road", majorRoad),
    ("normal_road", normalRoad),
    ("alley", alley),
    ("parking_aisle", parkingAisle),
    ("tunnel", tunnel),
    ("bridge", bridge),
    ("path", path),
    ("railway", railway),
    ("country_boundary", countryBoundary),
    ("maritime_boundary", maritimeBoundary),
    ("state_boundary", stateBoundary),
    ("marine_class", marineClass)]

def named (name : String) : Result F (Expr F) :=
  match all.lookup name with
  | some filter => .ok filter
  | none => Result.ofTheme (.noCategory name)

end MapStyle.Filter
