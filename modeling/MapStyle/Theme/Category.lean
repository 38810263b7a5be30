import MapStyle.Theme

/-!
# Colours of feature classes

A colour category is a group of layers whose features are coloured by class. The colour of a
class is the override of its category, else its own colour, else that of a related class, else
the category's colour for a class without one; a class that the category does not know has the
category's default colour. Tunnels and bridges without colours of their own are coloured like
roads on the surface.
-/

namespace MapStyle

set_option autoImplicit false

inductive Category where
  | land
  | landuse
  | water
  | waterway
  | road
  | tunnel
  | bridge
  | building
  deriving DecidableEq, Repr

def majorRoadClasses : List String := ["motorway", "trunk", "primary", "secondary"]

def roadWidthClasses : List String := RoadClass.all.map RoadClass.name

def buildingTiers : List String :=
  ["short", "medium", "tall", "skyscraper", "supertall", "megatall"]

namespace Category

def all : List Category :=
  [.land, .landuse, .water, .waterway, .road, .tunnel, .bridge, .building]

def name : Category → String
  | .land => "land"
  | .landuse => "landuse"
  | .water => "water"
  | .waterway => "waterway"
  | .road => "road"
  | .tunnel => "tunnel"
  | .bridge => "bridge"
  | .building => "building"

def ofName? (name : String) : Option Category :=
  all.find? fun category => category.name == name

/-- The classes that a category knows. -/
def classes : Category → List String
  | .land =>
      ["wood", "grass", "scrub", "scrubland", "cropland", "farmland", "rock", "sand", "wetland"]
  | .landuse =>
      ["park", "cemetery", "pitch", "stadium", "residential", "college", "commercial",
        "construction", "dam", "farmland", "grass", "hospital", "industrial", "military",
        "neighbourhood", "quarry", "quarter", "railway", "retail", "school", "suburb",
        "theme_park", "track", "university", "zoo"]
  | .water => ["ocean", "sea", "lake", "pond", "river", "reservoir", "bay", "gulf"]
  | .waterway => ["river", "canal", "stream", "ditch", "drain"]
  | .road | .tunnel => roadWidthClasses ++ residentialAliases
  | .bridge =>
      ["motorway", "trunk", "primary", "secondary", "tertiary", "residential"] ++
        residentialAliases
  | .building => buildingTiers

/-- The class whose colour is taken when a class has none of its own. -/
def related? : Category → String → Option String
  | .land, "scrubland" => some "scrub"
  | .land, "farmland" => some "cropland"
  | .land, "rock" => some "scrub"
  | .road, "minor" | .tunnel, "minor" | .bridge, "minor" => some "residential"
  | .road, "unclassified" | .tunnel, "unclassified" | .bridge, "unclassified" =>
      some "residential"
  | _, _ => none

end Category

/-- What a category is coloured with: a table by class, the colour of a known class without one,
and the colour of an unknown class. -/
structure Palette where
  table : ClassTable
  classFallback : Option String
  fallback : Option String

namespace Palette

/-- The colour that a table gives a class. -/
def own? (palette : Palette) (featureClass : String) : Option String :=
  (palette.table.lookup featureClass).bind givenColour?

end Palette

namespace Theme

variable {F : Type}

/-- A colour that holds for all features of a category, if one is switched on. -/
def overrideColour (theme : Theme F) : Category → Option String
  | .land => theme.land.bind landOverride
  | .landuse => theme.landuse.bind landOverride
  | .water => theme.water.bind fun config =>
      if config.useOverrideColour then givenColour? config.overrideColour else none
  | .waterway => theme.water.bind fun config =>
      if config.useOverrideColourWaterway then givenColour? config.overrideColourWaterway
      else none
  | _ => none
where
  landOverride (config : LandConfig) : Option String :=
    if config.useOverrideColour then givenColour? config.overrideColour else none

/-- The colours of tunnels or bridges. -/
def roadVariant (theme : Theme F) : Category → Option RoadVariantColours
  | .tunnel => theme.colours.road.tunnel
  | .bridge => theme.colours.road.bridge
  | _ => none

/-- Tunnels and bridges without colours of their own are roads on the surface. -/
def inheriting (theme : Theme F) (category : Category) : Category :=
  match category with
  | .tunnel | .bridge => if (theme.roadVariant category).isNone then .road else category
  | _ => category

def ofClassColours (colours : ClassColours) : Palette :=
  ⟨colours.classes, colours.fallback, colours.fallback⟩

/-- The palette of a category that does not inherit one. -/
def palette (theme : Theme F) (category : Category) : Palette :=
  let road : Palette :=
    ⟨theme.colours.road.byClass, theme.colours.road.other, theme.colours.road.other⟩
  let water := theme.colours.water
  let building := theme.colours.building
  match category with
  | .land => ofClassColours theme.colours.land
  | .landuse => ofClassColours theme.colours.landuse
  | .water => ⟨water.classes, water.fill, (givenColour? water.fallback).or water.fill⟩
  | .waterway => ⟨water.classes, water.line, (givenColour? water.fallback).or water.line⟩
  | .road => road
  | .tunnel | .bridge =>
      match theme.roadVariant category with
      | some variant => ⟨variant.classes, variant.fallback, variant.fallback⟩
      | none => road
  | .building =>
      ⟨building.byTier, building.fill, (givenColour? building.fallback).or building.fill⟩

/-- The colour of a class within the palette of its category. -/
def paletteColour (category : Category) (palette : Palette) (featureClass : String) :
    Option String :=
  if !category.classes.contains featureClass then palette.fallback
  else
    let related := (category.related? featureClass).bind palette.own?
    ((palette.own? featureClass).or related).or palette.classFallback

/-- The colour of a feature class. -/
def resolveColour (theme : Theme F) (category : Category) (featureClass : String) :
    Option String :=
  let source := theme.inheriting category
  (theme.overrideColour source).or
    (paletteColour source (theme.palette source) featureClass)

/-- The colour of the classes that a category does not know. -/
def resolveFallbackColour (theme : Theme F) (category : Category) : Option String :=
  let source := theme.inheriting category
  (theme.overrideColour source).or (theme.palette source).fallback

/-- A category that a colour is asked for by name. -/
def categoryNamed (name : String) : Result F Category :=
  match Category.ofName? name with
  | some category => .ok category
  | none => Result.ofTheme (.unknownCategory name)

end Theme

end MapStyle
