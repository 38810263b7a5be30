import MapStyle.Theme

/-!
# Settings that are in force

What holds where a theme leaves a setting open: standard settings, the font of a group of labels,
whether a domain or a category of points of interest is drawn, and from which zoom on.
-/

namespace MapStyle

set_option autoImplicit false

/-- The domains that are off unless a theme sets them up. -/
inductive Domain where
  | shields
  | pois
  | bathymetry
  | contours
  | ice
  | hillshade
  | grid
  | aeroway
  | places
  deriving DecidableEq, Repr

namespace Domain

def all : List Domain :=
  [.shields, .pois, .bathymetry, .contours, .ice, .hillshade, .grid, .aeroway, .places]

def name : Domain → String
  | .shields => "shields"
  | .pois => "pois"
  | .bathymetry => "bathymetry"
  | .contours => "contours"
  | .ice => "ice"
  | .hillshade => "hillshade"
  | .grid => "grid"
  | .aeroway => "aeroway"
  | .places => "places"

def ofName? (name : String) : Option Domain :=
  all.find? fun domain => domain.name == name

end Domain

/-- A font stack that is given and names a font. -/
def givenFonts? (fonts : Option FontStack) : Option FontStack :=
  fonts.filter fun stack => !stack.isEmpty

namespace Theme

variable {F : Type}

/-- The font stack of every group of labels. -/
def resolveLabelFonts (theme : Theme F) : LabelFonts :=
  let given := theme.labelFonts.getD {}
  let fallback := givenFonts? given.default
  let regular := fallback.getD theme.fonts.regular
  { default := some regular
    place := some ((givenFonts? given.place).getD regular)
    road := some ((givenFonts? given.road).getD regular)
    water := some (((givenFonts? given.water).or fallback).getD theme.fonts.italic)
    poi := some ((givenFonts? given.poi).getD regular)
    grid := some ((givenFonts? given.grid).getD regular) }

def resolveMinZoom (theme : Theme F) : MinZoom F :=
  theme.settings.minZoom.resolve

def resolveView (theme : Theme F) : View F :=
  theme.settings.view

def resolveBoundary (theme : Theme F) : BoundaryConfig :=
  theme.boundary.getD {}

def resolveLand (theme : Theme F) : LandConfig :=
  theme.land.getD {}

def resolveLanduse (theme : Theme F) : LandConfig :=
  theme.landuse.getD {}

def resolveWater (theme : Theme F) : WaterConfig :=
  theme.water.getD {}

/-- Whether an optional domain is drawn. -/
def enabled (theme : Theme F) : Domain → Bool
  | .shields => theme.shields.any (·.enabled)
  | .pois => theme.pois.any (·.enabled)
  | .bathymetry => theme.bathymetry.any (·.enabled)
  | .contours => theme.contours.any (·.enabled)
  | .ice => theme.ice.any (·.enabled)
  | .hillshade => theme.hillshade.any (·.enabled)
  | .grid => theme.grid.any (·.enabled)
  | .aeroway => theme.aeroway.any (·.enabled)
  | .places => theme.places.any (·.enabled)

/-- The domain that is asked for by name. -/
def domainNamed (name : String) : Result F Domain :=
  match Domain.ofName? name with
  | some domain => .ok domain
  | none => Result.ofTheme (.unknownDomain name)

def poiSettings (theme : Theme F) (category : PoiCategory) : Option (PoiSettings F) :=
  theme.pois.bind fun config => config.settings category

/-- Whether a category of points of interest is drawn. -/
def poiEnabled (theme : Theme F) (category : PoiCategory) : Bool :=
  theme.enabled .pois && (theme.poiSettings category).any (·.enabled)

/-- The category of points of interest that is asked for by name. -/
def poiCategoryNamed (name : String) : Result F PoiCategory :=
  match PoiCategory.ofName? name with
  | some category => .ok category
  | none => Result.ofTheme (.unknownPoiCategory name)

variable [Arithmetic F]

/-- A number that is given and not zero. -/
def givenNumber? (number : Option (Number F)) : Option (Number F) :=
  number.filter fun value => !value.isZero

def resolveBuildings (theme : Theme F) : BuildingsConfig F :=
  theme.buildings.getD .standard

/-- The least zoom of a category: its own one, else a default, else the one that holds for all
points of interest. A zero counts as not given. -/
def poiMinZoom (theme : Theme F) (category : PoiCategory) (fallback : Option (Number F)) :
    Number F :=
  let own := (theme.poiSettings category).bind fun settings => givenNumber? settings.minZoom
  let shared := theme.pois.bind fun config => givenNumber? config.minZoom
  ((own.or fallback).or shared).getD PoisConfig.standardMinZoom

end Theme

end MapStyle
