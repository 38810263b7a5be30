import MapStyle.Theme.Aeroway
import MapStyle.Theme.Base
import MapStyle.Theme.Colours
import MapStyle.Theme.Fonts
import MapStyle.Theme.Grid
import MapStyle.Theme.Opacities
import MapStyle.Theme.Places
import MapStyle.Theme.Poi
import MapStyle.Theme.Relief
import MapStyle.Theme.Settings
import MapStyle.Theme.Shields
import MapStyle.Theme.Starfield
import MapStyle.Theme.Widths

/-!
# Themes

A theme holds every colour, width, opacity and setting from which a style is compiled. The
optional domains are off while they are left open; boundaries, buildings, land and water take
standard settings instead.
-/

namespace MapStyle

set_option autoImplicit false

structure Theme (F : Type) where
  name : String
  colours : ThemeColours F
  fonts : Fonts
  labelFonts : Option LabelFonts
  widths : ThemeWidths F
  opacities : ThemeOpacities F
  settings : ThemeSettings F
  description : Option String
  shields : Option (ShieldsConfig F)
  pois : Option (PoisConfig F)
  bathymetry : Option (BathymetryConfig F)
  contours : Option (ContoursConfig F)
  ice : Option (IceConfig F)
  hillshade : Option (HillshadeConfig F)
  grid : Option (GridConfig F)
  aeroway : Option (AerowayConfig F)
  places : Option (PlacesConfig F)
  starfield : Option (StarfieldConfig F)
  boundary : Option BoundaryConfig
  buildings : Option (BuildingsConfig F)
  land : Option LandConfig
  landuse : Option LandConfig
  water : Option WaterConfig

namespace Theme

variable {F : Type} [Arithmetic F]

/-- A theme of which only the name and the colours are given. -/
def plain (name : String) (colours : ThemeColours F) : Theme F where
  name
  colours
  fonts := .standard
  labelFonts := none
  widths := .standard
  opacities := .standard
  settings := .standard
  description := ""
  shields := none
  pois := none
  bathymetry := none
  contours := none
  ice := none
  hillshade := none
  grid := none
  aeroway := none
  places := none
  starfield := none
  boundary := none
  buildings := none
  land := none
  landuse := none
  water := none

/-- A name is a text that is not empty. -/
def readName (value : Json F) : Result F String :=
  if value.isBlank then Result.ofTheme .emptyName else Description.readText "name" value

/-- The name is checked when all parts have been read. -/
def read (description : Description F) : Result F (Theme F) := do
  let colours ← description.mandatoryPart "colors" ThemeColours.read
  let fonts ← description.part "fonts" .standard Fonts.read
  let labelFonts ← description.partOrOpen "label_fonts" none LabelFonts.read
  let widths ← description.part "widths" .standard ThemeWidths.read
  let opacities ← description.part "opacities" .standard ThemeOpacities.read
  let settings ← description.part "settings" .standard ThemeSettings.read
  let words ← description.text "description" ""
  let shields ← description.partOrOpen "shields" none ShieldsConfig.read
  let pois ← description.partOrOpen "pois" none PoisConfig.read
  let bathymetry ← description.partOrOpen "bathymetry" none BathymetryConfig.read
  let contours ← description.partOrOpen "contours" none ContoursConfig.read
  let ice ← description.partOrOpen "ice" none IceConfig.read
  let hillshade ← description.partOrOpen "hillshade" none HillshadeConfig.read
  let grid ← description.partOrOpen "grid" none GridConfig.read
  let aeroway ← description.partOrOpen "aeroway" none AerowayConfig.read
  let places ← description.partOrOpen "places" none PlacesConfig.read
  let starfield ← description.partOrOpen "starfield" none StarfieldConfig.read
  let boundary ← description.partOrOpen "boundary" none BoundaryConfig.read
  let buildings ← description.partOrOpen "buildings" none BuildingsConfig.read
  let land ← description.partOrOpen "land" none LandConfig.read
  let landuse ← description.partOrOpen "landuse" none LandConfig.read
  let water ← description.partOrOpen "water" none WaterConfig.read
  let name ← description.mandatory "name" readName
  return {
    name, colours, fonts, labelFonts, widths, opacities, settings, description := words,
    shields, pois, bathymetry, contours, ice, hillshade, grid, aeroway, places, starfield,
    boundary, buildings, land, landuse, water }

def ofJson (value : Json F) : Result F (Theme F) := do
  read (← Description.ofJson "theme" value)

def toJson (theme : Theme F) : Json F :=
  .object [
    ("name", .text theme.name),
    ("colors", theme.colours.toJson),
    ("fonts", theme.fonts.toJson),
    ("label_fonts", .ofOption LabelFonts.toJson theme.labelFonts),
    ("widths", theme.widths.toJson),
    ("opacities", theme.opacities.toJson),
    ("settings", theme.settings.toJson),
    ("description", .ofText? theme.description),
    ("shields", .ofOption ShieldsConfig.toJson theme.shields),
    ("pois", .ofOption PoisConfig.toJson theme.pois),
    ("bathymetry", .ofOption BathymetryConfig.toJson theme.bathymetry),
    ("contours", .ofOption ContoursConfig.toJson theme.contours),
    ("ice", .ofOption IceConfig.toJson theme.ice),
    ("hillshade", .ofOption HillshadeConfig.toJson theme.hillshade),
    ("grid", .ofOption GridConfig.toJson theme.grid),
    ("aeroway", .ofOption AerowayConfig.toJson theme.aeroway),
    ("places", .ofOption PlacesConfig.toJson theme.places),
    ("starfield", .ofOption StarfieldConfig.toJson theme.starfield),
    ("boundary", .ofOption BoundaryConfig.toJson theme.boundary),
    ("buildings", .ofOption BuildingsConfig.toJson theme.buildings),
    ("land", .ofOption LandConfig.toJson theme.land),
    ("landuse", .ofOption LandConfig.toJson theme.landuse),
    ("water", .ofOption WaterConfig.toJson theme.water)]

end Theme

end MapStyle
