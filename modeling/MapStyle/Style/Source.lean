import MapStyle.Theme.Resolve

/-!
# Addresses and sources

Where a style finds its tiles, glyphs and sprites. There is one set of addresses for work on one
computer and one for publication; variables of the environment replace single addresses.

The sources are the archives of tiles that the layers of a style draw from. The source of an
optional domain is only there if the domain is drawn.
-/

namespace MapStyle

set_option autoImplicit false

structure StyleUrls where
  glyphsBase : String
  spriteBase : String
  dataBase : String
  glyphsPath : String
  spritePath : String
  places : Option String
  deriving DecidableEq, Repr

namespace StyleUrls

def dataServer : String := "https://data.storypath.studio"

def localServer : String := "http://localhost:8080"

/-- The addresses of a description that names none. -/
def standard : StyleUrls where
  glyphsBase := localServer
  spriteBase := localServer
  dataBase := dataServer
  glyphsPath := "shared/assets/glyphs"
  spritePath := "shared/assets/sprites/basemap"
  places := none

/-- Tiles and glyphs from the server, sprites from this computer. -/
def onComputer : StyleUrls where
  glyphsBase := dataServer
  spriteBase := localServer
  dataBase := dataServer
  glyphsPath := "glyphs"
  spritePath := "sprites/basemap"
  places := none

def published : StyleUrls :=
  { onComputer with spriteBase := dataServer }

/-- The variables of the environment that count. -/
structure Environment where
  environment : Option String := none
  dataUrl : Option String := none
  glyphsUrl : Option String := none
  spriteUrl : Option String := none
  placesUrl : Option String := none

/-- What all names of these variables begin with. -/
def variableStart : String := "BASEMAP_"

/-- The variables as a program finds them. -/
def Environment.look {m : Type → Type} [Monad m] (valueOf : String → m (Option String)) :
    m Environment := do
  return {
    environment := ← valueOf (variableStart ++ "ENV")
    dataUrl := ← valueOf (variableStart ++ "DATA_URL")
    glyphsUrl := ← valueOf (variableStart ++ "GLYPHS_URL")
    spriteUrl := ← valueOf (variableStart ++ "SPRITE_URL")
    placesUrl := ← valueOf (variableStart ++ "PLACES_URL") }

/-- The name of the environment that stands for publication; every other one is local. -/
def publishedName : String := "production"

def ofName (name : String) : StyleUrls :=
  if name = publishedName then published else onComputer

def given? (value : Option String) : Option String :=
  value.filter fun text => !text.isEmpty

/-- The addresses of the environment that is named, or else of the one that the variables name,
with the replacements of the variables. -/
def ofEnvironment (settings : Environment) (name : Option String) : StyleUrls :=
  let urls := ofName ((name.or settings.environment).getD "local")
  { urls with
    dataBase := (given? settings.dataUrl).getD urls.dataBase
    glyphsBase := (given? settings.glyphsUrl).getD urls.glyphsBase
    spriteBase := (given? settings.spriteUrl).getD urls.spriteBase
    places := (given? settings.placesUrl).or urls.places }

/-- The template of glyph addresses, with places for the fonts and the range of characters. -/
def glyphs (urls : StyleUrls) : String :=
  urls.glyphsBase ++ "/" ++ urls.glyphsPath ++ "/\x7bfontstack\x7d/\x7brange\x7d.pbf"

def sprite (urls : StyleUrls) : String :=
  urls.spriteBase ++ "/" ++ urls.spritePath

/-- The address of an archive of tiles. -/
def archive (urls : StyleUrls) (file : String) : String :=
  "pmtiles://" ++ urls.dataBase ++ "/pmtiles/" ++ file

variable {F : Type}

def read [Arithmetic F] (description : Description F) : Result F StyleUrls := do
  let setting (key standard : String) : Result F String :=
    description.setting key standard (Description.readText key)
  return {
    glyphsBase := ← setting "glyphs_base_url" standard.glyphsBase
    spriteBase := ← setting "sprite_base_url" standard.spriteBase
    dataBase := ← setting "data_base_url" standard.dataBase
    glyphsPath := ← setting "glyphs_path" standard.glyphsPath
    spritePath := ← setting "sprite_path" standard.spritePath
    places := ← description.text "places_url" none }

def toJson (urls : StyleUrls) : Json F :=
  .object [
    ("glyphs_base_url", .text urls.glyphsBase),
    ("sprite_base_url", .text urls.spriteBase),
    ("data_base_url", .text urls.dataBase),
    ("glyphs_path", .text urls.glyphsPath),
    ("sprite_path", .text urls.spritePath),
    ("places_url", .ofOption .text urls.places)]

end StyleUrls

end MapStyle

/-! ### Sources -/

namespace MapStyle.Source

variable {F : Type} [Arithmetic F]

/-- Sources by name, in the order in which they stand in a style. -/
abbrev Table (F : Type) := List (String × Json F)

def vector (url : String) (minZoom : Json F) (maxZoom : Option (Json F)) : Json F :=
  let entries : List (String × Json F) :=
    [("type", "vector"), ("url", .text url), ("minzoom", minZoom)]
  .object (entries ++ (maxZoom.map fun zoom => ("maxzoom", zoom)).toList)

/-- The source that every style shares. -/
def global (urls : StyleUrls) : Table F :=
  [("world_labels", vector (urls.archive "world-labels_z0-10.pmtiles") 0 (some 10))]

/-- The tiles of the base map. -/
def base (urls : StyleUrls) : Table F :=
  [("world_low", vector (urls.archive "world_z0-6.pmtiles") 0 none),
    ("world_mid", vector (urls.archive "world_z6-10.pmtiles") 6 none),
    ("us_high", vector (urls.archive "us_z0-15.pmtiles") 6 (some 15)),
    ("poi_us", vector (urls.archive "poi_us_z12-15.pmtiles") 12 (some 15))]

/-- One source that is there only if a domain is drawn. -/
def ofDomain (theme : Theme F) (domain : Domain) (name : String) (source : Json F) : Table F :=
  if theme.enabled domain then [(name, source)] else []

def grid (urls : StyleUrls) (theme : Theme F) : Json F :=
  let minZoom := theme.grid.bind GridConfig.minZoom
  match theme.grid.bind GridConfig.maxZoom with
  | some maxZoom =>
      vector (urls.archive "graticules.pmtiles") (.ofNumber? minZoom) (some (.number maxZoom))
  | none => vector (urls.archive "graticules.pmtiles") (.ofNumber? minZoom) none

def hillshade (urls : StyleUrls) (theme : Theme F) : Json F :=
  let entries : List (String × Json F) :=
    [("type", "raster-dem"),
      ("url", .text (urls.archive "world_mtn_hillshade.pmtiles")),
      ("minzoom", .ofNumber? (theme.hillshade.bind HillshadeConfig.minZoom))]
  .object (entries ++
    ((theme.hillshade.bind HillshadeConfig.maxZoom).map fun zoom =>
      ("maxzoom", Json.number zoom)).toList)

/-- The sources of the optional domains that are drawn. -/
def optional (urls : StyleUrls) (theme : Theme F) : Table F :=
  ofDomain theme .bathymetry "ne-bathy"
      (vector (urls.archive "ne_bathy_z0-6.pmtiles") 0 (some 6)) ++
    ofDomain theme .contours "world-contours"
      (vector (urls.archive "world_contours_z4-10_mj800_mn350_minz6.pmtiles") 4 (some 10)) ++
    ofDomain theme .ice "ne-ice" (vector (urls.archive "ne_ice_z0-6.pmtiles") 0 (some 6)) ++
    ofDomain theme .grid "world-grid" (grid urls theme) ++
    ofDomain theme .hillshade "world-hillshade" (hillshade urls theme) ++
    ofDomain theme .aeroway "aeroway-world"
      (vector (urls.archive "aeroway-world.pmtiles") 6 (some 15))

def basemap (urls : StyleUrls) (theme : Theme F) : Table F :=
  base urls ++ optional urls theme

/-- The areas of places, with the property that identifies each of them. -/
def places (urls : StyleUrls) : Json F :=
  .object [
    ("type", "vector"),
    ("url", .ofOption .text urls.places),
    ("promoteId", "GEOID")]

end MapStyle.Source
