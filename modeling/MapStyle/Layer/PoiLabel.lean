import MapStyle.Expr.Curve
import MapStyle.Expr.LabelText
import MapStyle.Layer.Plan

/-!
# Icons of points of interest

Every category that is switched on has a layer for each source with points of interest, the
dedicated source first. The sources describe the same point in different ways, so most filters
accept several combinations of class and subclass. Hospitals, museums, stations and colleges are
split by rank into tiers that start at growing zooms.
-/

namespace MapStyle.PoiLabel

set_option autoImplicit false

open Property (fixed computed)

variable {F : Type} [Arithmetic F]

def sources : List String := ["poi_us", "us_high", "world_mid", "world_low"]

/-! ### Tiers -/

/-- Rank one, rank two, and all ranks after them. -/
inductive Tier where
  | first
  | second
  | others
  deriving DecidableEq, Repr

namespace Tier

def all : List Tier := [.first, .second, .others]

def name : Tier → String
  | .first => "rank1"
  | .second => "rank2"
  | .others => "rank3plus"

/-- A name that is none of the first two stands for the last tier. -/
def ofName (name : String) : Tier :=
  if name = Tier.first.name then .first
  else if name = Tier.second.name then .second
  else .others

/-- The least zoom of a tier; the first one starts with its category. -/
def minZoom? : Tier → Option (Number F)
  | .first => none
  | .second => some 14.5
  | .others => some 15

def iconSize : Tier → Expr F
  | .first => 0.9
  | .second => 0.85
  | .others => 0.75

/-- The ranks of a tier. A feature without a rank counts as one of rank one. -/
def filter : Tier → Expr F
  | .first => Expr.anyOf [Expr.negated (Expr.has "rank"), Expr.equal (.get "rank") 1]
  | .second => Expr.equal (.get "rank") 2
  | .others => Expr.allOf [Expr.has "rank", Expr.greater (.get "rank") 2]

end Tier

/-! ### Filters -/

def hasClass (name : String) : Expr F := Expr.equal (.get "class") (.text name)

def hasSubclass (name : String) : Expr F := Expr.equal (.get "subclass") (.text name)

def hasSubclassOrNone (name : String) : Expr F :=
  Expr.anyOf [Expr.negated (Expr.has "subclass"), hasSubclass name]

/-- Hospitals, but no clinics or doctors. -/
def hospitalFilter (tier : Tier) : Expr F :=
  Expr.anyOf
    [Expr.allOf [Expr.isOneOf "class" ["healthcare"], hasSubclass "hospital", tier.filter],
      Expr.allOf [hasClass "hospital", hasSubclassOrNone "hospital", tier.filter],
      Expr.allOf [Expr.isOneOf "class" ["amenity"], hasSubclass "hospital", tier.filter]]

def museumFilter (tier : Tier) : Expr F :=
  Expr.anyOf
    [Expr.allOf
        [Expr.isOneOf "class" ["entertainment", "tourism"],
          Expr.isOneOf "subclass" ["museum", "gallery"],
          tier.filter],
      Expr.allOf [hasClass "museum", tier.filter]]

def stationSubclasses : List String := ["railway_station", "station", "subway", "train_station"]

def railFilter (tier : Tier) : Expr F :=
  Expr.anyOf
    [Expr.allOf [hasClass "railway", hasSubclass "station", tier.filter],
      Expr.allOf
        [Expr.isOneOf "class" ["transport"],
          Expr.isOneOf "subclass" stationSubclasses,
          tier.filter]]

/-- Colleges and universities. -/
def schoolFilter (tier : Tier) : Expr F :=
  Expr.allOf
    [hasClass "college", Expr.isOneOf "subclass" ["university", "college"], tier.filter]

def airportFilter : Expr F :=
  Expr.anyOf
    [Expr.allOf [Expr.isOneOf "class" ["transport"], hasSubclass "airport"], hasClass "airport"]

def airfieldFilter : Expr F :=
  Expr.allOf [Expr.isOneOf "class" ["transport"], hasSubclass "airfield"]

def zooFilter : Expr F := Expr.allOf [hasClass "zoo", hasSubclass "zoo"]

def stadiumFilter : Expr F :=
  Expr.anyOf
    [Expr.allOf [hasClass "stadium", hasSubclassOrNone "stadium"],
      Expr.allOf
        [Expr.isOneOf "class" ["entertainment", "sport", "leisure"], hasSubclass "stadium"],
      Expr.allOf [hasClass "amenity", hasSubclass "stadium"]]

def parkClasses : List String := ["national_park", "national_monument", "state_park"]

def parkFilter : Expr F :=
  Expr.anyOf
    [Expr.allOf
        [Expr.isOneOf "class" ["leisure", "park"], Expr.isOneOf "subclass" parkClasses],
      Expr.isOneOf "tourism" ["national_park", "national_monument"]]

/-! ### Icons and texts -/

def standardTextSizes : List (Expr F × Expr F) := [(12, 10), (14, 12), (16, 14)]

def layout (theme : Theme F) (icon : String) (iconSize : Expr F)
    (textSizes : List (Expr F × Expr F)) : List (Property F) :=
  [fixed "icon-size" iconSize,
    fixed "icon-allow-overlap" (.bool false),
    fixed "icon-ignore-placement" (.bool false),
    fixed "text-field" LabelText.name,
    fixed "text-font" (Expr.texts (theme.resolveLabelFonts.poi.getD [])),
    computed "text-size" (Expr.linear Expr.zoom textSizes),
    fixed "text-offset" (.list [0, 1.2]),
    fixed "text-anchor" "top",
    fixed "text-optional" (.bool true),
    fixed "text-allow-overlap" (.bool false),
    fixed "symbol-placement" "point",
    fixed "icon-image" (.text icon)]

/-- Icons that stay even where they are crowded. -/
def alwaysShown : List (Property F) :=
  [fixed "icon-allow-overlap" (.bool true),
    fixed "icon-ignore-placement" (.bool true),
    fixed "icon-optional" (.bool false)]

def colours (theme : Theme F) : PoiLabelColours F :=
  theme.colours.label.poi.getD .standard

/-- The width of halos; a width of zero counts as not given. -/
def haloWidth (theme : Theme F) : Number F :=
  (Theme.givenNumber? (colours theme).textHaloWidth).getD 1.5

def paint (theme : Theme F) (iconOpacity : Expr F) : List (Property F) :=
  let found := colours theme
  [fixed "icon-color" (Expr.ofText? found.iconColour),
    fixed "icon-opacity" iconOpacity,
    fixed "text-color" (Expr.ofText? found.textColour),
    fixed "text-halo-color" (Expr.ofText? found.textHalo),
    fixed "text-halo-width" (.number (haloWidth theme)),
    fixed "text-halo-blur" 1]

structure Icon (F : Type) where
  id : String
  source : String
  sourceLayer : String := "poi"
  minZoom : Number F
  condition : Option (Expr F)
  layout : List (Property F)
  iconOpacity : Expr F

def Icon.step (theme : Theme F) (icon : Icon F) : DrawStep F :=
  .draw
    { id := icon.id
      kind := .symbol
      source := icon.source
      sourceLayer := icon.sourceLayer
      minZoom := icon.minZoom
      filter := some (Expr.allOf (Expr.has "name" :: icon.condition.toList))
      layout := icon.layout
      paint := paint theme icon.iconOpacity }

/-- The layout of a category without particular needs. -/
def plainLayout (theme : Theme F) (category : PoiCategory) : List (Property F) :=
  layout theme category.name 0.9 standardTextSizes

def plainOpacity : Expr F := 0.9

/-- A layer of a category that is not split into tiers. -/
def plain (theme : Theme F) (category : PoiCategory) (source : String) (condition : Expr F) :
    Icon F where
  id := "poi-" ++ category.name ++ "-" ++ source
  source
  minZoom := theme.poiMinZoom category none
  condition := some condition
  layout := plainLayout theme category
  iconOpacity := plainOpacity

/-- Airports and stadiums are also found among the places of a source. -/
def asPlace (theme : Theme F) (category : PoiCategory) (source : String)
    (values : List String) : Icon F :=
  { plain theme category source (Expr.isOneOf "place" values) with
    id := "place-" ++ category.name ++ "-" ++ source
    sourceLayer := "place" }

def tierId (category : PoiCategory) (tier : Tier) (source : String) : String :=
  "poi-" ++ category.name ++ "-" ++ tier.name ++ "-" ++ source

def ranked (theme : Theme F) (category : PoiCategory) (source : String) (minZoom : Number F)
    (condition : Tier → Expr F) : List (Icon F) :=
  Tier.all.map fun tier =>
    { id := tierId category tier source
      source
      minZoom := tier.minZoom?.getD minZoom
      condition := some (condition tier)
      layout := layout theme category.name tier.iconSize standardTextSizes
      iconOpacity := plainOpacity }

def railTextSizes : Tier → List (Expr F × Expr F)
  | .first => [(12, 10), (14, 12), (16, 14)]
  | .second => [(14.5, 10), (15, 12), (16, 14)]
  | .others => [(15, 9), (16, 12)]

def railOpacity : Tier → Expr F
  | .first => 0.9
  | .second => 0.85
  | .others => 0.8

/-- Stations stay where they are crowded; lower tiers are smaller and fainter. -/
def rail (theme : Theme F) (source : String) (minZoom : Number F) : List (Icon F) :=
  let shown := Property.override alwaysShown [fixed "icon-ignore-placement" (.bool false)]
  Tier.all.map fun tier =>
    { id := tierId .rail tier source
      source
      minZoom := tier.minZoom?.getD minZoom
      condition := some (railFilter tier)
      layout := Property.override
        (layout theme "rail" tier.iconSize (railTextSizes tier)) shown
      iconOpacity := railOpacity tier }

def stadiumLayout (theme : Theme F) : List (Property F) :=
  Property.override (plainLayout theme .stadium) alwaysShown

def shown (theme : Theme F) (category : PoiCategory) (icons : List (Icon F)) : List (Icon F) :=
  if theme.poiEnabled category then icons else []

/-- The least zoom of stations and colleges that have none of their own. -/
def rankedMinZoom : Number F := 14

/-- Even museums of rank one wait for this zoom. -/
def museumMinZoom : Number F := 14

def sourceIcons (theme : Theme F) (source : String) : List (Icon F) :=
  shown theme .airport [plain theme .airport source airportFilter] ++
    shown theme .airfield [plain theme .airfield source airfieldFilter] ++
    shown theme .airport [asPlace theme .airport source ["airport", "aerodrome"]] ++
    shown theme .hospital
      (ranked theme .hospital source (theme.poiMinZoom .hospital none) hospitalFilter) ++
    shown theme .museum (ranked theme .museum source museumMinZoom museumFilter) ++
    shown theme .zoo [plain theme .zoo source zooFilter] ++
    shown theme .stadium
      [{ plain theme .stadium source stadiumFilter with layout := stadiumLayout theme },
        { asPlace theme .stadium source ["stadium", "stadiums"] with
          layout := stadiumLayout theme }] ++
    shown theme .park [plain theme .park source parkFilter] ++
    shown theme .rail
      (rail theme source (theme.poiMinZoom .rail (some rankedMinZoom))) ++
    shown theme .school
      (ranked theme .school source (theme.poiMinZoom .school (some rankedMinZoom))
        schoolFilter)

/-- Airports of the one source that labels aerodromes. -/
def aerodromes (theme : Theme F) : Icon F where
  id := "aerodrome-label-airport-us_high"
  source := "us_high"
  sourceLayer := "aerodrome_label"
  minZoom := theme.poiMinZoom .airport none
  condition := none
  layout := Property.override (plainLayout theme .airport)
    [fixed "text-ignore-placement" (.bool false)]
  iconOpacity := plainOpacity

/-- Points of parks from the one source with a layer for them. -/
def parkPoints (theme : Theme F) : Icon F where
  id := "park-label-us_high"
  source := "us_high"
  sourceLayer := "park"
  minZoom := theme.poiMinZoom .park none
  condition := some (Expr.allOf
    [Expr.isOneOf "class" parkClasses, Expr.equal (.op "geometry-type" []) "Point"])
  layout := Property.override (plainLayout theme .park) [fixed "symbol-spacing" 250]
  iconOpacity := plainOpacity

def icons (theme : Theme F) : List (Icon F) :=
  sources.flatMap (sourceIcons theme) ++ shown theme .airport [aerodromes theme] ++
    shown theme .park [parkPoints theme]

def steps (theme : Theme F) : List (DrawStep F) :=
  (icons theme).map (Icon.step theme)

end MapStyle.PoiLabel
