import MapStyle.Expr.Filter
import MapStyle.Expr.LabelText
import MapStyle.Layer.Ground

/-!
# Names of continents, countries, states and settlements

Continents give way to countries when the map is enlarged, and large cities to all settlements.
The size of a settlement's name follows from its rank, or from its class if it has no rank.
-/

namespace MapStyle.Settlement

set_option autoImplicit false

open Property (fixed computed)

variable {F : Type} [Arithmetic F]

/-- How opaque the names of states are. -/
def stateOpacity : Expr F := 0.5

/-- How opaque the names of small settlements are. -/
def townOpacity : Expr F := 0.6

/-- The zoom after which continents are no longer labelled. -/
def continentMaxZoom : Expr F := 2.5

def states : List String :=
  ["Alabama", "Alaska", "Arizona", "Arkansas", "California", "Colorado", "Connecticut",
    "Delaware", "Florida", "Georgia", "Hawaii", "Idaho", "Illinois", "Indiana", "Iowa", "Kansas",
    "Kentucky", "Louisiana", "Maine", "Maryland", "Massachusetts", "Michigan", "Minnesota",
    "Mississippi", "Missouri", "Montana", "Nebraska", "Nevada", "New Hampshire", "New Jersey",
    "New Mexico", "New York", "North Carolina", "North Dakota", "Ohio", "Oklahoma", "Oregon",
    "Pennsylvania", "Rhode Island", "South Carolina", "South Dakota", "Tennessee", "Texas",
    "Utah", "Vermont", "Virginia", "Washington", "West Virginia", "Wisconsin", "Wyoming"]

def classes : List String := ["city", "town", "village", "hamlet", "locality", "suburb"]

/-- A name in capitals, with a line break where it has a blank. -/
def capitals (name : String) : String :=
  String.ofList (name.toList.map fun character =>
    if character = ' ' then '\n' else character.toUpper)

/-- Names of two words are broken into two lines. -/
def twoLines (names : List String) : List (Expr F × Expr F) :=
  names.map fun name => (Expr.equal LabelText.name (.text name), .text (capitals name))

def stateText : Expr F :=
  Expr.caseNode (twoLines (states.filter fun state => state.toList.contains ' '))
    (Expr.upcase LabelText.name)

def continentText : Expr F :=
  Expr.caseNode (twoLines ["North America", "South America"]) (Expr.upcase LabelText.name)

/-- Sizes by rank, each for the ranks up to its own, and sizes for settlements without a rank. -/
structure Sizes (F : Type) where
  byRank : List (Expr F × Expr F)
  otherRank : Expr F
  city : Expr F
  town : Expr F
  other : Expr F

def Sizes.expr (sizes : Sizes F) : Result F (Expr F) := do
  let ranked := Expr.caseNode
    (sizes.byRank.map fun (rank, size) => (Expr.atMost (.get "rank") rank, size))
    sizes.otherRank
  let unranked ←
    Expr.matching (.get "class") [("city", sizes.city), ("town", sizes.town)] sizes.other
  return Expr.caseNode [(Expr.has "rank", ranked)] unranked

def lowSizes : Sizes F where
  byRank := [(1, 10.4), (2, 8.8), (4, 7.6), (6, 6.8), (8, 7.2), (10, 6)]
  otherRank := 5.6
  city := 9.6
  town := 7.6
  other := 6.8

def middleSizes : Sizes F where
  byRank := [(1, 19), (2, 16), (4, 14), (6, 12), (8, 13), (10, 11)]
  otherRank := 10
  city := 18.2
  town := 14
  other := 12

def highSizes : Sizes F where
  byRank := [(1, 22), (2, 19), (4, 16), (6, 15), (8, 16), (10, 13)]
  otherRank := 12
  city := 21.2
  town := 16
  other := 15

def size : Result F (Expr F) := do
  let low ← lowSizes.expr
  let middle ← middleSizes.expr
  let high ← highSizes.expr
  Expr.linear Expr.zoom [(6, low), (10, middle), (15, high)]

/-- Sizes of cities of rank one and of other cities, by zoom. -/
def capitalSize (stops : List (Expr F × Expr F × Expr F)) : Result F (Expr F) :=
  let isFirst := Expr.equal (Expr.coalesce [.get "rank", 1]) 1
  Expr.linear Expr.zoom
    (stops.map fun (zoom, first, other) => (zoom, Expr.caseNode [(isFirst, first)] other))

structure Label (F : Type) where
  id : String
  source : String
  minZoom : Number F
  maxZoom : Option (Number F) := none
  filter : Expr F
  text : Expr F
  size : Result F (Expr F)
  transform : String := "none"
  spacing : Expr F
  extra : List (Property F) := []
  haloWidth : Expr F
  opacity : Expr F

def Label.step (theme : Theme F) (label : Label F) : DrawStep F :=
  let colours := theme.colours.label.place
  .draw
    { id := label.id
      kind := .symbol
      source := label.source
      sourceLayer := "place"
      minZoom := label.minZoom
      maxZoom := label.maxZoom
      filter := label.filter
      layout := [
        fixed "text-field" label.text,
        fixed "text-font" (Expr.texts (theme.resolveLabelFonts.place.getD [])),
        computed "text-size" label.size,
        fixed "text-transform" (.text label.transform),
        fixed "text-letter-spacing" label.spacing] ++ label.extra
      paint := [
        fixed "text-color" (Expr.ofText? colours.colour),
        fixed "text-halo-color" (Expr.ofText? colours.halo),
        fixed "text-halo-width" label.haloWidth,
        fixed "text-halo-blur" 1,
        fixed "text-opacity" label.opacity] }

/-- The names of two continents are moved away from their centres. -/
def continentOffset : Expr F :=
  Expr.caseNode
    [(Expr.equal LabelText.name "North America", .literal (.list [2.0, 4.0])),
      (Expr.equal LabelText.name "South America", .literal (.list [0, Expr.number (-2.0)]))]
    (.literal (.list [0, 0]))

def continents (theme : Theme F) : Label F where
  id := "continent-label"
  source := "world_low"
  minZoom := 0
  maxZoom := some coarseEnd
  filter := Expr.allOf
    [Expr.equal (.get "class") "continent",
      Expr.atMost Expr.zoom continentMaxZoom,
      Expr.unequal LabelText.name "America"]
  text := continentText
  size := Expr.linear Expr.zoom [(0, 12), (continentMaxZoom, 16)]
  spacing := 0.1
  extra := [fixed "text-offset" continentOffset]
  haloWidth := 2
  opacity := Expr.ofNumber? theme.opacities.label.place

def country (theme : Theme F) (id source : String) (sizes : List (Expr F × Expr F))
    (filter : Expr F) (minZoom : Number F) (maxZoom : Option (Number F)) : Label F :=
  { id, source, filter, minZoom, maxZoom
    text := LabelText.abbreviated
    size := Expr.linear Expr.zoom sizes
    transform := "uppercase"
    spacing := 0.1
    haloWidth := 2
    opacity := Expr.ofNumber? theme.opacities.label.place }

def isCountry : Expr F := Expr.equal (.get "class") "country"

def countries (theme : Theme F) : List (Label F) :=
  let pastContinents := Expr.allOf [isCountry, Expr.greater Expr.zoom continentMaxZoom]
  [country theme "country-label-world" "world_low" [(2.5, 10), (3, 12), (6, 16)] pastContinents
      0 (some coarseEnd),
    country theme "country-label-world-mid" "world_mid" [(6, 16), (10, 20)] pastContinents 6 none,
    country theme "country-label" "us_high" [(2, 12), (6, 18), (10, 24)] isCountry 6 none]

def namedStates : List (Label F) :=
  let isState := Expr.equal (.get "class") "state"
  let isKnown := Expr.matchNode LabelText.name [(.labels (states.map .text), .bool true)]
    (.bool false)
  [{ id := "state-label-us-world"
     source := "world_low"
     minZoom := 3.33
     maxZoom := some coarseEnd
     filter := Expr.allOf [isState, isKnown]
     text := stateText
     size := Expr.linear Expr.zoom [(3.33, 8), (6, 12)]
     spacing := 0.05
     haloWidth := 2
     opacity := stateOpacity },
   { id := "state-label-us"
     source := "us_high"
     minZoom := 4
     filter := isState
     text := stateText
     size := Expr.linear Expr.zoom [(4, 8), (8, 16), (12, 18)]
     spacing := 0.05
     haloWidth := 2
     opacity := stateOpacity }]

def isTopCity : Expr F :=
  Expr.allOf
    [Expr.equal (.get "class") "city", Expr.atMost (Expr.coalesce [.get "rank", 10]) 2]

/-- Settlements but for parts of towns and minor villages. -/
def settlementFilter : Expr F :=
  let rankAtMost (rank : Expr F) := Expr.atMost (.get "rank") rank
  Expr.allOf
    [Filter.hasName,
      Expr.isOneOf "class" classes,
      Expr.caseNode
        [(Expr.equal (.get "class") "suburb", Expr.allOf [Expr.has "rank", rankAtMost 8])]
        (.bool true),
      Expr.caseNode
        [(Expr.equal (.get "class") "village",
          Expr.caseNode [(Expr.has "rank", rankAtMost 15)] (.bool true))]
        (.bool true)]

def cities (theme : Theme F) : List (Label F) :=
  let opacity := Expr.ofNumber? theme.opacities.label.place
  [{ id := "city-label-world-rank1-2"
     source := "world_low"
     minZoom := 1
     maxZoom := some coarseEnd
     filter := isTopCity
     text := LabelText.abbreviated
     size := capitalSize [(1, 10.8, 9), (3, 14.4, 12), (6, 16.8, 14)]
     spacing := 0.05
     haloWidth := 1.5
     opacity },
   { id := "city-label-us-rank1-2"
     source := "us_high"
     minZoom := 4
     filter := Expr.allOf [Filter.hasName, isTopCity]
     text := LabelText.abbreviated
     size := capitalSize [(4, 15, 12), (8, 25, 20), (12, 32, 26)]
     spacing := 0.05
     haloWidth := 1.5
     opacity },
   { id := "city-label-us-all"
     source := "us_high"
     minZoom := 8
     filter := settlementFilter
     text := LabelText.abbreviated
     size := size
     spacing := 0.05
     haloWidth := 1.5
     opacity := townOpacity }]

def labels (theme : Theme F) : List (Label F) :=
  continents theme :: (countries theme ++ namedStates ++ cities theme)

/-- The ids of all labels of places. -/
def ids (theme : Theme F) : List String :=
  (labels theme).map Label.id

def steps (theme : Theme F) : List (DrawStep F) :=
  (labels theme).map (Label.step theme)

end MapStyle.Settlement
