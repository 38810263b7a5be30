import MapStyle.Expr.Filter
import MapStyle.Expr.LabelText
import MapStyle.Layer.Ground

/-!
# Names of waters

Oceans, seas and lakes are labelled from several sources, so that their names stay while one
source gives way to another. The size of a name follows from the rank of the water, or from what
its name says.
-/

namespace MapStyle.WaterLabel

set_option autoImplicit false

open Property (fixed computed)

variable {F : Type} [Arithmetic F]

def marineClasses : List String := ["ocean", "sea", "gulf", "bay"]

/-- A value in which the name of the water is bound. -/
def withName (body : Expr F) : Expr F :=
  Expr.bind "name" (Expr.coalesce [.get "name:en", .get "name", ""]) body

def nameContains (words : List String) : List (Expr F) :=
  words.map fun word => Expr.contained (.text word) (Expr.variableNamed "name")

/-- One size for every word that the name may contain. -/
def sizeIfNamed (words : List String) (size : Expr F) : List (Expr F × Expr F) :=
  (nameContains words).map fun condition => (condition, size)

def byZoom (stops : List (Expr F × Expr F)) : Result F (Expr F) :=
  Expr.linear Expr.zoom stops

/-! ### Sizes -/

/-- The size of the first rank that the rank of the water does not exceed. -/
def rankSizes (sizes : List (Expr F × Expr F)) (fallback : Expr F) : Expr F :=
  Expr.caseNode (sizes.map fun (rank, size) => (Expr.atMost (.get "rank") rank, size)) fallback

def whole (value : Nat) : Expr F := .number (.int value)

/-- Sizes above a base, by rank if there is one, else by name and class. -/
def nameSizeAt (base : Nat) : Expr F :=
  let byName :=
    sizeIfNamed ["Sea", "sea"] (whole (base + 4)) ++
      sizeIfNamed ["Gulf", "gulf"] (whole (base + 3)) ++
      sizeIfNamed ["Bay", "bay"] (whole (base + 2)) ++
      [(Expr.equal (.get "class") "bay", whole (base + 2)),
        (Expr.equal (.get "class") "lake", whole (base + 3))]
  let byRank := rankSizes
    [(1, whole (base + 6)), (2, whole (base + 4)), (3, whole (base + 3)), (4, whole (base + 2)),
      (6, whole (base + 1))]
    (whole base)
  withName (Expr.caseNode [(Expr.has "rank", byRank)]
    (Expr.caseNode byName (whole (base + 1))))

def nameSize : Result F (Expr F) :=
  byZoom [(4, nameSizeAt 7), (6, nameSizeAt 13), (10, nameSizeAt 18)]

/-- Sizes of regional waters at one zoom: of ponds, of reservoirs, of others, and by rank. -/
structure RegionalSizes where
  pond : Nat
  reservoir : Nat
  other : Nat
  ranks : List Nat
  otherRank : Nat

/-- Ponds and pools stay small whatever their rank, and puddles are still smaller. -/
def RegionalSizes.expr (sizes : RegionalSizes) : Expr F :=
  let small :=
    sizeIfNamed ["Pond", "pond", "Pool", "pool"] (whole sizes.pond) ++
      sizeIfNamed ["Puddle", "puddle"] (whole (sizes.pond - 1))
  let byRank := rankSizes
    ((([1, 2, 3, 4] : List Nat).zip sizes.ranks).map fun (rank, size) => (whole rank, whole size))
    (whole sizes.otherRank)
  let byName := Expr.caseNode
    (sizeIfNamed ["Reservoir", "reservoir"] (whole sizes.reservoir)) (whole sizes.other)
  withName (Expr.caseNode small (Expr.caseNode [(Expr.has "rank", byRank)] byName))

def regionalMajorSize : Result F (Expr F) :=
  byZoom
    [(6, RegionalSizes.expr ⟨6, 11, 10, [16, 14, 12, 10], 8⟩),
      (10, RegionalSizes.expr ⟨6, 14, 13, [22, 19, 16, 13], 10⟩),
      (12, RegionalSizes.expr ⟨7, 18, 17, [26, 23, 20, 17], 13⟩),
      (15, RegionalSizes.expr ⟨8, 19, 18, [30, 26, 22, 18], 14⟩)]

def marineSize (sea gulf bay lake other : Expr F) : Result F (Expr F) :=
  Expr.matching (.get "class")
    [("sea", sea), ("gulf", gulf), ("bay", bay), ("lake", lake)] other

def marineSizes : Result F (Expr F) := do
  let low ← marineSize 10 8 6 9 7
  let middle ← marineSize 15 11 9 13 11
  let high ← marineSize 25 20 17 23 20
  byZoom [(4, low), (6, middle), (10, high)]

/-! ### Names at points -/

/-- A name at a point; narrow halos are for waters other than the sea. -/
structure Label (F : Type) where
  id : String
  source : String
  sourceLayer : String
  size : Result F (Expr F)
  padding : Expr F
  filter : Option (Expr F) := none
  text : Expr F := LabelText.name
  narrowHalo : Bool := false
  minZoom : Number F
  maxZoom : Option (Number F) := none

def paint (theme : Theme F) (haloWidth : Expr F) (opacity : Option (Number F)) :
    List (Property F) :=
  let colours := theme.colours.label.water
  [fixed "text-color" (Expr.ofText? colours.colour),
    fixed "text-halo-color" (Expr.ofText? colours.halo),
    fixed "text-halo-width" haloWidth,
    fixed "text-halo-blur" 1,
    fixed "text-opacity" (Expr.ofNumber? opacity)]

def font (theme : Theme F) : Expr F :=
  Expr.texts (theme.resolveLabelFonts.water.getD [])

def Label.step (theme : Theme F) (label : Label F) : DrawStep F :=
  .draw
    { id := label.id
      kind := .symbol
      source := label.source
      sourceLayer := label.sourceLayer
      minZoom := label.minZoom
      maxZoom := label.maxZoom
      filter := label.filter
      layout := [
        fixed "text-field" label.text,
        fixed "text-font" (font theme),
        computed "text-size" label.size,
        fixed "symbol-placement" "point",
        fixed "text-padding" label.padding]
      paint := paint theme (if label.narrowHalo then 1.5 else 2) theme.opacities.label.water }

def isOcean : Expr F := withName (Expr.anyOf (nameContains ["Ocean", "ocean"]))

def isNoOcean : Expr F :=
  withName (Expr.allOf ((nameContains ["Ocean", "ocean"]).map Expr.negated))

/-- A name and a further condition. -/
def named (condition : Expr F) : Option (Expr F) :=
  some (Expr.allOf [Filter.hasName, condition])

def onlyNamed : Option (Expr F) :=
  some (Expr.allOf [Filter.hasName])

/-- Oceans, seas and lakes of the global source. -/
def globalLabels : List (Label F) :=
  let oceanSize : Result F (Expr F) := byZoom [(1, 11), (3, 16), (6, 22), (10, 26)]
  [{ id := "marine-label-world-labels-place-ocean", source := "world_labels",
     sourceLayer := "place", size := oceanSize, padding := 10,
     filter := named (Expr.equal (.get "class") "ocean"), minZoom := 1, maxZoom := some 10 },
   { id := "marine-label-world-labels-place", source := "world_labels", sourceLayer := "place",
     size := marineSizes, padding := 10,
     filter := named (Expr.anyOf
       [Expr.isOneOf "class" ["sea", "gulf", "bay"], Expr.equal (.get "class") "lake"]),
     minZoom := 4, maxZoom := some 10 },
   { id := "water-label-world-labels-watername-ocean", source := "world_labels",
     sourceLayer := "water_name", size := oceanSize, padding := 8, filter := named isOcean,
     narrowHalo := true, minZoom := 1, maxZoom := some 10 },
   { id := "water-label-world-labels-watername", source := "world_labels",
     sourceLayer := "water_name", size := nameSize, padding := 8, filter := named isNoOcean,
     narrowHalo := true, minZoom := 4, maxZoom := some 10 }]

/-- A class of the sea, or no class. -/
def isMarineOrUnclassed : Expr F :=
  Expr.caseNode [(Expr.has "class", Expr.isOneOf "class" marineClasses)] (.bool true)

/-- A rank above a limit. -/
def rankAbove (limit : Expr F) : Expr F :=
  Expr.caseNode [(Expr.has "rank", Expr.greater (.get "rank") limit)] (.bool false)

def coarseLabels : List (Label F) :=
  let size : Result F (Expr F) := byZoom [(1, 14), (3, 18), (6, 24)]
  [{ id := "marine-label-world-watername-ocean", source := "world_low",
     sourceLayer := "water_name_ocean", size := size, padding := 10,
     text := Expr.coalesce [.get "name:en", .get "name", .get "name_int", ""],
     minZoom := 1, maxZoom := some coarseEnd },
   { id := "marine-label-world-watername", source := "world_low", sourceLayer := "water_name",
     size := size, padding := 10, filter := named isMarineOrUnclassed, minZoom := 1,
     maxZoom := some coarseEnd },
   { id := "marine-label-world", source := "world_low", sourceLayer := "place", size := size,
     padding := 10, filter := named Filter.marineClass, minZoom := 1,
     maxZoom := some coarseEnd },
   { id := "water-label-world-major", source := "world_low", sourceLayer := "water_name",
     size := byZoom [(2, 12), (4, 14), (6, 18)], padding := 8, filter := onlyNamed,
     narrowHalo := true, minZoom := 2, maxZoom := some coarseEnd },
   { id := "water-label-world", source := "world_low", sourceLayer := "water_name",
     size := byZoom [(4, 10), (6, 14)], padding := 8, filter := named (rankAbove 2),
     narrowHalo := true, minZoom := 4, maxZoom := some coarseEnd }]

def middleLabels : List (Label F) :=
  let size : Result F (Expr F) := byZoom [(6, 20), (8, 24), (10, 28)]
  [{ id := "marine-label-world-mid-watername-ocean", source := "world_mid",
     sourceLayer := "water_name_ocean", size := size, padding := 10, filter := onlyNamed,
     minZoom := 6 },
   { id := "marine-label-world-mid-watername", source := "world_mid",
     sourceLayer := "water_name", size := size, padding := 10,
     filter := named isMarineOrUnclassed, minZoom := 6 },
   { id := "marine-label-world-mid", source := "world_mid", sourceLayer := "place",
     size := size, padding := 10, filter := named Filter.marineClass, minZoom := 6 },
   { id := "water-label-world-mid-major", source := "world_mid", sourceLayer := "water_name",
     size := byZoom [(6, 16), (8, 18), (10, 22)], padding := 8, filter := onlyNamed,
     narrowHalo := true, minZoom := 6 },
   { id := "water-label-world-mid", source := "world_mid", sourceLayer := "water_name",
     size := byZoom [(7, 12), (10, 16)], padding := 8,
     filter := some (Expr.allOf [Expr.has "name", rankAbove 3]), narrowHalo := true,
     minZoom := 7 }]

def regionalLabels : List (Label F) :=
  let size : Result F (Expr F) := byZoom [(4, 16), (8, 20), (12, 26), (15, 32)]
  [{ id := "marine-label-us-watername-ocean", source := "us_high",
     sourceLayer := "water_name_ocean", size := size, padding := 10, filter := onlyNamed,
     minZoom := 4 },
   { id := "marine-label-us-watername", source := "us_high", sourceLayer := "water_name",
     size := size, padding := 10, filter := named isMarineOrUnclassed, minZoom := 4 },
   { id := "marine-label-us", source := "us_high", sourceLayer := "place", size := size,
     padding := 10, filter := named (Expr.isOneOf "class" (marineClasses ++ ["lake"])),
     minZoom := 4 },
   { id := "water-label-us-place", source := "us_high", sourceLayer := "place",
     size := byZoom [(6, 14), (10, 18), (15, 24)], padding := 8,
     filter := named (Expr.equal (.get "class") "lake"), narrowHalo := true, minZoom := 6 },
   { id := "water-label-us-major", source := "us_high", sourceLayer := "water_name",
     size := regionalMajorSize, padding := 8,
     filter := named (Expr.caseNode [(Expr.has "rank", Expr.atMost (.get "rank") 4)]
       (.bool true)),
     narrowHalo := true, minZoom := 6 },
   { id := "water-label-us", source := "us_high", sourceLayer := "water_name",
     size := byZoom [(10, 11), (12, 14), (15, 18)], padding := 8, filter := named (rankAbove 4),
     narrowHalo := true, minZoom := 10 }]

def global (theme : Theme F) : List (DrawStep F) :=
  globalLabels.map (Label.step theme)

def basemap (theme : Theme F) : List (DrawStep F) :=
  (coarseLabels ++ middleLabels ++ regionalLabels).map (Label.step theme)

/-! ### Names along waterways -/

def waterwaySize (river canal stream ditch : Expr F) : Result F (Expr F) :=
  Expr.matching (.get "class")
    [("river", river), ("canal", canal), ("stream", stream), ("ditch", ditch), ("drain", ditch)]
    stream

/-- A size by class at each of several zooms. -/
def waterwaySizes (stops : List (Expr F × Result F (Expr F))) : Result F (Expr F) := do
  byZoom (← stops.mapM fun stop => do return (stop.1, ← stop.2))

def waterway (theme : Theme F) (id source : String) (size : Result F (Expr F))
    (minZoom : Number F) (maxZoom : Option (Number F)) : DrawStep F :=
  .draw
    { id, maxZoom
      kind := .symbol
      source := source
      sourceLayer := "waterway"
      minZoom := minZoom
      filter := onlyNamed
      layout := [
        fixed "text-font" (font theme),
        fixed "symbol-placement" "line",
        fixed "text-rotation-alignment" "map",
        fixed "text-pitch-alignment" "viewport",
        fixed "symbol-spacing" 200,
        fixed "text-field" LabelText.name,
        computed "text-size" size]
      paint := paint theme 1.5 theme.opacities.label.waterway }

def waterways (theme : Theme F) : List (DrawStep F) :=
  [waterway theme "waterway-label-world" "world_low"
      (waterwaySizes [(6, waterwaySize 10 8 7 6), (6.5, waterwaySize 12 10 8 7)])
      6 (some coarseEnd),
    waterway theme "waterway-label-world-mid" "world_mid"
      (waterwaySizes [(6, waterwaySize 12 10 9 8), (10, waterwaySize 16 13 11 10)]) 6 none,
    waterway theme "waterway-label-us" "us_high"
      (waterwaySizes
        [(10, waterwaySize 10 8 7 6), (12, waterwaySize 12 10 8 7),
          (15, waterwaySize 14 11 9 8)])
      10 none]

end MapStyle.WaterLabel
