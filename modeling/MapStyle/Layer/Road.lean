import MapStyle.Expr.Filter
import MapStyle.Layer.Building
import MapStyle.Layer.Ground

/-!
# Roads, paths and railways

Three groups at different heights of the stack: major roads of the whole world; tunnels, casings,
paths, bridges, railways and buildings of the region; and, over regional land, roads on the
surface with bridges on top of everything that crosses below them. A road is a wider casing and a
narrower line on it.
-/

namespace MapStyle.Road

set_option autoImplicit false

open Property (fixed computed)

variable {F : Type} [Arithmetic F]

/-- Lines with round ends and joints. -/
def roundLine : List (Property F) :=
  [fixed "line-cap" "round", fixed "line-join" "round"]

structure Line (F : Type) where
  id : String
  filter : Expr F
  paint : List (Property F)
  source : String := "us_high"
  minZoom : Number F := 6
  maxZoom : Option (Number F) := none
  isRound : Bool := true

def Line.step (line : Line F) : DrawStep F :=
  .draw
    { id := line.id
      kind := .line
      source := line.source
      sourceLayer := "transportation"
      minZoom := line.minZoom
      maxZoom := line.maxZoom
      filter := line.filter
      layout := if line.isRound then roundLine else []
      paint := line.paint }

def colourAndWidth (colour width : Result F (Expr F)) : List (Property F) :=
  [computed "line-color" colour, computed "line-width" width]

def plainColour (colour : Option String) : Result F (Expr F) :=
  .ok (Expr.ofText? colour)

def widthBetween (stops : List (Expr F × Expr F)) : Result F (Expr F) :=
  Expr.linear Expr.zoom stops

def casingWidth (theme : Theme F) : Result F (Expr F) :=
  theme.widths.roadCasing.widthFor theme.settings

def roadWidth (theme : Theme F) : Result F (Expr F) :=
  theme.widths.road.widthFor theme.settings

/-- Tunnels and bridges have the widths of other roads unless they have their own. -/
def tunnelWidth (theme : Theme F) : Result F (Expr F) :=
  (theme.widths.tunnelRoad.getD theme.widths.road).widthFor theme.settings

def bridgeWidth (theme : Theme F) : Result F (Expr F) :=
  (theme.widths.bridgeRoad.getD theme.widths.road).widthFor theme.settings

/-- The casing of tunnels: a colour of its own, else that of the tunnel colours, else that of all
roads. -/
def tunnelCasing (theme : Theme F) : Option String :=
  let colours := theme.colours.road
  let ofVariant := colours.tunnel.bind fun variant => givenColour? variant.casing
  ((givenColour? colours.tunnelCasing).or ofVariant).or colours.casing

/-- Bridges have a casing only if their colours name one. -/
def bridgeCasing (theme : Theme F) (id : String) (width : Result F (Expr F)) :
    List (DrawStep F) :=
  match theme.colours.road.bridge.bind RoadVariantColours.casing with
  | none => []
  | some colour =>
      [Line.step
        { id
          filter := Filter.bridge
          paint := colourAndWidth (.ok (.text colour)) width }]

def world (theme : Theme F) : List (DrawStep F) :=
  [Line.step
    { id := "road-world"
      source := "world_low"
      filter := Filter.majorRoad
      paint := colourAndWidth theme.majorRoadLine (widthBetween [(0, 0.2), (6, 0.6)])
      minZoom := 0
      maxZoom := some coarseEnd },
    Line.step
      { id := "road-world-mid"
        source := "world_mid"
        filter := Filter.majorRoad
        paint := colourAndWidth theme.majorRoadLine (widthBetween [(6, 0.6), (10, 1.0)]) }]

/-- The width of a path or railway without stops of its own. -/
def trackWidth : Expr F := 0.5

def regional (theme : Theme F) : List (DrawStep F) :=
  let colours := theme.colours
  let widths := theme.widths
  let casing := casingWidth theme
  let tunnel := tunnelWidth theme
  let bridge := bridgeWidth theme
  [.need casing, .need tunnel, .need bridge,
    Line.step
      { id := "road-tunnel-casing"
        filter := Filter.tunnel
        paint := colourAndWidth (plainColour (tunnelCasing theme)) casing ++
          [fixed "line-opacity" (Expr.ofNumber? theme.opacities.tunnel)] },
    Line.step
      { id := "road-tunnel"
        filter := Filter.tunnel
        paint := colourAndWidth theme.tunnelLine tunnel ++
          [fixed "line-dasharray" (.list [2, 2])] },
    Line.step
      { id := "road-casing"
        filter := Filter.normalRoad
        paint := colourAndWidth (plainColour colours.road.casing) casing },
    Line.step
      { id := "paths"
        filter := Filter.path
        paint := colourAndWidth (plainColour colours.path)
          (Expr.zoomWidth widths.path trackWidth) }] ++
    bridgeCasing theme "road-bridge-casing" casing ++
    [Line.step
      { id := "road-bridge"
        filter := Filter.bridge
        paint := colourAndWidth theme.bridgeLine bridge },
    Line.step
      { id := "railway"
        filter := Filter.railway
        paint := colourAndWidth (plainColour colours.railway)
          (Expr.zoomWidth widths.railway trackWidth)
        isRound := false }] ++
    Building.regional theme

/-- Roads on the surface that no other layer draws. -/
def otherFilter : Expr F :=
  Expr.allOf (Filter.atGrade ++ [Expr.negated (Expr.isOneOf "class" Filter.normalRoadClasses)])

def overlay (theme : Theme F) : List (DrawStep F) :=
  let colours := theme.colours.road
  Building.overlay theme ++
    [Line.step
      { id := "road-casing-us"
        filter := Filter.normalRoad
        paint := colourAndWidth (plainColour colours.casing) (casingWidth theme) },
    Line.step
      { id := "road-us"
        filter := Filter.normalRoad
        paint := colourAndWidth theme.roadLine (roadWidth theme) },
    Line.step
      { id := "road-alley"
        filter := Filter.alley
        paint := colourAndWidth (plainColour colours.service)
          (widthBetween [(14, 0.3), (15, 0.6), (18, 1.2)])
        minZoom := 14 },
    Line.step
      { id := "road-parking-aisle"
        filter := Filter.parkingAisle
        paint := colourAndWidth
          (plainColour ((givenColour? colours.parkingAisle).or colours.service))
          (widthBetween [(15, 0.2), (16, 0.4), (18, 0.8)])
        minZoom := 15 },
    Line.step
      { id := "road-other"
        filter := otherFilter
        paint := colourAndWidth (plainColour colours.other)
          (widthBetween [(14, 0.3), (15, 0.5)])
        minZoom := 14 }] ++
    bridgeCasing theme "road-bridge-casing-us" (casingWidth theme) ++
    [Line.step
      { id := "road-bridge-us"
        filter := Filter.bridge
        paint := colourAndWidth theme.bridgeLine (bridgeWidth theme) }]

end MapStyle.Road
