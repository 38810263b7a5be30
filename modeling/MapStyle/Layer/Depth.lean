import MapStyle.Colour.Ramp
import MapStyle.Expr.Width
import MapStyle.Layer.Plan

/-!
# Ocean depth and ice

Twelve areas of ocean depth, one for each depth of the source, drawn from deep to shallow so that
every band lies on the deeper ones. The opacity of a band follows from its depth, and all of them
fade out after the largest zoom. Glaciers, ice shelves and the edge of the ice fade like them.
-/

namespace MapStyle

set_option autoImplicit false

open Property (fixed computed)

variable {F : Type} [Arithmetic F]

namespace Depth

/-- Names of depths, from shallow to deep. -/
def bands : List String := ["shallow", "shelf", "slope", "deep1", "deep2", "abyss", "trench"]

/-- The depths, in metres, at which the colours of the bands are reached. -/
def checkpoints : List Nat := [0, 200, 1000, 2000, 4000, 6000, 10000]

/-- The opacity of each band as a part of the largest one. -/
def opacityFactors : List (Number F) := [1.0, 0.95, 0.85, 0.70, 0.55, 0.40, 0.25]

/-- The areas of the source and their depths, from deep to shallow. -/
def areas : List (String × Nat) :=
  [("ne_10m_bathymetry_A_10000", 10000),
    ("ne_10m_bathymetry_B_9000", 9000),
    ("ne_10m_bathymetry_C_8000", 8000),
    ("ne_10m_bathymetry_D_7000", 7000),
    ("ne_10m_bathymetry_E_6000", 6000),
    ("ne_10m_bathymetry_F_5000", 5000),
    ("ne_10m_bathymetry_G_4000", 4000),
    ("ne_10m_bathymetry_H_3000", 3000),
    ("ne_10m_bathymetry_I_2000", 2000),
    ("ne_10m_bathymetry_J_1000", 1000),
    ("ne_10m_bathymetry_K_200", 200),
    ("ne_10m_bathymetry_L_0", 0)]

/-- The colour of every band. Without colours of their own the bands have a ramp that is derived
from the colour of water. -/
def colours (config : BathymetryConfig F) (water : Option String) :
    Result F (List (Option String)) := do
  match config.colours.filter fun table => !table.isEmpty with
  | some table =>
      return bands.map fun band => ((table.lookup band).bind givenColour?).or water
  | none =>
      return (← Colour.bathymetryRamp (F := F) (← Result.require "water.fill" water)).map some

/-- The opacity of every band: its own one, or a part of the largest one. -/
def opacities (config : BathymetryConfig F) : Result F (List (Number F)) :=
  (bands.zip opacityFactors).mapM fun (band, factor) => do
    match (config.depthOpacities.bind fun table => table.lookup band).bind id with
    | some value => return value
    | none =>
        let largest ← Result.require "bathymetry.opacity.max" config.opacity.atMax
        return ← largest.mul factor

/-- The opacity of the first checkpoint that a depth does not exceed, else the last one of the
ramp. -/
def opacityAt (depth : Number F) (ramp : List (Number F)) : Option (Number F) :=
  let reached := (checkpoints.dropLast.zip ramp).find? fun entry =>
    depth.le (.int entry.1)
  (reached.map Prod.snd).or ramp.getLast?

/-- How much fainter the bands are at the least zoom. -/
def fadeRatio (opacity : ValueRange F) : Result F (Number F) := do
  let least ← Result.require "opacity.min" opacity.atMin
  let largest ← Result.require "opacity.max" opacity.atMax
  return ← least.div largest

/-- The depth of a feature. It may be stored with a negative sign, and a feature without a depth
lies at the surface. -/
def depth : Expr F :=
  Expr.caseNode
    [(Expr.has "depth",
      Expr.caseNode [(Expr.atLeast (.get "depth") 0, .get "depth")]
        (Expr.product [.get "depth", Expr.number (Number.int (Int.negOfNat 1))]))]
    0

def fill (config : BathymetryConfig F) (water : Option String) : Result F (Expr F) := do
  let found ← colours config water
  Expr.linear depth
    ((checkpoints.zip found).map fun (checkpoint, colour) =>
      (Expr.number (.int checkpoint), Expr.ofText? colour))

/-- The curve of the opacity of a band: fainter at the least zoom, gone after the largest. -/
def opacity (config : BathymetryConfig F) (areaDepth : Nat) : Result F (Expr F) := do
  let ramp ← opacities config
  let full ← Result.require "bathymetry.depth_opacities" (opacityAt (.int areaDepth) ramp)
  let minZoom ← Result.require "bathymetry.min_zoom" config.minZoom
  let maxZoom ← Result.require "bathymetry.max_zoom" config.maxZoom
  let start ← full.mul (← fadeRatio config.opacity)
  Expr.zoomFade minZoom maxZoom (.number start) (.number full)

def plan (config : BathymetryConfig F) (water : Option String) (area : String × Nat) :
    LayerPlan F where
  id := "bathymetry-fill-" ++ area.1
  kind := .fill
  source := "ne-bathy"
  sourceLayer := area.1
  minZoom := config.minZoom
  maxZoom := config.maxZoom.map Number.next
  paint := [
    computed "fill-color" (fill config water),
    computed "fill-opacity" (opacity config area.2)]

def draw (config : BathymetryConfig F) (water : Option String) : List (DrawStep F) :=
  [.need (colours config water), .need (opacities config), .need (fadeRatio config.opacity)] ++
    areas.map fun area => .draw (plan config water area)

def steps (theme : Theme F) : List (DrawStep F) :=
  DrawStep.ofDomain theme.bathymetry (·.enabled) fun config => draw config theme.colours.water.fill

end Depth

namespace Ice

def fade (config : IceConfig F) (opacity : Option (Number F)) : Result F (Expr F) := do
  let ratio ← Depth.fadeRatio config.opacity
  let minZoom ← Result.require "ice.min_zoom" config.minZoom
  let maxZoom ← Result.require "ice.max_zoom" config.maxZoom
  let full ← Result.require "ice.opacity" opacity
  Expr.zoomFade minZoom maxZoom (.number (← full.mul ratio)) (.number full)

def plan (config : IceConfig F) (id : String) (kind : LayerKind) (sourceLayer : String)
    (filter : Option (Expr F)) (paint : List (Property F)) : LayerPlan F :=
  { id, kind, sourceLayer, filter, paint
    source := "ne-ice"
    minZoom := config.minZoom
    maxZoom := config.maxZoom.map Number.next }

/-- An area and its outline. The outline has the colour of the area and no width, which keeps the
seams between polygons from being seen. -/
def area (config : IceConfig F) (id sourceLayer : String) (fill : IceFill F) :
    List (DrawStep F) :=
  let opacity := fade config (fill.opacity.or config.opacity.atMax)
  let colour := Expr.ofText? fill.colour
  [.draw (plan config id .fill sourceLayer (some (Expr.allOf []))
      [fixed "fill-color" colour,
        computed "fill-opacity" opacity,
        fixed "fill-antialias" (.bool false)]),
    .draw (plan config (id ++ "-outline") .line sourceLayer none
      [fixed "line-color" colour,
        fixed "line-width" 0,
        computed "line-opacity" opacity])]

def shownEdge (config : IceConfig F) (edge : IceEdge F) : LayerPlan F :=
  plan config "ice-edge" .line "ice_edge" (some (Expr.allOf []))
    [fixed "line-color" (Expr.ofText? edge.colour),
      fixed "line-width" (Expr.ofNumber? edge.width),
      computed "line-opacity" (fade config edge.opacity)]

def hiddenEdge (config : IceConfig F) : LayerPlan F :=
  plan config "ice-edge-hidden" .line "ice_edge" none
    [fixed "line-opacity" 0, fixed "line-width" 0]

def edge (config : IceConfig F) : LayerPlan F :=
  match config.iceEdge.filter (·.enabled) with
  | some shown => shownEdge config shown
  | none => hiddenEdge config

def draw (config : IceConfig F) : List (DrawStep F) :=
  area config "ice-glaciated" "glaciated" config.glaciated ++
    area config "ice-shelves" "ice_shelves" config.iceShelves ++
    [.draw (edge config)]

def steps (theme : Theme F) : List (DrawStep F) :=
  DrawStep.ofDomain theme.ice (·.enabled) draw

end Ice

end MapStyle
