import MapStyle.Expr.Width
import MapStyle.Layer.Plan

/-!
# Hills and contour lines

Shaded relief, and lines of equal height that fade out after their largest zoom.
-/

namespace MapStyle

set_option autoImplicit false

open Property (fixed computed)

variable {F : Type} [Arithmetic F]

namespace Hillshade

/-- Shading has no opacity of its own, so the opacity scales the exaggeration. -/
def strength (config : HillshadeConfig F) : Result F (Number F) := do
  let exaggeration ← Result.require "hillshade.exaggeration" config.exaggeration
  let opacity ← Result.require "hillshade.opacity" config.opacity
  return ← exaggeration.mul opacity

/-- With a largest zoom the shading fades out over the zoom that follows. -/
def exaggeration (config : HillshadeConfig F) : Result F (Expr F) := do
  let full ← strength config
  match config.maxZoom with
  | none => return .number full
  | some maxZoom =>
      let minZoom ← Result.require "hillshade.min_zoom" config.minZoom
      Expr.zoomFade minZoom maxZoom (.number full) (.number full)

def plan (config : HillshadeConfig F) : LayerPlan F where
  id := "hillshade"
  kind := .hillshade
  source := "world-hillshade"
  minZoom := config.minZoom
  maxZoom := config.maxZoom.map Number.next
  paint := [
    fixed "hillshade-illumination-direction" (Expr.ofNumber? config.illuminationDirection),
    fixed "hillshade-illumination-anchor" (Expr.ofText? config.illuminationAnchor),
    computed "hillshade-exaggeration" (exaggeration config),
    fixed "hillshade-shadow-color" (Expr.ofText? config.shadowColour),
    fixed "hillshade-highlight-color" (Expr.ofText? config.highlightColour),
    fixed "hillshade-accent-color" (Expr.ofText? config.accentColour)]

def steps (theme : Theme F) : List (DrawStep F) :=
  DrawStep.ofDomain theme.hillshade (·.enabled) fun config => [.draw (plan config)]

end Hillshade

namespace Contour

/-- More detail in the middle of the zooms: at a zoom, factors for the width and the opacity. -/
structure Boost (F : Type) where
  zoom : Number F
  width : Number F
  opacity : Number F

def majorBoosts : List (Boost F) := [⟨8, 1.2, 1.2⟩, ⟨9, 1.3, 1.3⟩]

def minorBoosts : List (Boost F) := [⟨8, 1.3, 1.5⟩, ⟨9, 1.5, 1.8⟩]

/-- Contour lines of one kind, between their zooms. -/
structure Span (F : Type) where
  id : String
  sourceLayer : String
  style : ContourStyle F
  minZoom : Number F
  maxZoom : Number F
  boosts : List (Boost F)

namespace Span

/-- Boosts count strictly between the zooms. -/
def innerBoosts (span : Span F) : List (Boost F) :=
  span.boosts.filter fun boost => span.minZoom.lt boost.zoom && boost.zoom.lt span.maxZoom

def widthStops (span : Span F) : Result F (List (Expr F × Expr F)) := do
  let inner ← span.innerBoosts.mapM fun boost => do
    let full ← Result.require "width.max" span.style.width.atMax
    return (Expr.number boost.zoom, Expr.number (← full.mul boost.width))
  return (.number span.minZoom, Expr.ofNumber? span.style.width.atMin) ::
    (inner ++ [(.number span.maxZoom, Expr.ofNumber? span.style.width.atMax)])

/-- A boosted opacity is at most one. -/
def opacityStops (span : Span F) : Result F (List (Expr F × Expr F)) := do
  let inner ← span.innerBoosts.mapM fun boost => do
    let base ← Result.require "opacity" span.style.opacity
    return (Expr.number boost.zoom,
      Expr.number (Number.smaller 1.0 (← base.mul boost.opacity)))
  let base := Expr.ofNumber? span.style.opacity
  return (.number span.minZoom, base) ::
    (inner ++ [(.number span.maxZoom, base), (.number span.maxZoom.next, 0.0)])

def check (span : Span F) : Result F Unit :=
  if span.maxZoom.le span.minZoom then
    .error (.layer (.contourRange span.id span.minZoom span.maxZoom))
  else .ok ()

def plan (span : Span F) : LayerPlan F where
  id := span.id
  kind := .line
  source := "world-contours"
  sourceLayer := span.sourceLayer
  minZoom := span.minZoom
  maxZoom := span.maxZoom.next
  paint := [
    fixed "line-color" (Expr.ofText? span.style.colour),
    computed "line-width" (do Expr.linear Expr.zoom (← span.widthStops)),
    computed "line-opacity" (do Expr.linear Expr.zoom (← span.opacityStops))]

/-- The values of all stops are found before a curve is drawn through them. -/
def steps (span : Span F) : List (DrawStep F) :=
  [.check span.check, .need span.widthStops, .need span.opacityStops, .draw span.plan]

end Span

/-- The least zoom of a kind: its own one, else the one of all contours, else a standard one. -/
def minZoom (config : ContoursConfig F) (style : ContourStyle F) (standard : Number F) :
    Number F :=
  (style.minZoom.or config.minZoom).getD standard

def major (config : ContoursConfig F) (maxZoom : Number F) : Span F where
  id := "contour-major"
  sourceLayer := "major"
  style := config.major
  minZoom := minZoom config config.major 6
  maxZoom
  boosts := majorBoosts

def minor (config : ContoursConfig F) (maxZoom : Number F) : Span F where
  id := "contour-minor"
  sourceLayer := "minor"
  style := config.minor
  minZoom := minZoom config config.minor 8
  maxZoom
  boosts := minorBoosts

def draw (config : ContoursConfig F) : List (DrawStep F) :=
  match config.maxZoom with
  | some maxZoom => (major config maxZoom).steps ++ (minor config maxZoom).steps
  | none => [.check (Result.ofTheme (.missing "contours.max_zoom"))]

def steps (theme : Theme F) : List (DrawStep F) :=
  DrawStep.ofDomain theme.contours (·.enabled) draw

end Contour

end MapStyle
