import MapStyle.Expr.Width
import MapStyle.Layer.Ground

/-!
# Boundaries

The borders of countries, borders at sea and borders of states, for the whole world and for the
region with detailed data.
-/

namespace MapStyle.Boundary

set_option autoImplicit false

open Property (fixed computed)

variable {F : Type} [Arithmetic F]

/-- How opaque country borders are when their stops do not say. -/
def standardOpacity : Number F := 0.8

/-- The stops of an opacity that is not one number. -/
def opacityStops : CountryOpacity F → Result F (Option (ZoomStops F))
  | .fixed _ => .ok none
  | .stops mapping => .ok mapping
  | .unusable value =>
      if value.isBlank then .ok none else Result.ofTheme (.wrongType "boundary.country")

/-- Around the world the opacity of country borders changes with the zoom. -/
def worldOpacity (opacity : CountryOpacity F) : Result F (Expr F) := do
  match opacity with
  | .fixed value => return .number value
  | _ => Expr.zoomWidth (← opacityStops opacity) (.number standardOpacity)

/-- The zoom at which the opacity of country borders is taken for the region, whose layers have no
stops for lower zooms. -/
def regionalZoom : Number F := 10

def regionalOpacity (opacity : CountryOpacity F) : Result F (Expr F) := do
  match opacity with
  | .fixed value => return .number value
  | _ =>
      match ← Zoom.normalize ((← opacityStops opacity).getD []) with
      | [] => return .number standardOpacity
      | first :: rest => return .number (← Zoom.valueAt first rest regionalZoom)

structure Line (F : Type) where
  id : String
  source : String
  filter : Expr F
  colour : Option String
  width : Result F (Expr F)
  opacity : Result F (Expr F)
  minZoom : Number F
  maxZoom : Option (Number F) := none

def Line.step (line : Line F) : DrawStep F :=
  .draw
    { id := line.id
      kind := .line
      source := line.source
      sourceLayer := "boundary"
      minZoom := line.minZoom
      maxZoom := line.maxZoom
      filter := line.filter
      paint := [
        fixed "line-color" (Expr.ofText? line.colour),
        computed "line-width" line.width,
        computed "line-opacity" line.opacity] }

/-- Lines of one kind that are drawn only if the kind is switched on. -/
def shown (wanted : Bool) (lines : List (Line F)) : List (DrawStep F) :=
  if wanted then lines.map Line.step else []

/-- The widths of country borders are found even if no country border is drawn. -/
def world (theme : Theme F) : List (DrawStep F) :=
  let config := theme.resolveBoundary
  let colours := theme.colours.boundary
  let widths := theme.widths.boundary
  let opacities := theme.opacities.boundary
  let coarse := Expr.zoomStops widths.country [(0, 0.4), (6, 1.2)]
  let middle := Expr.zoomStops widths.country [(6, 1.2), (10, 2.0)]
  let country := worldOpacity opacities.country
  let maritime := Expr.ofNumber? opacities.maritime
  let state := Expr.ofNumber? opacities.state
  [.need coarse, .need middle] ++
    shown config.country [
      { id := "boundary-country-world", source := "world_low", filter := Filter.countryBoundary,
        colour := colours.country, width := coarse, opacity := country, minZoom := 0,
        maxZoom := some coarseEnd },
      { id := "boundary-country-world-mid", source := "world_mid",
        filter := Filter.countryBoundary, colour := colours.country, width := middle,
        opacity := country, minZoom := 6 }] ++
    shown config.maritime [
      { id := "boundary-maritime-world", source := "world_low",
        filter := Filter.maritimeBoundary, colour := colours.country, width := coarse,
        opacity := .ok maritime, minZoom := 0, maxZoom := some coarseEnd },
      { id := "boundary-maritime-world-mid", source := "world_mid",
        filter := Filter.maritimeBoundary, colour := colours.country, width := middle,
        opacity := .ok maritime, minZoom := 6 }] ++
    shown config.state [
      { id := "boundary-state-world", source := "world_low", filter := Filter.stateBoundary,
        colour := colours.state, width := Expr.zoomStops widths.state [(0, 0.2), (6, 0.8)],
        opacity := .ok state, minZoom := 3, maxZoom := some coarseEnd },
      { id := "boundary-state-world-mid", source := "world_mid",
        filter := Filter.stateBoundary, colour := colours.state,
        width := Expr.zoomStops widths.state [(6, 0.8), (10, 1.2)], opacity := .ok state,
        minZoom := 6 }]

def regional (theme : Theme F) : List (DrawStep F) :=
  let config := theme.resolveBoundary
  let colours := theme.colours.boundary
  let widths := theme.widths.boundary
  let opacities := theme.opacities.boundary
  let country := Expr.zoomStops widths.country [(6, 1.2), (10, 2.0), (15, 2.5)]
  let opacity := regionalOpacity opacities.country
  [.need country, .need opacity] ++
    shown config.country [
      { id := "boundary-country-us", source := "us_high", filter := Filter.countryBoundary,
        colour := colours.country, width := country, opacity, minZoom := 6 }] ++
    shown config.maritime [
      { id := "boundary-maritime-us", source := "us_high", filter := Filter.maritimeBoundary,
        colour := colours.country, width := country,
        opacity := .ok (Expr.ofNumber? opacities.maritime), minZoom := 6 }] ++
    shown config.state [
      { id := "boundary-state-us", source := "us_high", filter := Filter.stateBoundary,
        colour := colours.state,
        width := Expr.zoomStops widths.state [(6, 0.3), (8, 0.8), (12, 1.2), (15, 1.5)],
        opacity := .ok (Expr.ofNumber? opacities.state), minZoom := 6 }]

end MapStyle.Boundary
