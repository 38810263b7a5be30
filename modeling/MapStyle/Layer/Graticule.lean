import MapStyle.Expr.Width
import MapStyle.Layer.Plan

/-!
# Graticule

Lines of equal latitude and longitude, each kind followed by its labels. The source tells the two
kinds apart, gives the step between the lines as a text, and the coordinate in degrees.
-/

namespace MapStyle.Graticule

set_option autoImplicit false

open Property (fixed computed)

variable {F : Type} [Arithmetic F]

inductive Axis where
  | latitude
  | longitude
  deriving DecidableEq, Repr

namespace Axis

def name : Axis → String
  | .latitude => "latitude"
  | .longitude => "longitude"

/-- What the source calls a line of the axis. -/
def lineName : Axis → String
  | .latitude => "parallel"
  | .longitude => "meridian"

/-- The hemispheres of positive and of negative coordinates. -/
def hemispheres : Axis → String × String
  | .latitude => ("N", "S")
  | .longitude => ("E", "W")

def ofLineName (name : String) : Result F Axis :=
  if name = Axis.latitude.lineName then .ok .latitude
  else if name = Axis.longitude.lineName then .ok .longitude
  else .error (.layer (.unknownHemisphere name))

end Axis

/-- The part of its opacity that a line has at the least zoom. -/
def fadeFactor : Number F := 0.7

def standardWidth : ValueRange F := .ofNumbers 0.5 1.0

def standardLabelSize : ValueRange F := .ofNumbers 10 12

/-- The step between lines as the source writes it: without a fractional part where there is
none. -/
def stepText (interval : Number F) : Except NumberError String := do
  let _ ← interval.toReal
  match interval.whole? with
  | some whole => return toString whole
  | none => return interval.text

/-- The coordinate of a line and its hemisphere. -/
def coordinateLabel (axis : Axis) : Expr F :=
  let value : Expr F := .get "value"
  let (positive, negative) := axis.hemispheres
  let hemisphere := Expr.caseNode
    [(Expr.greater value 0, .text positive), (Expr.less value 0, .text negative)] ""
  Expr.concat [Expr.toText (Expr.absolute value), "°", hemisphere]

/-- The lines of an axis with the step that is wanted; without a step all of them. -/
def filter (axis : Axis) (line : GridLine F) : Result F (Expr F) := do
  let ofAxis := Expr.equal (.get "kind") (.text axis.lineName)
  match Theme.givenNumber? line.interval with
  | some interval =>
      let step ← stepText interval
      return Expr.allOf [ofAxis, Expr.equal (.get "step") (.text step)]
  | none => return Expr.allOf [ofAxis]

/-- Fainter at the least zoom, gone one zoom after the largest. -/
def fade (minZoom maxZoom : Number F) (opacity : Option (Number F)) : Result F (Expr F) := do
  let full ← Result.require "grid.opacity" opacity
  Expr.zoomFade minZoom maxZoom (.number (← full.mul fadeFactor)) (.number full)

def linePlan (axis : Axis) (line : GridLine F) (filter : Expr F) (minZoom maxZoom : Number F) :
    LayerPlan F where
  id := "grid-" ++ axis.name
  kind := .line
  source := "world-grid"
  sourceLayer := "graticules"
  minZoom := minZoom
  maxZoom := maxZoom.next
  filter := filter
  paint := [
    fixed "line-color" (Expr.ofText? line.colour),
    computed "line-width" (Expr.rangeValue line.width minZoom maxZoom standardWidth),
    computed "line-opacity" (fade minZoom maxZoom line.opacity)]

def labelPlan (theme : Theme F) (axis : Axis) (line : GridLine F) (label : GridLabel F)
    (filter : Expr F) (minZoom maxZoom : Number F) : LayerPlan F where
  id := "grid-" ++ axis.name ++ "-label"
  kind := .symbol
  source := "world-grid"
  sourceLayer := "graticules"
  minZoom := minZoom
  maxZoom := maxZoom.next
  filter := filter
  layout := [
    fixed "text-field" (coordinateLabel axis),
    fixed "text-font" (Expr.texts (theme.resolveLabelFonts.grid.getD [])),
    computed "text-size" (Expr.rangeValue label.size minZoom maxZoom standardLabelSize),
    fixed "symbol-placement" "line",
    fixed "text-rotation-alignment" "map",
    fixed "text-pitch-alignment" "viewport",
    fixed "symbol-spacing" 300]
  paint := [
    fixed "text-color" (Expr.ofText? ((givenColour? label.colour).or line.colour)),
    computed "text-opacity" (fade minZoom maxZoom label.opacity),
    fixed "text-halo-color" "#000000",
    fixed "text-halo-width" 1,
    fixed "text-halo-blur" 0.5]

/-- The labels of an axis where they are switched on; they may start at a zoom of their own. -/
def labelSteps (theme : Theme F) (axis : Axis) (line : GridLine F) (filter : Expr F)
    (minZoom maxZoom : Number F) : List (DrawStep F) :=
  match line.label.filter (·.enabled) with
  | some label =>
      [.draw (labelPlan theme axis line label filter (label.minZoom.getD minZoom) maxZoom)]
  | none => []

/-- The lines of one axis and their labels. -/
def axisSteps (theme : Theme F) (axis : Axis) (line : Option (GridLine F))
    (minZoom maxZoom : Number F) : List (DrawStep F) :=
  match line with
  | none => []
  | some line =>
      match filter axis line with
      | .error fault => [.check (.error fault)]
      | .ok shared =>
          .draw (linePlan axis line shared minZoom maxZoom) ::
            labelSteps theme axis line shared minZoom maxZoom

def draw (theme : Theme F) (config : GridConfig F) : List (DrawStep F) :=
  match config.minZoom, config.maxZoom with
  | some minZoom, some maxZoom =>
      axisSteps theme .latitude config.latitude minZoom maxZoom ++
        axisSteps theme .longitude config.longitude minZoom maxZoom
  | _, _ =>
      if config.latitude.isSome || config.longitude.isSome then
        [.check (Result.ofTheme (.missing "grid zooms"))]
      else []

def steps (theme : Theme F) : List (DrawStep F) :=
  DrawStep.ofDomain theme.grid (·.enabled) (draw theme)

end MapStyle.Graticule
