import MapStyle.Colour.Density
import MapStyle.Colour.Ramp
import MapStyle.Expr.ClassColour
import MapStyle.Expr.Width
import MapStyle.Proofs.Layer.Complete

/-!
# Faults of single layers

Drawing a layer can end with a fault of a number, of an expression, of a setting or of the layer
itself. None of these speaks of two layers at once: ids that several layers share are looked for
only when the whole stack is there.
-/

namespace MapStyle

set_option autoImplicit false

variable {F α β : Type}

/-- Every fault but that of ids which several layers share. -/
def Fault.OfOneLayer (fault : Fault F) : Prop :=
  ∀ ids, fault ≠ .layer (.duplicateIds ids)

/-- A computation whose fault, if it ends with one, is that of a single layer. -/
abbrev Separate (outcome : Result F α) : Prop :=
  Faults Fault.OfOneLayer outcome

namespace Separate

@[simp] theorem lift (outcome : Except NumberError α) : Separate (liftM outcome : Result F α) := by
  show Separate (Result.ofNumber outcome)
  cases outcome with
  | error cause => exact Faults.error_iff.mpr (by simp [Fault.OfOneLayer])
  | ok value => exact Faults.ok

@[simp] theorem ofTheme (cause : ThemeError F) : Separate (Result.ofTheme cause : Result F α) :=
  Faults.error_iff.mpr (by simp [Fault.OfOneLayer])

@[simp] theorem ofExpr (cause : ExprError F) : Separate (Result.ofExpr cause : Result F α) :=
  Faults.error_iff.mpr (by simp [Fault.OfOneLayer])

@[simp] theorem require (setting : String) (value : Option α) :
    Separate (Result.require setting value : Result F α) := by
  cases value with
  | none => exact ofTheme _
  | some given => exact Faults.ok

theorem bind {outcome : Result F α} {next : α → Result F β} (first : Separate outcome)
    (following : ∀ value, Separate (next value)) : Separate (outcome >>= next) :=
  Faults.bind first fun value _ => following value

/-- What follows a computation that succeeds. -/
@[simp] theorem bind_iff {outcome : Result F α} {next : α → Result F β}
    (first : Separate outcome) : Separate (outcome >>= next) ↔
      ∀ value, outcome = .ok value → Separate (next value) := by
  constructor
  · rintro separate value rfl
    exact separate
  · exact Faults.bind first

@[simp] theorem map_iff {outcome : Result F α} {change : α → β} :
    Separate (change <$> outcome) ↔ Separate outcome := by
  cases outcome with
  | error fault => exact Faults.error_iff.trans Faults.error_iff.symm
  | ok value => exact iff_of_true Faults.ok Faults.ok

@[simp] theorem ite_iff {condition : Prop} [Decidable condition] {yes no : Result F α} :
    Separate (if condition then yes else no) ↔
      (condition → Separate yes) ∧ (¬condition → Separate no) := by
  split <;> simp [*]

@[simp] theorem mapM {step : α → Result F β} {items : List α}
    (each : ∀ item, Separate (step item)) : Separate (items.mapM step) :=
  Faults.mapM fun item _ => each item

theorem foldlM {step : β → α → Result F β} {items : List α} {start : β}
    (each : ∀ found item, Separate (step found item)) : Separate (items.foldlM step start) :=
  Faults.foldlM each

end Separate

/-! ### Steps -/

/-- A list of properties, the fault of each of which is that of a single layer. -/
def Property.AllSeparate (properties : List (Property F)) : Prop :=
  ∀ property ∈ properties, Separate property.2

namespace Property

@[simp] theorem allSeparate_nil : AllSeparate ([] : List (Property F)) := by
  simp [AllSeparate]

@[simp] theorem allSeparate_fixed {name : String} {value : Expr F} {rest : List (Property F)} :
    AllSeparate (fixed name value :: rest) ↔ AllSeparate rest := by
  simp [AllSeparate, fixed]

@[simp] theorem allSeparate_computed {name : String} {outcome : Result F (Expr F)}
    {rest : List (Property F)} :
    AllSeparate (computed name outcome :: rest) ↔ Separate outcome ∧ AllSeparate rest := by
  simp [AllSeparate, computed]

@[simp] theorem allSeparate_append {first second : List (Property F)} :
    AllSeparate (first ++ second) ↔ AllSeparate first ∧ AllSeparate second :=
  List.forall_mem_append

theorem allSeparate_override {properties changes : List (Property F)}
    (old : AllSeparate properties) (new : AllSeparate changes) :
    AllSeparate (override properties changes) :=
  forall_mem_override old new

end Property

namespace DrawStep

/-- A list of steps, the fault of each of which is that of a single layer. -/
def AllSeparate (steps : List (DrawStep F)) : Prop :=
  ∀ step ∈ steps, Separate step.outcome

@[simp] theorem allSeparate_nil : AllSeparate ([] : List (DrawStep F)) := by
  simp [AllSeparate]

@[simp] theorem allSeparate_check {checked : Result F Unit} {rest : List (DrawStep F)} :
    AllSeparate (.check checked :: rest) ↔ Separate checked ∧ AllSeparate rest :=
  List.forall_mem_cons

@[simp] theorem allSeparate_need {needed : Result F α} {rest : List (DrawStep F)} :
    AllSeparate (.need needed :: rest) ↔ Separate needed ∧ AllSeparate rest :=
  List.forall_mem_cons.trans (and_congr_left fun _ => Separate.map_iff)

/-- The faults of a layer are those of its properties and of its own check. -/
theorem separate_build {plan : LayerPlan F} (layout : Property.AllSeparate plan.layout)
    (paint : Property.AllSeparate plan.paint) : Separate plan.build := by
  have values {properties : List (Property F)} (all : Property.AllSeparate properties) :
      Separate (properties.mapM Property.value) :=
    Faults.mapM fun property member => Separate.map_iff.mpr (all property member)
  have checked (layer : Layer F) : Separate layer.check := by
    simp [Layer.check, Layer.checkSource, Layer.refuse, Fault.OfOneLayer]
  simp [LayerPlan.build, values layout, values paint, checked]

@[simp] theorem allSeparate_draw {plan : LayerPlan F} {rest : List (DrawStep F)}
    (layout : Property.AllSeparate plan.layout) (paint : Property.AllSeparate plan.paint) :
    AllSeparate (.draw plan :: rest) ↔ AllSeparate rest :=
  List.forall_mem_cons.trans
    (and_iff_right (Separate.map_iff.mpr (separate_build layout paint)))

@[simp] theorem allSeparate_append {first second : List (DrawStep F)} :
    AllSeparate (first ++ second) ↔ AllSeparate first ∧ AllSeparate second :=
  List.forall_mem_append

theorem allSeparate_ofDomain {C : Type} {config : Option C} {enabled : C → Bool}
    {draw : C → List (DrawStep F)} (each : ∀ given, AllSeparate (draw given)) :
    AllSeparate (ofDomain config enabled draw) :=
  forall_mem_ofDomain fun given _ _ => each given

theorem AllSeparate.compile {steps : List (DrawStep F)} (separate : AllSeparate steps) :
    Separate (compile steps) :=
  faults_compile separate

end DrawStep

/-! ### Expressions -/

variable [Arithmetic F]

namespace Expr

@[simp] theorem separate_checkIncreasing (kind : CurveKind) (breakpoints : List (Expr F)) :
    Separate (checkIncreasing kind breakpoints) := by
  unfold checkIncreasing
  split <;> simp

@[simp] theorem separate_curve (shape input : Expr F) (stops : List (Expr F × Expr F)) :
    Separate (curve shape input stops) := by
  simp [curve]

@[simp] theorem separate_linear (input : Expr F) (stops : List (Expr F × Expr F)) :
    Separate (linear input stops) :=
  separate_curve _ input stops

@[simp] theorem separate_step (input fallback : Expr F) (pairs : List (Expr F × Expr F)) :
    Separate (step input fallback pairs) := by
  simp [step]

theorem separate_addLabels (seen : List (Expr F)) (label : Expr F) :
    Separate (addLabels seen label) := by
  have one (seen : List (Expr F)) (label : Expr F) : Separate (addLabel seen label) := by
    simp [addLabel]
  simp [addLabels, Separate.foldlM one]

@[simp] theorem separate_matching (input : Expr F) (branches : List (Expr F × Expr F))
    (fallback : Expr F) : Separate (matching input branches fallback) := by
  have labels (given : List (Expr F)) : Separate (given.foldlM addLabels []) :=
    Separate.foldlM separate_addLabels
  simp [matching, checkLabels, labels]

@[simp] theorem separate_zoomWidth (stops : Option (ZoomStops F)) (fallback : Expr F) :
    Separate (zoomWidth stops fallback) := by
  simp [zoomWidth]

@[simp] theorem separate_zoomStops (stops : Option (ZoomStops F))
    (defaults : List (Number F × Expr F)) : Separate (zoomStops stops defaults) := by
  simp [zoomStops]

@[simp] theorem separate_zoomFade (minZoom maxZoom : Number F) (start full : Expr F) :
    Separate (zoomFade minZoom maxZoom start full) := by
  simp [zoomFade]

@[simp] theorem separate_rangeValue (setting : RangeSetting F) (minZoom maxZoom : Number F)
    (fallback : ValueRange F) : Separate (rangeValue setting minZoom maxZoom fallback) := by
  unfold rangeValue
  split <;> simp [rangeCurve]

end Expr

/-! ### Widths and colours -/

namespace RoadWidths

@[simp] theorem separate_widthMatch (widths : RoadWidths F) (zoom scale : Number F) :
    Separate (widths.widthMatch zoom scale) := by
  simp [widthMatch]

theorem separate_linearWidth (widths : RoadWidths F) : Separate widths.linearWidth := by
  simp [linearWidth]

theorem separate_realWorldWidth (widths : RoadWidths F) (start : Number F) :
    Separate (widths.realWorldWidth start) := by
  simp [realWorldWidth, Expr.exponential]

@[simp] theorem separate_widthFor (settings : ThemeSettings F) (widths : RoadWidths F) :
    Separate (widths.widthFor settings) := by
  simp [widthFor, separate_linearWidth, separate_realWorldWidth]

end RoadWidths

namespace Theme

variable (theme : Theme F)

theorem separate_colourMatch (category : Category) (classes : List String) (property : String)
    (fallback : Option String) : Separate (theme.colourMatch category classes property fallback) :=
  Expr.separate_matching _ _ _

@[simp] theorem separate_classColour (category : Category) (property : String) :
    Separate (theme.classColour category property) := by
  unfold classColour
  split
  · exact Faults.ok
  · exact theme.separate_colourMatch _ _ _ _

@[simp] theorem separate_landcoverFill : Separate theme.landcoverFill :=
  theme.separate_classColour _ _

@[simp] theorem separate_landuseFill : Separate theme.landuseFill :=
  theme.separate_classColour _ _

@[simp] theorem separate_waterFill : Separate theme.waterFill :=
  theme.separate_classColour _ _

@[simp] theorem separate_waterwayLine : Separate theme.waterwayLine :=
  theme.separate_classColour _ _

@[simp] theorem separate_majorRoadLine : Separate theme.majorRoadLine :=
  theme.separate_colourMatch _ _ _ _

@[simp] theorem separate_roadLine : Separate theme.roadLine :=
  theme.separate_classColour _ _

@[simp] theorem separate_tunnelLine : Separate theme.tunnelLine :=
  theme.separate_classColour _ _

@[simp] theorem separate_bridgeLine : Separate theme.bridgeLine :=
  theme.separate_classColour _ _

@[simp] theorem separate_buildingFill (heightsFrom : Option (Number F)) :
    Separate (theme.buildingFill heightsFrom) := by
  cases heightsFrom <;> simp [buildingFill]

end Theme

namespace Colour

@[simp] theorem separate_hexToRgb (text : String) : Separate (hexToRgb (F := F) text) := by
  unfold hexToRgb
  split <;> simp

@[simp] theorem separate_hslToHex (hue saturation lightness : Number F) :
    Separate (hslToHex hue saturation lightness) := by
  simp [hslToHex]

@[simp] theorem separate_bathymetryRamp (text : String) :
    Separate (bathymetryRamp (F := F) text) := by
  simp [bathymetryRamp, hexToHsl]

@[simp] theorem separate_outlineOf (fill outline : Option String) :
    Separate (outlineOf (F := F) fill outline) := by
  unfold outlineOf
  split <;> simp [darken]

end Colour

namespace DensityColours

@[simp] theorem separate_ascending (ranges : List (DensityRange F)) :
    Separate (DensityRange.ascending ranges) := by
  unfold DensityRange.ascending
  split <;> simp

@[simp] theorem separate_colourExpr (colours : DensityColours F) (flat : Expr F)
    (outline : Bool) : Separate (colours.colourExpr flat outline) := by
  simp [colourExpr, stepExpr, steps]

end DensityColours

end MapStyle
