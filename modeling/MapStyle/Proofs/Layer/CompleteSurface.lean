import Mathlib.Tactic.NormNum
import MapStyle.Layer.Airport
import MapStyle.Layer.Boundary
import MapStyle.Layer.Depth
import MapStyle.Layer.Graticule
import MapStyle.Layer.Ground
import MapStyle.Layer.Height
import MapStyle.Proofs.Colour.Ramp
import MapStyle.Proofs.Layer.Complete
import MapStyle.Proofs.Theme.Checked
import MapStyle.Proofs.Theme.WellTyped

/-!
# Areas and lines that can always be drawn

Over exact arithmetic every factory of areas and lines but that of contour lines succeeds, whatever
a theme says that was read and has settings of the declared types.
-/

namespace MapStyle

set_option autoImplicit false

open DrawStep (AllSucceed allSucceed_nil allSucceed_cons allSucceed_append allSucceed_map
  forall_mem_ofDomain succeeds_draw succeeds_need)
open Number (Ascend)
open Property (AllHaveValues)

variable {theme : Theme Rat}

/-! ### Land and water -/

namespace Ground

theorem succeeds_background : AllSucceed (background theme) := by
  simp only [background, allSucceed_cons, allSucceed_nil, and_true]
  refine succeeds_draw ⟨by simp, by simp, by simp, by simp⟩

theorem succeeds_landcover {id source : String} {minZoom maxZoom : Option (Number Rat)}
    (idGiven : id.isEmpty = false) (sourceGiven : source.isEmpty = false) :
    Succeeds (landcover theme id source minZoom maxZoom).outcome := by
  have colour : Succeeds theme.landcoverFill := Theme.succeeds_classColour
  exact succeeds_draw ⟨idGiven, by simpa using sourceGiven, by simp, by simp [colour]⟩

theorem succeeds_landuse {id source : String} {minZoom maxZoom : Option (Number Rat)}
    (idGiven : id.isEmpty = false) (sourceGiven : source.isEmpty = false) :
    Succeeds (landuse theme id source minZoom maxZoom).outcome := by
  have colour : Succeeds theme.landuseFill := Theme.succeeds_classColour
  exact succeeds_draw ⟨idGiven, by simpa using sourceGiven, by simp, by simp [colour]⟩

theorem succeeds_world : AllSucceed (world theme) := by
  simp [world, succeeds_landcover, succeeds_landuse]

theorem succeeds_regional : AllSucceed (regional theme) := by
  simp [regional, succeeds_landcover, succeeds_landuse]

end Ground

namespace Water

theorem succeeds_area {id source : String} {minZoom maxZoom : Option (Number Rat)}
    (idGiven : id.isEmpty = false) (sourceGiven : source.isEmpty = false) :
    Succeeds (area theme id source minZoom maxZoom).outcome := by
  have colour : Succeeds theme.waterFill := Theme.succeeds_classColour
  exact succeeds_draw ⟨idGiven, by simpa using sourceGiven, by simp, by simp [colour]⟩

theorem succeeds_waterway {id source : String} {widths : List (Number Rat × Expr Rat)}
    {minZoom maxZoom : Option (Number Rat)} (idGiven : id.isEmpty = false)
    (sourceGiven : source.isEmpty = false)
    (width : Succeeds (Expr.zoomStops theme.widths.waterLine widths)) :
    Succeeds (waterway theme id source widths minZoom maxZoom).outcome := by
  have colour : Succeeds theme.waterwayLine := Theme.succeeds_classColour
  exact succeeds_draw ⟨idGiven, by simpa using sourceGiven, by simp, by simp [colour, width]⟩

variable (short : theme.widths.ShortKeys)

include short

theorem succeeds_world : AllSucceed (world theme) := by
  have coarse : Succeeds (Expr.zoomStops theme.widths.waterLine [(0, 0.1), (6, 0.4)]) :=
    Expr.succeeds_zoomStops short.waterLine (by simp) (by norm_num [Ascend])
  have middle : Succeeds (Expr.zoomStops theme.widths.waterLine [(6, 0.4), (10, 0.8)]) :=
    Expr.succeeds_zoomStops short.waterLine (by simp) (by norm_num [Ascend])
  simp [world, succeeds_area, succeeds_waterway, coarse, middle]

theorem succeeds_regional : AllSucceed (regional theme) := by
  have width : Succeeds
      (Expr.zoomStops theme.widths.waterLine [(6, 0.2), (12, 0.6), (15, 1.0)]) :=
    Expr.succeeds_zoomStops short.waterLine (by simp) (by norm_num [Ascend])
  simp [regional, succeeds_area, succeeds_waterway, width]

end Water

/-! ### Depth, ice and hills -/

theorem ValueRange.succeeds_fadeRatio {range : ValueRange Rat} (typed : range.WellTyped)
    (visible : range.Visible) : Succeeds (Depth.fadeRatio range) := by
  obtain ⟨least, leastGiven⟩ := Option.isSome_iff_exists.mp typed.atMin
  obtain ⟨largest, largestGiven, above⟩ := visible
  unfold Depth.fadeRatio
  rw [leastGiven, largestGiven]
  exact (returns_lift.mpr (Number.returns_div above.ne')).succeeds

namespace Depth

variable {config : BathymetryConfig Rat} {water : Option String}

/-- There is a colour for each band. -/
theorem returns_colours {fill : String} (given : water = some fill)
    (isHex : Colour.isHex fill = true) (unbroken : fill.toList.getLast? ≠ some '\n') :
    Returns (fun found => found.length = checkpoints.length) (colours config water) := by
  unfold colours
  split
  · exact Returns.pure_iff.mpr (List.length_map _)
  · rw [given]
    apply (Colour.returns_bathymetryRamp (Colour.succeeds_hexToRgb isHex unbroken)).bind
    intro ramp length
    exact Returns.pure_iff.mpr ((List.length_map _).trans length)

/-- There is an opacity for each band. -/
theorem returns_opacities (typed : config.WellTyped) :
    Returns (fun ramp => ramp ≠ []) (opacities config) := by
  obtain ⟨largest, given⟩ := Option.isSome_iff_exists.mp typed.opacity.atMax
  unfold opacities
  refine (Returns.mapM_length ?_).mono fun ramp length => ?_
  · rintro ⟨band, factor⟩ _
    simp only
    split
    · exact Returns.pure_iff.mpr trivial
    · rw [given]
      exact (returns_lift.mpr Number.returns_mul).succeeds
  · rintro rfl
    cases length

theorem succeeds_fill {fill : String} (given : water = some fill)
    (isHex : Colour.isHex fill = true) (unbroken : fill.toList.getLast? ≠ some '\n') :
    Succeeds (Depth.fill config water) := by
  apply (returns_colours given isHex unbroken).bind
  intro found length
  have depths : (checkpoints.zip found).map Prod.fst = checkpoints :=
    List.map_fst_zip length.ge
  refine Expr.succeeds_linear (checkpoints.map fun depth : Nat => .int depth) ?_ ?_ ?_
  · have keys := congrArg (List.map fun depth : Nat => (.number (.int depth) : Expr Rat)) depths
    simpa only [List.map_map, Function.comp_def] using keys
  · simp [checkpoints]
  · norm_num [Ascend, checkpoints]

theorem succeeds_opacity {areaDepth : Nat} (typed : config.WellTyped)
    (visible : config.opacity.Visible) : Succeeds (opacity config areaDepth) := by
  obtain ⟨minZoom, minGiven⟩ := Option.isSome_iff_exists.mp typed.minZoom
  obtain ⟨maxZoom, maxGiven⟩ := Option.isSome_iff_exists.mp typed.maxZoom
  unfold opacity
  rw [minGiven, maxGiven]
  apply (returns_opacities typed).bind
  intro ramp rampGiven
  obtain ⟨full, found⟩ : ∃ full, opacityAt (.int areaDepth) ramp = some full := by
    unfold opacityAt
    cases (checkpoints.dropLast.zip ramp).find? _ with
    | none => exact ⟨_, List.getLast?_eq_some_getLast rampGiven⟩
    | some reached => exact ⟨reached.2, rfl⟩
  rw [found]
  apply (ValueRange.succeeds_fadeRatio typed.opacity visible).bind
  intro ratio _
  apply (returns_lift.mpr Number.returns_mul).bind
  intro start _
  exact Expr.succeeds_zoomFade

theorem succeeds_steps (built : theme.Checked) (typed : theme.WellTyped) :
    AllSucceed (steps theme) := by
  obtain ⟨fill, given, unbroken⟩ := typed.waterFill
  have isHex : Colour.isHex fill = true := by
    simpa [Colour.isColour] using built.waterFill fill given
  apply forall_mem_ofDomain
  intro config isGiven _
  have configTyped := typed.bathymetry config isGiven
  have visible := built.bathymetry config isGiven
  refine allSucceed_append.mpr ⟨?_, allSucceed_map.mpr fun area _ => ?_⟩
  · simp only [allSucceed_cons, allSucceed_nil, and_true]
    exact ⟨succeeds_need (returns_colours given isHex unbroken).succeeds,
      succeeds_need (returns_opacities configTyped).succeeds,
      succeeds_need (ValueRange.succeeds_fadeRatio configTyped.opacity visible)⟩
  · refine succeeds_draw ⟨by simp [plan], by simp [plan], by simp [plan], ?_⟩
    simp [plan, succeeds_fill given isHex unbroken, succeeds_opacity configTyped visible]

end Depth

namespace Ice

variable {config : IceConfig Rat}

theorem succeeds_fade {opacity : Option (Number Rat)} (typed : config.WellTyped)
    (visible : config.opacity.Visible) (given : opacity.isSome) :
    Succeeds (fade config opacity) := by
  obtain ⟨minZoom, minGiven⟩ := Option.isSome_iff_exists.mp typed.minZoom
  obtain ⟨maxZoom, maxGiven⟩ := Option.isSome_iff_exists.mp typed.maxZoom
  obtain ⟨full, found⟩ := Option.isSome_iff_exists.mp given
  unfold fade
  rw [minGiven, maxGiven, found]
  apply (ValueRange.succeeds_fadeRatio typed.opacity visible).bind
  intro ratio _
  apply (returns_lift.mpr Number.returns_mul).bind
  intro start _
  exact Expr.succeeds_zoomFade

theorem complete_plan {id sourceLayer : String} {kind : LayerKind} {filter : Option (Expr Rat)}
    {paint : List (Property Rat)} (idGiven : id.isEmpty = false) (noBackground : kind ≠ .background)
    (values : AllHaveValues paint) : (plan config id kind sourceLayer filter paint).Complete :=
  ⟨idGiven, by simp [plan, noBackground], by simp [plan], values⟩

theorem succeeds_area {id sourceLayer : String} {fill : IceFill Rat} (typed : config.WellTyped)
    (visible : config.opacity.Visible) (idGiven : id.isEmpty = false) :
    AllSucceed (area config id sourceLayer fill) := by
  have opacity : Succeeds (fade config (fill.opacity.or config.opacity.atMax)) :=
    succeeds_fade typed visible (by simp [typed.opacity.atMax])
  simp only [area, allSucceed_cons, allSucceed_nil, and_true]
  constructor
  · exact succeeds_draw (complete_plan idGiven (by decide) (by simp [opacity]))
  · exact succeeds_draw (complete_plan (by simp) (by decide) (by simp [opacity]))

theorem complete_edge (typed : config.WellTyped) (visible : config.opacity.Visible) :
    (edge config).Complete := by
  unfold edge
  split
  · rename_i shown found
    have given : shown.opacity.isSome := typed.edge shown (Option.filter_eq_some_iff.mp found).1
    exact complete_plan (by decide) (by decide) (by simp [succeeds_fade typed visible given])
  · exact complete_plan (by decide) (by decide) (by simp)

theorem succeeds_steps (built : theme.Checked) (typed : theme.WellTyped) :
    AllSucceed (steps theme) := by
  apply forall_mem_ofDomain
  intro config isGiven _
  have configTyped := typed.ice config isGiven
  have visible := built.ice config isGiven
  show AllSucceed (draw config)
  simp only [draw, allSucceed_append, allSucceed_cons, allSucceed_nil, and_true]
  exact ⟨⟨succeeds_area configTyped visible (by decide),
    succeeds_area configTyped visible (by decide)⟩,
    succeeds_draw (complete_edge configTyped visible)⟩

end Ice

namespace Hillshade

variable {config : HillshadeConfig Rat}

theorem succeeds_exaggeration (typed : config.WellTyped) : Succeeds (exaggeration config) := by
  obtain ⟨minZoom, minGiven⟩ := Option.isSome_iff_exists.mp typed.minZoom
  obtain ⟨opacity, opacityGiven⟩ := Option.isSome_iff_exists.mp typed.opacity
  obtain ⟨full, fullGiven⟩ := Option.isSome_iff_exists.mp typed.exaggeration
  have strengthSucceeds : Succeeds (strength config) := by
    unfold strength
    rw [fullGiven, opacityGiven]
    exact (returns_lift.mpr Number.returns_mul).succeeds
  apply strengthSucceeds.bind
  intro found _
  cases config.maxZoom with
  | none => exact Returns.pure_iff.mpr trivial
  | some maxZoom =>
      simp only [minGiven]
      exact Expr.succeeds_zoomFade

theorem succeeds_steps (typed : theme.WellTyped) : AllSucceed (steps theme) := by
  apply forall_mem_ofDomain
  intro config isGiven _
  have exaggerated := succeeds_exaggeration (typed.hillshade config isGiven)
  simp only [List.forall_mem_singleton]
  exact succeeds_draw ⟨by simp [plan], by simp [plan], by simp [plan], by simp [plan, exaggerated]⟩

end Hillshade

/-! ### Boundaries and the graticule -/

namespace Boundary

variable {opacity : CountryOpacity Rat}

theorem returns_opacityStops (typed : opacity.WellTyped) :
    Returns (fun mapping => ShortKeys (mapping.getD [])) (opacityStops opacity) := by
  cases opacity with
  | fixed value => exact Returns.ok_iff.mpr (by simp [ShortKeys])
  | stops mapping => exact Returns.ok_iff.mpr typed
  | unusable value => exact typed.elim

theorem succeeds_worldOpacity (typed : opacity.WellTyped) : Succeeds (worldOpacity opacity) := by
  unfold worldOpacity
  split
  · exact Returns.pure_iff.mpr trivial
  · exact (returns_opacityStops typed).bind fun mapping short => Expr.succeeds_zoomWidth short

theorem succeeds_regionalOpacity (typed : opacity.WellTyped) :
    Succeeds (regionalOpacity opacity) := by
  unfold regionalOpacity
  split
  · exact Returns.pure_iff.mpr trivial
  · apply (returns_opacityStops typed).bind
    intro mapping short
    apply (returns_lift.mpr (Zoom.returns_normalize short)).bind
    intro found rising
    cases found with
    | nil => exact Returns.pure_iff.mpr trivial
    | cons first rest =>
        apply (returns_lift.mpr (Zoom.succeeds_valueAt rising)).bind
        intro value _
        exact Returns.pure_iff.mpr trivial

theorem Line.succeeds_step {line : Line Rat} (idGiven : line.id.isEmpty = false)
    (sourceGiven : line.source.isEmpty = false) (width : Succeeds line.width)
    (opacity : Succeeds line.opacity) : Succeeds line.step.outcome :=
  succeeds_draw ⟨idGiven, by simpa using sourceGiven, by simp, by simp [width, opacity]⟩

theorem succeeds_shown {wanted : Bool} {lines : List (Line Rat)}
    (each : ∀ line ∈ lines, Succeeds line.step.outcome) : AllSucceed (shown wanted lines) := by
  unfold shown
  split
  · exact allSucceed_map.mpr each
  · exact allSucceed_nil

theorem succeeds_world (typed : theme.WellTyped) : AllSucceed (world theme) := by
  have country := succeeds_worldOpacity typed.countryOpacity
  have coarse : Succeeds (Expr.zoomStops theme.widths.boundary.country [(0, 0.4), (6, 1.2)]) :=
    Expr.succeeds_zoomStops typed.widths.country (by simp) (by norm_num [Ascend])
  have middle : Succeeds (Expr.zoomStops theme.widths.boundary.country [(6, 1.2), (10, 2.0)]) :=
    Expr.succeeds_zoomStops typed.widths.country (by simp) (by norm_num [Ascend])
  have stateCoarse : Succeeds (Expr.zoomStops theme.widths.boundary.state [(0, 0.2), (6, 0.8)]) :=
    Expr.succeeds_zoomStops typed.widths.state (by simp) (by norm_num [Ascend])
  have stateMiddle : Succeeds (Expr.zoomStops theme.widths.boundary.state [(6, 0.8), (10, 1.2)]) :=
    Expr.succeeds_zoomStops typed.widths.state (by simp) (by norm_num [Ascend])
  simp only [world, allSucceed_append]
  refine ⟨⟨⟨?_, succeeds_shown ?_⟩, succeeds_shown ?_⟩, succeeds_shown ?_⟩
  · simp [succeeds_need, coarse, middle]
  · simp [Line.succeeds_step, coarse, middle, country]
  · simp [Line.succeeds_step, coarse, middle]
  · simp [Line.succeeds_step, stateCoarse, stateMiddle]

theorem succeeds_regional (typed : theme.WellTyped) : AllSucceed (regional theme) := by
  have opacity := succeeds_regionalOpacity typed.countryOpacity
  have country : Succeeds
      (Expr.zoomStops theme.widths.boundary.country [(6, 1.2), (10, 2.0), (15, 2.5)]) :=
    Expr.succeeds_zoomStops typed.widths.country (by simp) (by norm_num [Ascend])
  have state : Succeeds
      (Expr.zoomStops theme.widths.boundary.state [(6, 0.3), (8, 0.8), (12, 1.2), (15, 1.5)]) :=
    Expr.succeeds_zoomStops typed.widths.state (by simp) (by norm_num [Ascend])
  simp only [regional, allSucceed_append]
  refine ⟨⟨⟨?_, succeeds_shown ?_⟩, succeeds_shown ?_⟩, succeeds_shown ?_⟩
  · simp [succeeds_need, country, opacity]
  · simp [Line.succeeds_step, country, opacity]
  · simp [Line.succeeds_step, country]
  · simp [Line.succeeds_step, state]

end Boundary

namespace Graticule

variable {axis : Axis} {minZoom maxZoom : Number Rat}

theorem succeeds_filter (axis : Axis) (line : GridLine Rat) : Succeeds (filter axis line) := by
  have text (interval : Number Rat) : Succeeds (stepText interval) := by
    apply (succeeds_iff.mpr ⟨_, Number.toReal_eq_ok⟩).bind
    intro _ _
    split <;> exact Returns.pure_iff.mpr trivial
  unfold filter
  simp only
  split
  · rename_i interval _
    exact (returns_lift.mpr (text interval)).bind fun _ _ => Returns.pure_iff.mpr trivial
  · exact Returns.pure_iff.mpr trivial

theorem succeeds_fade {opacity : Option (Number Rat)} (given : opacity.isSome) :
    Succeeds (fade minZoom maxZoom opacity) := by
  obtain ⟨full, found⟩ := Option.isSome_iff_exists.mp given
  unfold fade
  rw [found]
  apply (returns_lift.mpr Number.returns_mul).bind
  intro start _
  exact Expr.succeeds_zoomFade

variable {line : GridLine Rat} {shared : Expr Rat}

theorem complete_linePlan (typed : line.WellTyped) (rising : minZoom.exact < maxZoom.exact) :
    (linePlan axis line shared minZoom maxZoom).Complete := by
  refine ⟨by simp [linePlan], by simp [linePlan], by simp [linePlan], ?_⟩
  simp [linePlan, Expr.succeeds_rangeValue rising, succeeds_fade typed.opacity]

theorem complete_labelPlan {label : GridLabel Rat} (opacityGiven : label.opacity.isSome)
    (rising : minZoom.exact < maxZoom.exact) :
    (labelPlan theme axis line label shared minZoom maxZoom).Complete := by
  refine ⟨by simp [labelPlan], by simp [labelPlan], ?_, ?_⟩
  · simp [labelPlan, Expr.succeeds_rangeValue rising]
  · simp [labelPlan, succeeds_fade opacityGiven]

theorem succeeds_labelSteps (typed : line.WellTyped) (rising : minZoom.exact < maxZoom.exact)
    (labelsRise : ∀ label ∈ line.label, ∀ least ∈ label.minZoom, least.exact < maxZoom.exact) :
    AllSucceed (labelSteps theme axis line shared minZoom maxZoom) := by
  unfold labelSteps
  split
  · rename_i label found
    have isLabel : label ∈ line.label := (Option.filter_eq_some_iff.mp found).1
    have labelRising : (label.minZoom.getD minZoom).exact < maxZoom.exact := by
      cases own : label.minZoom with
      | none => exact rising
      | some least => exact labelsRise label isLabel least own
    simp only [allSucceed_cons, allSucceed_nil, and_true]
    exact succeeds_draw (complete_labelPlan (typed.label label isLabel) labelRising)
  · exact allSucceed_nil

theorem succeeds_axisSteps {line : Option (GridLine Rat)}
    (typed : ∀ given ∈ line, given.WellTyped) (rising : minZoom.exact < maxZoom.exact)
    (labelsRise : ∀ label ∈ line.bind GridLine.label, ∀ least ∈ label.minZoom,
      least.exact < maxZoom.exact) :
    AllSucceed (axisSteps theme axis line minZoom maxZoom) := by
  cases line with
  | none => exact allSucceed_nil
  | some given =>
      have givenTyped := typed given rfl
      obtain ⟨shared, found⟩ := succeeds_iff.mp (succeeds_filter axis given)
      simp only [axisSteps, found, allSucceed_cons]
      exact ⟨succeeds_draw (complete_linePlan givenTyped rising),
        succeeds_labelSteps givenTyped rising labelsRise⟩

theorem succeeds_steps (built : theme.Checked) (typed : theme.WellTyped) :
    AllSucceed (steps theme) := by
  apply forall_mem_ofDomain
  intro config isGiven _
  have checked := built.grid config isGiven
  have configTyped := typed.grid config isGiven
  obtain ⟨minZoom, minGiven⟩ := Option.isSome_iff_exists.mp configTyped.minZoom
  obtain ⟨maxZoom, maxGiven⟩ := Option.isSome_iff_exists.mp configTyped.maxZoom
  have rising := checked.zooms minZoom minGiven maxZoom maxGiven
  show AllSucceed (draw theme config)
  simp only [draw, minGiven, maxGiven, allSucceed_append]
  constructor
  · apply succeeds_axisSteps configTyped.latitude rising
    intro label isLabel least leastGiven
    exact checked.latitude label isLabel least leastGiven maxZoom maxGiven
  · apply succeeds_axisSteps configTyped.longitude rising
    intro label isLabel least leastGiven
    exact checked.longitude label isLabel least leastGiven maxZoom maxGiven

end Graticule

/-! ### Buildings and roads -/

namespace Building

theorem complete_plan {id : String} {minZoom maxZoom : Option (Number Rat)}
    {opacity : Result Rat (Expr Rat)} (idGiven : id.isEmpty = false) (found : Succeeds opacity) :
    (plan theme id minZoom maxZoom opacity).Complete := by
  refine ⟨idGiven, by simp [plan], by simp [plan], ?_⟩
  simp [plan, Theme.succeeds_buildingFill, found]

theorem succeeds_stepsFrom {id : String} {minZoom : Option (Number Rat)}
    (idGiven : id.isEmpty = false) (minGiven : minZoom.isSome) :
    AllSucceed (stepsFrom theme id minZoom) := by
  obtain ⟨least, rfl⟩ := Option.isSome_iff_exists.mp minGiven
  unfold stepsFrom
  simp only
  split
  · exact allSucceed_nil
  · cases theme.resolveBuildings.maxZoom with
    | none =>
        simp only [allSucceed_cons, allSucceed_nil, and_true]
        exact succeeds_draw (complete_plan idGiven (Returns.ok_iff.mpr trivial))
    | some maxZoom =>
        have faded : Succeeds (fade theme.opacities.building least maxZoom) :=
          Expr.succeeds_zoomFade
        simp only
        split
        · exact allSucceed_nil
        · simp only [allSucceed_cons, allSucceed_nil, and_true]
          exact ⟨succeeds_need faded, succeeds_draw (complete_plan idGiven faded)⟩

theorem succeeds_regional (typed : theme.WellTyped) : AllSucceed (regional theme) := by
  have minGiven : theme.resolveBuildings.minZoom.isSome := by
    unfold Theme.resolveBuildings
    cases own : theme.buildings with
    | none => rfl
    | some config => exact typed.buildings config own
  exact succeeds_stepsFrom (by decide) minGiven

theorem succeeds_overlay : AllSucceed (overlay theme) :=
  succeeds_stepsFrom (by decide) rfl

end Building

namespace Road

theorem Line.succeeds_step {line : Line Rat} (idGiven : line.id.isEmpty = false)
    (sourceGiven : line.source.isEmpty = false) (paint : AllHaveValues line.paint) :
    Succeeds line.step.outcome := by
  refine succeeds_draw ⟨idGiven, by simpa using sourceGiven, ?_, paint⟩
  simp only
  split <;> simp [roundLine]

@[simp] theorem allHaveValues_colourAndWidth {colour width : Result Rat (Expr Rat)} :
    AllHaveValues (colourAndWidth colour width) ↔ Succeeds colour ∧ Succeeds width := by
  simp [colourAndWidth]

@[simp] theorem succeeds_plainColour (colour : Option String) :
    Succeeds (plainColour colour : Result Rat (Expr Rat)) :=
  Returns.ok_iff.mpr trivial

theorem succeeds_bridgeCasing {id : String} {width : Result Rat (Expr Rat)}
    (idGiven : id.isEmpty = false) (found : Succeeds width) :
    AllSucceed (bridgeCasing theme id width) := by
  unfold bridgeCasing
  split
  · exact allSucceed_nil
  · simp [Line.succeeds_step, idGiven, found]

theorem succeeds_world : AllSucceed (world theme) := by
  have colour : Succeeds theme.majorRoadLine := Theme.succeeds_majorRoadLine
  have coarse : Succeeds (widthBetween [(0, 0.2), (6, 0.6)] : Result Rat (Expr Rat)) :=
    Expr.succeeds_linear [0, 6] rfl (by simp) (by norm_num [Ascend])
  have middle : Succeeds (widthBetween [(6, 0.6), (10, 1.0)] : Result Rat (Expr Rat)) :=
    Expr.succeeds_linear [6, 10] rfl (by simp) (by norm_num [Ascend])
  simp [world, Line.succeeds_step, colour, coarse, middle]

/-- The widths of a class exist, since they start to grow below their last zoom. -/
theorem succeeds_widthFor {widths : RoadWidths Rat} (built : theme.Checked)
    (typed : theme.WellTyped) (short : widths.ShortKeys) :
    Succeeds (widths.widthFor theme.settings) := by
  obtain ⟨start, given⟩ := Option.isSome_iff_exists.mp typed.scaleStart
  exact RoadWidths.succeeds_widthFor short ⟨start, given, built.scaleStart start given⟩

theorem succeeds_ownWidth {own : Option (RoadWidths Rat)} (built : theme.Checked)
    (typed : theme.WellTyped) (short : ∀ widths ∈ own, widths.ShortKeys) :
    Succeeds ((own.getD theme.widths.road).widthFor theme.settings) := by
  cases own with
  | none => exact succeeds_widthFor built typed typed.widths.road
  | some widths => exact succeeds_widthFor built typed (short widths rfl)

variable (built : theme.Checked) (typed : theme.WellTyped)

include built typed

theorem succeeds_regional : AllSucceed (regional theme) := by
  have casing : Succeeds (casingWidth theme) :=
    succeeds_widthFor built typed typed.widths.roadCasing
  have tunnel : Succeeds (tunnelWidth theme) :=
    succeeds_ownWidth built typed typed.widths.tunnelRoad
  have bridge : Succeeds (bridgeWidth theme) :=
    succeeds_ownWidth built typed typed.widths.bridgeRoad
  have tunnelColour : Succeeds theme.tunnelLine := Theme.succeeds_classColour
  have bridgeColour : Succeeds theme.bridgeLine := Theme.succeeds_classColour
  have path : Succeeds (Expr.zoomWidth theme.widths.path trackWidth) :=
    Expr.succeeds_zoomWidth typed.widths.path
  have railway : Succeeds (Expr.zoomWidth theme.widths.railway trackWidth) :=
    Expr.succeeds_zoomWidth typed.widths.railway
  simp only [regional, allSucceed_append]
  refine ⟨⟨⟨?_, succeeds_bridgeCasing (by decide) casing⟩, ?_⟩, Building.succeeds_regional typed⟩
  · simp [Line.succeeds_step, succeeds_need, casing, tunnel, bridge, tunnelColour, path]
  · simp [Line.succeeds_step, bridge, bridgeColour, railway]

theorem succeeds_overlay : AllSucceed (overlay theme) := by
  have casing : Succeeds (casingWidth theme) :=
    succeeds_widthFor built typed typed.widths.roadCasing
  have road : Succeeds (roadWidth theme) := succeeds_widthFor built typed typed.widths.road
  have bridge : Succeeds (bridgeWidth theme) :=
    succeeds_ownWidth built typed typed.widths.bridgeRoad
  have roadColour : Succeeds theme.roadLine := Theme.succeeds_classColour
  have bridgeColour : Succeeds theme.bridgeLine := Theme.succeeds_classColour
  have alley : Succeeds (widthBetween [(14, 0.3), (15, 0.6), (18, 1.2)] : Result Rat (Expr Rat)) :=
    Expr.succeeds_linear [14, 15, 18] rfl (by simp) (by norm_num [Ascend])
  have aisle : Succeeds (widthBetween [(15, 0.2), (16, 0.4), (18, 0.8)] : Result Rat (Expr Rat)) :=
    Expr.succeeds_linear [15, 16, 18] rfl (by simp) (by norm_num [Ascend])
  have other : Succeeds (widthBetween [(14, 0.3), (15, 0.5)] : Result Rat (Expr Rat)) :=
    Expr.succeeds_linear [14, 15] rfl (by simp) (by norm_num [Ascend])
  simp only [overlay, allSucceed_append]
  refine ⟨⟨⟨Building.succeeds_overlay, ?_⟩, succeeds_bridgeCasing (by decide) casing⟩, ?_⟩
  · simp [Line.succeeds_step, casing, road, roadColour, alley, aisle, other]
  · simp [Line.succeeds_step, bridge, bridgeColour]

end Road

/-! ### Airports -/

namespace Airport

variable {config : AerowayConfig Rat}

theorem succeeds_label {style : AerowayLabelStyle Rat} {id : String}
    {size : Result Rat (Expr Rat)} {padding : Expr Rat} {minZoom : Number Rat}
    {maxZoom : Option (Number Rat)} (idGiven : id.isEmpty = false) (found : Succeeds size) :
    Succeeds (label theme style id size padding minZoom maxZoom).outcome :=
  succeeds_draw ⟨idGiven, by simp, by simp [found], by simp⟩

theorem complete_area {id sourceLayer : String} {kind : LayerKind} {minZoom : Number Rat}
    {layout paint : List (Property Rat)} (idGiven : id.isEmpty = false)
    (noBackground : kind ≠ .background) (layoutValues : AllHaveValues layout)
    (paintValues : AllHaveValues paint) :
    (area id sourceLayer kind minZoom layout paint).Complete :=
  ⟨idGiven, by simp [area, noBackground], layoutValues, paintValues⟩

theorem allHaveValues_roundLine : AllHaveValues (Road.roundLine : List (Property Rat)) := by
  simp [Road.roundLine]

theorem allHaveValues_linePaint {colour : Option String} {width opacity : Option (Number Rat)} :
    AllHaveValues (linePaint colour width opacity) := by
  simp [linePaint]

theorem complete_longRunways {style : RunwayStyle Rat} : (longRunways style).Complete :=
  ⟨by simp [longRunways, area], by simp [longRunways, area], allHaveValues_roundLine,
    allHaveValues_linePaint⟩

theorem succeeds_steps : AllSucceed (steps theme) := by
  apply forall_mem_ofDomain
  intro config _ _
  have size (setting : RangeSetting Rat) (fallback : ValueRange Rat) :
      Succeeds (Expr.rangeValue setting labelMinZoom labelMaxZoom fallback) :=
    Expr.succeeds_rangeValue (by norm_num [labelMinZoom, labelMaxZoom])
  show AllSucceed (draw theme config)
  simp [draw, succeeds_draw, complete_longRunways, complete_area, allHaveValues_roundLine,
    allHaveValues_linePaint, succeeds_label, size]

end Airport

end MapStyle
