import MapStyle.Proofs.Layer.Separate
import MapStyle.Proofs.Style.Drawn
import MapStyle.Proofs.Style.Group

/-!
# Faults of the stack

Every group of the stack draws with faults of single layers only, whatever the theme says. So no
fault on the way to a stack is one of ids that several layers share.
-/

namespace MapStyle

set_option autoImplicit false

open DrawStep (AllSeparate allSeparate_ofDomain)

variable {F : Type} [Arithmetic F] (theme : Theme F)

theorem Hillshade.allSeparate_steps : AllSeparate (steps theme) := by
  apply allSeparate_ofDomain
  intro config
  have exaggerationSeparate : Separate (exaggeration config) := by
    cases given : config.maxZoom <;> simp [exaggeration, strength, given]
  simp [plan, exaggerationSeparate]

namespace Boundary

theorem separate_opacityStops (opacity : CountryOpacity F) : Separate (opacityStops opacity) := by
  cases opacity <;> simp [opacityStops]

theorem separate_worldOpacity (opacity : CountryOpacity F) : Separate (worldOpacity opacity) := by
  cases opacity <;> simp [worldOpacity, separate_opacityStops]

theorem separate_regionalOpacity (opacity : CountryOpacity F) :
    Separate (regionalOpacity opacity) := by
  unfold regionalOpacity
  split
  · exact Faults.pure
  · refine Separate.bind (separate_opacityStops opacity) fun stops => ?_
    refine Separate.bind (Separate.lift _) fun found => ?_
    cases found <;> simp

omit [Arithmetic F] in
theorem allSeparate_shown {wanted : Bool} {lines : List (Line F)}
    (each : ∀ line ∈ lines, Separate line.width ∧ Separate line.opacity) :
    AllSeparate (shown wanted lines) := by
  unfold shown
  split
  · refine List.forall_mem_map.mpr fun line member => ?_
    obtain ⟨width, opacity⟩ := each line member
    exact Separate.map_iff.mpr (DrawStep.separate_build (by simp) (by simp [width, opacity]))
  · exact DrawStep.allSeparate_nil

theorem allSeparate_world : AllSeparate (world theme) := by
  have country := separate_worldOpacity theme.opacities.boundary.country
  simp [world, allSeparate_shown, country]

theorem allSeparate_regional : AllSeparate (regional theme) := by
  have country := separate_regionalOpacity theme.opacities.boundary.country
  simp [regional, allSeparate_shown, country]

end Boundary

namespace Depth

theorem separate_colours (config : BathymetryConfig F) (water : Option String) :
    Separate (colours config water) := by
  unfold colours
  split <;> simp

theorem separate_opacities (config : BathymetryConfig F) : Separate (opacities config) := by
  refine Separate.mapM fun entry => ?_
  obtain ⟨band, factor⟩ := entry
  simp only
  split <;> simp

@[simp] theorem separate_fadeRatio (opacity : ValueRange F) : Separate (fadeRatio opacity) := by
  simp [fadeRatio]

theorem separate_plan (config : BathymetryConfig F) (water : Option String)
    (area : String × Nat) : Separate (plan config water area).build := by
  apply DrawStep.separate_build
  · simp [plan]
  · simp [plan, fill, opacity, separate_colours, separate_opacities]

theorem allSeparate_steps : AllSeparate (steps theme) := by
  apply allSeparate_ofDomain
  intro config
  rw [draw, DrawStep.allSeparate_append]
  constructor
  · simp [separate_colours, separate_opacities]
  · exact List.forall_mem_map.mpr fun area _ => Separate.map_iff.mpr (separate_plan _ _ area)

end Depth

namespace Contour

theorem Span.allSeparate_steps (span : Span F) : AllSeparate span.steps := by
  have width : Separate span.widthStops := by simp [widthStops]
  have opacity : Separate span.opacityStops := by simp [opacityStops]
  have range : Separate span.check := by simp [check, Fault.OfOneLayer]
  simp [steps, plan, width, opacity, range]

theorem allSeparate_steps : AllSeparate (steps theme) := by
  apply allSeparate_ofDomain
  intro config
  unfold draw
  split
  · simp [Span.allSeparate_steps]
  · simp

end Contour

namespace Ice

theorem separate_fade (config : IceConfig F) (opacity : Option (Number F)) :
    Separate (fade config opacity) := by
  simp [fade]

theorem allSeparate_steps : AllSeparate (steps theme) := by
  apply allSeparate_ofDomain
  intro config
  have edgeSeparate : AllSeparate [.draw (edge config)] := by
    unfold edge
    split
    · simp [shownEdge, plan, separate_fade]
    · simp [hiddenEdge, plan]
  simp [draw, area, plan, separate_fade, edgeSeparate]

end Ice

namespace Graticule

theorem separate_filter (axis : Axis) (line : GridLine F) : Separate (filter axis line) := by
  unfold filter
  split <;> simp

theorem separate_fade (minZoom maxZoom : Number F) (opacity : Option (Number F)) :
    Separate (fade minZoom maxZoom opacity) := by
  simp [fade]

theorem allSeparate_axisSteps (axis : Axis) (line : Option (GridLine F))
    (minZoom maxZoom : Number F) :
    AllSeparate (axisSteps theme axis line minZoom maxZoom) := by
  unfold axisSteps
  split
  · exact DrawStep.allSeparate_nil
  · rename_i line
    have filterSeparate := separate_filter axis line
    split
    · rename_i fault found
      simpa [found] using filterSeparate
    · unfold labelSteps
      split <;> simp [linePlan, labelPlan, separate_fade]

theorem allSeparate_steps : AllSeparate (steps theme) := by
  apply allSeparate_ofDomain
  intro config
  unfold draw
  split
  · simp [allSeparate_axisSteps]
  · split <;> simp

end Graticule

namespace Building

theorem allSeparate_stepsFrom (id : String) (minZoom : Option (Number F)) :
    AllSeparate (stepsFrom theme id minZoom) := by
  unfold stepsFrom
  simp only
  split
  · exact DrawStep.allSeparate_nil
  · split
    · simp [plan]
    · split
      · exact DrawStep.allSeparate_nil
      · simp [plan, fade]
    · simp

end Building

namespace Road

omit [Arithmetic F] in
theorem separate_casing (id : String) {width : Result F (Expr F)} (separate : Separate width) :
    AllSeparate (bridgeCasing theme id width) := by
  unfold bridgeCasing
  split <;> simp [Line.step, colourAndWidth, separate, roundLine]

theorem allSeparate_regional : AllSeparate (regional theme) := by
  simp [regional, Line.step, colourAndWidth, casingWidth, tunnelWidth, bridgeWidth, plainColour,
    separate_casing, Building.regional, Building.allSeparate_stepsFrom, roundLine]

theorem allSeparate_overlay : AllSeparate (overlay theme) := by
  simp [overlay, Line.step, colourAndWidth, casingWidth, roadWidth, bridgeWidth, plainColour,
    widthBetween, separate_casing, Building.overlay, Building.allSeparate_stepsFrom, roundLine]

end Road

theorem Airport.allSeparate_steps : AllSeparate (steps theme) := by
  apply allSeparate_ofDomain
  intro config
  simp [draw, area, longRunways, label, linePaint, Road.roundLine]

theorem Shield.allSeparate_steps : AllSeparate (steps theme) := by
  apply allSeparate_ofDomain
  intro config step member
  obtain ⟨kind, _, drawn⟩ := List.mem_flatMap.mp member
  suffices AllSeparate (kindSteps theme config kind) from this step drawn
  have sizeSeparate : Separate (textSize (config.style kind)) := by
    unfold textSize
    split
    · exact Faults.ok
    · exact Faults.ok
    · exact Faults.ok
    · refine Faults.error_iff.mpr fun ids => ?_
      split <;> simp
  have zoomSeparate : Separate (minZoom config (config.style kind)) := by
    simp [minZoom]
  unfold kindSteps
  simp only
  split
  · exact DrawStep.allSeparate_nil
  · split
    · simp [plan, TextSize.curve]
    · rename_i found
      simpa [found] using sizeSeparate
    · rename_i found _
      simpa [found] using zoomSeparate

theorem Population.allSeparate_steps : AllSeparate (steps theme) := by
  apply allSeparate_ofDomain
  intro config
  simp [draw, fill, outline, fillOpacity]

namespace Settlement

omit [Arithmetic F] in
theorem separate_label {label : Label F} (size : Separate label.size)
    (extra : Property.AllSeparate label.extra) : Separate (label.step theme).outcome :=
  Separate.map_iff.mpr (DrawStep.separate_build (by simp [size, extra]) (by simp))

theorem separate_size : Separate (size : Result F (Expr F)) := by
  simp [size, Sizes.expr]

theorem allSeparate_steps : AllSeparate (steps theme) := by
  refine List.forall_mem_map.mpr ?_
  simp [labels, continents, countries, country, namedStates, cities, capitalSize, separate_label,
    separate_size]

end Settlement

namespace WaterLabel

theorem separate_label {label : Label F} (size : Separate label.size) :
    Separate (label.step theme).outcome :=
  Separate.map_iff.mpr (DrawStep.separate_build (by simp [size]) (by simp [paint]))

theorem separate_marineSizes : Separate (marineSizes : Result F (Expr F)) := by
  simp [marineSizes, marineSize, byZoom]

theorem allSeparate_global : AllSeparate (global theme) := by
  refine List.forall_mem_map.mpr ?_
  simp [globalLabels, byZoom, nameSize, separate_label, separate_marineSizes]

theorem allSeparate_basemap : AllSeparate (basemap theme) := by
  refine List.forall_mem_map.mpr ?_
  simp [coarseLabels, middleLabels, regionalLabels, byZoom, regionalMajorSize, separate_label]

theorem allSeparate_waterways : AllSeparate (waterways theme) := by
  simp [waterways, waterway, waterwaySizes, waterwaySize, byZoom, paint]

end WaterLabel

namespace PoiLabel

variable {theme}

theorem allSeparate_layout (icon : String) (iconSize : Expr F)
    (textSizes : List (Expr F × Expr F)) :
    Property.AllSeparate (layout theme icon iconSize textSizes) := by
  simp [layout]

omit [Arithmetic F] in
theorem allSeparate_alwaysShown : Property.AllSeparate (alwaysShown : List (Property F)) := by
  simp [alwaysShown]

theorem allSeparate_stadiumLayout : Property.AllSeparate (stadiumLayout theme) :=
  Property.allSeparate_override (allSeparate_layout _ _ _) allSeparate_alwaysShown

theorem allSeparate_ranked {category : PoiCategory} {source : String} {minZoom : Number F}
    {condition : Tier → Expr F} :
    ∀ icon ∈ ranked theme category source minZoom condition, Property.AllSeparate icon.layout :=
  List.forall_mem_map.mpr fun _ _ => allSeparate_layout _ _ _

theorem allSeparate_rail {source : String} {minZoom : Number F} :
    ∀ icon ∈ rail theme source minZoom, Property.AllSeparate icon.layout := by
  refine List.forall_mem_map.mpr fun tier _ => ?_
  apply Property.allSeparate_override (allSeparate_layout _ _ _)
  exact Property.allSeparate_override allSeparate_alwaysShown (by simp)

theorem allSeparate_sourceIcons (source : String) :
    ∀ icon ∈ sourceIcons theme source, Property.AllSeparate icon.layout := by
  simp only [sourceIcons, List.forall_mem_append]
  refine ⟨⟨⟨⟨⟨⟨⟨⟨⟨?_, ?_⟩, ?_⟩, ?hospital⟩, ?museum⟩, ?_⟩, ?_⟩, ?_⟩, ?rail⟩, ?school⟩
  case hospital => exact forall_mem_shown allSeparate_ranked
  case museum => exact forall_mem_shown allSeparate_ranked
  case rail => exact forall_mem_shown allSeparate_rail
  case school => exact forall_mem_shown allSeparate_ranked
  all_goals
    refine forall_mem_shown ?_
    simp [plain, asPlace, plainLayout, allSeparate_layout, allSeparate_stadiumLayout]

theorem allSeparate_icons : ∀ icon ∈ icons theme, Property.AllSeparate icon.layout := by
  simp only [icons, List.forall_mem_append]
  refine ⟨⟨?_, ?_⟩, ?_⟩
  · intro icon member
    obtain ⟨source, _, inSource⟩ := List.mem_flatMap.mp member
    exact allSeparate_sourceIcons source icon inSource
  · refine forall_mem_shown (List.forall_mem_singleton.mpr ?_)
    exact Property.allSeparate_override (allSeparate_layout _ _ _) (by simp)
  · refine forall_mem_shown (List.forall_mem_singleton.mpr ?_)
    exact Property.allSeparate_override (allSeparate_layout _ _ _) (by simp)

theorem allSeparate_steps : AllSeparate (steps theme) := by
  refine List.forall_mem_map.mpr fun icon member => ?_
  have iconSeparate := allSeparate_icons icon member
  exact Separate.map_iff.mpr (DrawStep.separate_build iconSeparate (by simp [paint]))

end PoiLabel

/-- No group ends with a fault of more than a single layer. -/
theorem Stack.Group.allSeparate_steps (group : Group) : AllSeparate (group.steps theme) := by
  cases group with
  | background => simp [steps, Ground.background]
  | hillshade => exact Hillshade.allSeparate_steps theme
  | worldLand => simp [steps, Ground.world, Ground.landcover, Ground.landuse]
  | worldBoundaries => exact Boundary.allSeparate_world theme
  | regionalBoundaries => exact Boundary.allSeparate_regional theme
  | worldWater => simp [steps, Water.world, Water.area, Water.waterway]
  | regionalWater => simp [steps, Water.regional, Water.area, Water.waterway]
  | depth => exact Depth.allSeparate_steps theme
  | contours => exact Contour.allSeparate_steps theme
  | ice => exact Ice.allSeparate_steps theme
  | graticule => exact Graticule.allSeparate_steps theme
  | worldRoads =>
      simp [steps, Road.world, Road.Line.step, Road.colourAndWidth, Road.widthBetween,
        Road.roundLine]
  | regionalRoads => exact Road.allSeparate_regional theme
  | regionalLand => simp [steps, Ground.regional, Ground.landcover, Ground.landuse]
  | roadOverlay => exact Road.allSeparate_overlay theme
  | airports => exact Airport.allSeparate_steps theme
  | roadLabels => simp [steps, RoadLabel.steps, RoadLabel.group]
  | shields => exact Shield.allSeparate_steps theme
  | globalWaterLabels => exact WaterLabel.allSeparate_global theme
  | waterLabels => exact WaterLabel.allSeparate_basemap theme
  | waterwayLabels => exact WaterLabel.allSeparate_waterways theme
  | settlementLabels => exact Settlement.allSeparate_steps theme
  | poiLabels => exact PoiLabel.allSeparate_steps
  | places => exact Population.allSeparate_steps theme

end MapStyle
