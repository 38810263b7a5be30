import MapStyle.Layer.Settlement
import MapStyle.Layer.WaterLabel
import MapStyle.Proofs.Layer.CompleteSurface
import MapStyle.Proofs.Layer.CompleteTexts
import MapStyle.Proofs.Layer.Refused

/-!
# Zooms between which layers are drawn

No factory draws a layer that ends where it starts or before. Most layers have no end, or zooms that
no theme changes; for the others the reader of a theme has compared the zooms, or the factory does
so before it draws.
-/

namespace MapStyle

set_option autoImplicit false

open DrawStep (AllDraw AllSucceed allDraw_nil allDraw_cons allDraw_append allDraw_map
  allDraw_flatMap allDraw_ofDomain draws_draw)

/-- The plan is that of a layer over some zooms. -/
def LayerPlan.Rises (plan : LayerPlan Rat) : Prop :=
  ZoomsRise plan.minZoom plan.maxZoom

open LayerPlan (Rises)

theorem exact_coarseEnd : (coarseEnd : Number Rat).exact = 13 / 2 := by
  norm_num [coarseEnd]

variable {theme : Theme Rat}

/-! ### Areas -/

theorem Ground.rise_background : AllDraw Rises (background theme) := by
  simp [background, Rises]

theorem Ground.rise_world : AllDraw Rises (world theme) := by
  norm_num [world, landcover, landuse, Rises, exact_coarseEnd]

theorem Ground.rise_regional : AllDraw Rises (regional theme) := by
  simp [regional, landcover, landuse, Rises]

theorem Water.rise_world : AllDraw Rises (world theme) := by
  norm_num [world, area, waterway, Rises, exact_coarseEnd]

theorem Water.rise_regional : AllDraw Rises (regional theme) := by
  simp [regional, area, waterway, Rises]

theorem Hillshade.rise_steps (checked : theme.Checked) : AllDraw Rises (steps theme) := by
  apply allDraw_ofDomain
  intro config given _
  have rise := (checked.hillshadeZooms config given).next
  simpa [plan, Rises] using rise

theorem Depth.rise_steps (checked : theme.Checked) : AllDraw Rises (steps theme) := by
  apply allDraw_ofDomain
  intro config given _
  have rise := (checked.bathymetryZooms config given).next
  simp only [draw, allDraw_append, allDraw_map]
  exact ⟨by simp, fun area _ => rise⟩

theorem Ice.rise_steps (checked : theme.Checked) : AllDraw Rises (steps theme) := by
  apply allDraw_ofDomain
  intro config given _
  have rise := (checked.iceZooms config given).next
  have edgeRises : (edge config).Rises := by
    unfold edge
    split <;> exact rise
  have areaRises (id sourceLayer : String) (fill : IceFill Rat) :
      AllDraw Rises (area config id sourceLayer fill) := by
    simpa [area, plan, Rises] using rise
  simp [draw, areaRises, edgeRises]

/-! ### Lines -/

theorem Contour.rise_steps (succeeds : AllSucceed (steps theme)) : AllDraw Rises (steps theme) := by
  apply allDraw_ofDomain
  intro config given enabled
  rw [steps, DrawStep.ofDomain_of_enabled given enabled] at succeeds
  unfold draw at succeeds ⊢
  split
  · rename_i maxZoom largest
    have each (span : Span Rat) (spanSucceeds : AllSucceed span.steps) :
        AllDraw Rises span.steps := by
      obtain ⟨_, checked⟩ := succeeds_iff.mp (spanSucceeds (.check span.check) List.mem_cons_self)
      have rise : ZoomsRise (some span.minZoom) (some span.maxZoom) :=
        ZoomsRise.some_iff.mpr (Span.check_eq_ok_iff.mp checked)
      simpa [Span.steps, Span.plan, Rises] using rise.next
    simp only [largest, DrawStep.allSucceed_append] at succeeds
    exact allDraw_append.mpr ⟨each _ succeeds.1, each _ succeeds.2⟩
  · simp

namespace Graticule

theorem rise_axisSteps {axis : Axis} {line : Option (GridLine Rat)} {minZoom maxZoom : Number Rat}
    (rise : ZoomsRise (some minZoom) (some maxZoom))
    (labelsRise : ∀ label ∈ line.bind GridLine.label, ZoomsRise label.minZoom (some maxZoom)) :
    AllDraw Rises (axisSteps theme axis line minZoom maxZoom) := by
  unfold axisSteps
  split
  · exact allDraw_nil
  · split
    · simp
    · refine allDraw_cons.mpr ⟨rise.next, ?_⟩
      unfold labelSteps
      split
      · rename_i label found
        obtain ⟨labelGiven, _⟩ := Option.filter_eq_some_iff.mp found
        have labelRises := labelsRise label labelGiven
        refine allDraw_cons.mpr ⟨?_, allDraw_nil⟩
        show ZoomsRise (some (label.minZoom.getD minZoom)) (some maxZoom.next)
        cases own : label.minZoom with
        | none => exact rise.next
        | some least => exact ZoomsRise.next (own ▸ labelRises)
      · exact allDraw_nil

theorem rise_steps (checked : theme.Checked) : AllDraw Rises (steps theme) := by
  apply allDraw_ofDomain
  intro config given _
  have configChecked := checked.grid config given
  unfold draw
  split
  · rename_i minZoom maxZoom least largest
    have rise : ZoomsRise (some minZoom) (some maxZoom) := least ▸ largest ▸ configChecked.zooms
    exact allDraw_append.mpr ⟨rise_axisSteps rise (largest ▸ configChecked.latitude),
      rise_axisSteps rise (largest ▸ configChecked.longitude)⟩
  · split <;> simp

end Graticule

namespace Boundary

theorem rise_shown {wanted : Bool} {lines : List (Line Rat)}
    (each : ∀ line ∈ lines, ZoomsRise (some line.minZoom) line.maxZoom) :
    AllDraw Rises (shown wanted lines) := by
  unfold shown
  split
  · exact allDraw_map.mpr each
  · exact allDraw_nil

theorem rise_world : AllDraw Rises (world theme) := by
  simp only [world, allDraw_append]
  refine ⟨⟨⟨by simp, rise_shown ?_⟩, rise_shown ?_⟩, rise_shown ?_⟩ <;>
    norm_num [exact_coarseEnd]

theorem rise_regional : AllDraw Rises (regional theme) := by
  simp only [regional, allDraw_append]
  refine ⟨⟨⟨by simp, rise_shown ?_⟩, rise_shown ?_⟩, rise_shown ?_⟩ <;> simp

end Boundary

/-! ### Buildings, roads and airports -/

theorem Building.rise_stepsFrom (theme : Theme Rat) (id : String) (minZoom : Option (Number Rat)) :
    AllDraw Rises (stepsFrom theme id minZoom) := by
  unfold stepsFrom
  simp only
  split
  · exact allDraw_nil
  · split
    · simp [plan, Rises]
    · split
      · exact allDraw_nil
      · rename_i notGone
        simpa [plan, Rises] using notGone
    · simp

namespace Road

theorem rise_bridgeCasing (id : String) (width : Result Rat (Expr Rat)) :
    AllDraw Rises (bridgeCasing theme id width) := by
  unfold bridgeCasing
  split <;> simp [Line.step, Rises]

theorem rise_world : AllDraw Rises (world theme) := by
  norm_num [world, Line.step, Rises, exact_coarseEnd]

theorem rise_regional : AllDraw Rises (regional theme) := by
  simp [regional, Line.step, Rises, rise_bridgeCasing, Building.regional, Building.rise_stepsFrom]

theorem rise_overlay : AllDraw Rises (overlay theme) := by
  simp [overlay, Line.step, Rises, rise_bridgeCasing, Building.overlay, Building.rise_stepsFrom]

end Road

theorem Airport.rise_steps : AllDraw Rises (steps theme) := by
  apply allDraw_ofDomain
  intro config _ _
  norm_num [draw, longRunways, area, label, Rises]

/-! ### Texts -/

theorem RoadLabel.rise_steps : AllDraw Rises (steps theme) := by
  simp [steps, group, Rises]

theorem Shield.rise_steps : AllDraw Rises (steps theme) := by
  apply allDraw_ofDomain
  intro config _ _
  apply allDraw_flatMap
  intro kind _
  unfold kindSteps
  simp only
  split
  · exact allDraw_nil
  · split <;> simp [plan, Rises]

namespace WaterLabel

theorem rise_global : AllDraw Rises (global theme) := by
  refine allDraw_map.mpr ?_
  norm_num [globalLabels, Label.step, Rises]

theorem rise_basemap : AllDraw Rises (basemap theme) := by
  refine allDraw_map.mpr ?_
  norm_num [coarseLabels, middleLabels, regionalLabels, Label.step, Rises, exact_coarseEnd]

theorem rise_waterways : AllDraw Rises (waterways theme) := by
  norm_num [waterways, waterway, Rises, exact_coarseEnd]

end WaterLabel

theorem Settlement.rise_steps : AllDraw Rises (steps theme) := by
  refine allDraw_map.mpr ?_
  norm_num [labels, continents, countries, country, namedStates, cities, Label.step, Rises,
    exact_coarseEnd]

theorem PoiLabel.rise_steps : AllDraw Rises (steps theme) :=
  allDraw_map.mpr fun _ _ => ZoomsRise.without_largest

end MapStyle
