import MapStyle.Presets
import MapStyle.Proofs.Layer.Fading
import MapStyle.Proofs.Layer.Window
import MapStyle.Proofs.Style.Domain

/-!
# No layer is cut off

All layers of a theme that was read are drawn over some zooms. Those that end after a largest zoom
which the theme sets have faded out before they end.
-/

namespace MapStyle

set_option autoImplicit false

open DrawStep (AllDraw AllSucceed allDraw_ofDomain compile)
open Stack (Group)

variable {theme : Theme Rat} {layer : Layer Rat} {layers : List (Layer Rat)}

theorem LayerPlan.Rises.of_build {plan : LayerPlan Rat} (rises : plan.Rises)
    (built : plan.build = .ok layer) : ZoomsRise layer.minZoom layer.maxZoom := by
  rw [minZoom_of_build built, maxZoom_of_build built]
  exact rises

theorem Population.rise_steps : AllDraw LayerPlan.Rises (steps theme) := by
  apply allDraw_ofDomain
  intro config _ _
  simp [draw, fill, outline, LayerPlan.Rises]

/-- No group draws a layer that ends where it starts or before. -/
theorem Stack.Group.rise_steps (checked : theme.Checked) (group : Group)
    (succeeds : AllSucceed (group.steps theme)) : AllDraw LayerPlan.Rises (group.steps theme) := by
  cases group with
  | background => exact Ground.rise_background
  | hillshade => exact Hillshade.rise_steps checked
  | worldLand => exact Ground.rise_world
  | worldBoundaries => exact Boundary.rise_world
  | regionalBoundaries => exact Boundary.rise_regional
  | worldWater => exact Water.rise_world
  | regionalWater => exact Water.rise_regional
  | depth => exact Depth.rise_steps checked
  | contours => exact Contour.rise_steps succeeds
  | ice => exact Ice.rise_steps checked
  | graticule => exact Graticule.rise_steps checked
  | worldRoads => exact Road.rise_world
  | regionalRoads => exact Road.rise_regional
  | regionalLand => exact Ground.rise_regional
  | roadOverlay => exact Road.rise_overlay
  | airports => exact Airport.rise_steps
  | roadLabels => exact RoadLabel.rise_steps
  | shields => exact Shield.rise_steps
  | globalWaterLabels => exact WaterLabel.rise_global
  | waterLabels => exact WaterLabel.rise_basemap
  | waterwayLabels => exact WaterLabel.rise_waterways
  | settlementLabels => exact Settlement.rise_steps
  | poiLabels => exact PoiLabel.rise_steps
  | places => exact Population.rise_steps

/-- A layer of an optional domain is drawn as the domain is set up. -/
theorem DrawStep.kept_of_ofDomain {C : Type} {config : Option C} {enabled : C → Bool}
    {draw : C → List (DrawStep Rat)} {kept : C → Layer Rat → Prop}
    (each : ∀ given, AllDraw (LayerPlan.Builds (kept given)) (draw given))
    (compiled : compile (ofDomain config enabled draw) = .ok layers) (member : layer ∈ layers) :
    ∃ given ∈ config, kept given layer := by
  have all : AllDraw (LayerPlan.Builds fun layer => ∃ given ∈ config, kept given layer)
      (ofDomain config enabled draw) := by
    refine allDraw_ofDomain fun given isGiven _ step member => ?_
    cases step with
    | check outcome => trivial
    | draw plan => exact fun layer built => ⟨given, isGiven, each given _ member layer built⟩
  exact forall_mem_of_builds all compiled layer member

/-- A layer of a domain fades out as the domain is set up, and so do buildings. -/
structure Theme.FadesOut (theme : Theme Rat) (layer : Layer Rat) : Prop where
  hillshade : layer.ofDomain theme .hillshade = true →
    ∃ config ∈ theme.hillshade, Hillshade.FadesOut config layer
  bathymetry : layer.ofDomain theme .bathymetry = true →
    ∃ config ∈ theme.bathymetry, Depth.FadesOut config layer
  ice : layer.ofDomain theme .ice = true → ∃ config ∈ theme.ice, Ice.FadesOut config layer
  grid : layer.ofDomain theme .grid = true →
    ∃ config ∈ theme.grid, Graticule.FadesOut config layer
  contours : layer.ofDomain theme .contours = true →
    ∃ config ∈ theme.contours, Contour.FadesOut config layer
  buildings : Building.FadesOut theme layer

namespace Stack.Group

variable {group : Group}

theorem fadesOut_of_drawn (compiled : compile (group.steps theme) = .ok (group.drawn theme))
    (drawn : layer ∈ group.drawn theme) : theme.FadesOut layer := by
  have ofDomain {domain : Domain} (own : layer.ofDomain theme domain = true) :
      group = domain.group := Layer.group_of_ofDomain drawn own
  constructor
  case hillshade =>
    intro own
    cases ofDomain own
    exact DrawStep.kept_of_ofDomain Hillshade.allDraw_plan compiled drawn
  case bathymetry =>
    intro own
    cases ofDomain own
    exact DrawStep.kept_of_ofDomain (fun config => Depth.allDraw_draw config _) compiled drawn
  case ice =>
    intro own
    cases ofDomain own
    exact DrawStep.kept_of_ofDomain Ice.allDraw_draw compiled drawn
  case grid =>
    intro own
    cases ofDomain own
    exact DrawStep.kept_of_ofDomain (Graticule.allDraw_draw theme) compiled drawn
  case contours =>
    intro own
    cases ofDomain own
    exact DrawStep.kept_of_ofDomain Contour.allDraw_draw compiled drawn
  case buildings =>
    intro own
    obtain regional | overlay : layer.id = "building" ∨ layer.id = "building-us" := by
      simpa [Building.ids] using own
    · have inGroup : layer.id ∈ regionalRoads.ids := by
        rw [regional]
        decide
      cases (id_mem_iff_of_drawn drawn).mp inGroup
      exact DrawStep.forall_mem_of_builds (Road.builds_regional theme) compiled layer drawn own
    · have inGroup : layer.id ∈ roadOverlay.ids := by
        rw [overlay]
        decide
      cases (id_mem_iff_of_drawn drawn).mp inGroup
      exact DrawStep.forall_mem_of_builds (Road.builds_overlay theme) compiled layer drawn own

end Stack.Group

/-- Every layer of a theme that was read is drawn over some zooms, and none is cut off while there
is something of it to be seen: what fades out has its full value at the largest zoom that is set for
it, and is gone one zoom later, where its layer ends. -/
theorem Theme.no_layer_cut_off {value : Json Rat} (built : Theme.ofJson value = .ok theme)
    (drawn : theme.layers = .ok layers) :
    ∀ layer ∈ layers, ZoomsRise layer.minZoom layer.maxZoom ∧ theme.FadesOut layer := by
  obtain ⟨compiled, rfl⟩ := layers_eq_ok.mp drawn
  intro layer member
  obtain ⟨group, isGroup, inGroup⟩ := List.mem_flatMap.mp member
  have groupCompiled := compiled group isGroup
  have rises := group.rise_steps (checked_ofJson built)
    (DrawStep.succeeds_of_compile groupCompiled)
  exact ⟨DrawStep.forall_mem_compile rises (fun _ _ => LayerPlan.Rises.of_build) groupCompiled layer
    inGroup, Group.fadesOut_of_drawn groupCompiled inGroup⟩

/-! ### A theme with layers of every kind that fades out -/

def Theme.fadingDescription : Json Rat :=
  .object [
    ("name", .text "Fading"),
    ("colors", Preset.Parchment.colours.toJson),
    ("buildings", .object [("max_zoom", 15)]),
    ("bathymetry", .object []),
    ("contours", .object []),
    ("ice", .object []),
    ("hillshade", .object [("max_zoom", 9)]),
    ("grid", .object [
      ("latitude", .object [("label", .object [("min_zoom", 4)])])])]

/-- The last layer of each kind. -/
def Theme.fadingIds : List String :=
  ["hillshade", "bathymetry-fill-ne_10m_bathymetry_L_0", "contour-minor", "ice-edge",
    "grid-latitude-label", "building-us"]

theorem Theme.fadingDescription_not_cut_off : ∃ theme layers,
    Theme.ofJson fadingDescription = .ok theme ∧ theme.layers = .ok layers ∧
      (∀ id ∈ fadingIds, id ∈ layers.map Layer.id) ∧
      ∀ layer ∈ layers, ZoomsRise layer.minZoom layer.maxZoom ∧ theme.FadesOut layer := by
  have listed : ((Theme.ofJson fadingDescription >>= Theme.layers).toOption.any fun layers =>
      fadingIds.all (layers.map Layer.id).contains) = true := by
    decide +kernel
  cases found : Theme.ofJson fadingDescription >>= Theme.layers with
  | error fault =>
      rw [found] at listed
      cases listed
  | ok layers =>
      obtain ⟨theme, built, drawn⟩ := bind_eq_ok.mp found
      rw [found] at listed
      refine ⟨theme, layers, built, drawn, ?_, no_layer_cut_off built drawn⟩
      simpa [Except.toOption] using listed

end MapStyle
