import MapStyle.Layer.Depth
import MapStyle.Layer.Graticule
import MapStyle.Layer.Height
import MapStyle.Layer.Road
import MapStyle.Proofs.Expr.Fading
import MapStyle.Proofs.Layer.Plan

/-!
# Layers that fade out

Shading, bands of depth, ice, the graticule, contour lines and buildings fade out over the zoom
after their largest one. The end of a layer and the curve along which it fades are found apart from
each other, by every factory in its own way; they agree, so that no layer is cut off while there is
something of it to be seen.
-/

namespace MapStyle

set_option autoImplicit false

open DrawStep (AllDraw allDraw_nil allDraw_cons allDraw_append allDraw_map draws_check draws_draw
  draws_need)

/-- The property that says how much of a layer is to be seen. -/
def LayerKind.fadingProperty : LayerKind → String
  | .background => "background-opacity"
  | .fill => "fill-opacity"
  | .line => "line-opacity"
  | .symbol => "text-opacity"
  | .circle => "circle-opacity"
  | .hillshade => "hillshade-exaggeration"

/-- A layer fades out after a largest zoom. The curve of its fading property ends with the full
value at that zoom and with zero one zoom later, where the layer itself ends. A renderer shows these
values there, and nothing of the layer after its end. -/
def Layer.Fades (layer : Layer Rat) (maxZoom : Number Rat) (full : Option (Number Rat)) : Prop :=
  ∃ last curve, layer.maxZoom = some last ∧ last.exact = maxZoom.exact + 1 ∧
    layer.paint.lookup layer.kind.fadingProperty = some curve ∧
    curve.FadesOut maxZoom last full ∧
    ∀ (renderer : Renderer Rat) (scene : Scene Rat),
      (scene.zoom.exact = maxZoom.exact → curve.shown renderer scene = some (.ofNumber? full)) ∧
      (last.exact ≤ scene.zoom.exact → curve.shown renderer scene = some (.number 0.0))

/-- A layer that was built has a curve, and fades out along it if its plan ends where the curve
does. -/
theorem LayerPlan.fades_of_build {plan : LayerPlan Rat} {layer : Layer Rat}
    (built : plan.build = .ok layer) {outcome : Result Rat (Expr Rat)}
    (listed : plan.paint.lookup plan.kind.fadingProperty = some outcome) :
    ∃ curve, outcome = .ok curve ∧ ∀ (maxZoom : Number Rat) (full : Option (Number Rat)),
      plan.maxZoom = some maxZoom.next → curve.FadesOut maxZoom maxZoom.next full →
        layer.Fades maxZoom full := by
  obtain ⟨curve, found, painted⟩ := (lookup_of_build built).2 listed
  have sameKind : layer.kind = plan.kind := congrArg Layer.kind (eq_layerWith_of_build built)
  refine ⟨curve, found, fun maxZoom full ends fades => ?_⟩
  exact ⟨maxZoom.next, curve, (maxZoom_of_build built).trans ends, Number.exact_next,
    sameKind ▸ painted, fades, fades.shown⟩

variable {theme : Theme Rat}

/-! ### Shading -/

namespace Hillshade

/-- With a largest zoom, shading fades out from its exaggeration times its opacity. -/
def FadesOut (config : HillshadeConfig Rat) (layer : Layer Rat) : Prop :=
  ∀ maxZoom ∈ config.maxZoom, ∃ exaggeration ∈ config.exaggeration, ∃ opacity ∈ config.opacity,
    ∃ full : Number Rat, full.exact = exaggeration.exact * opacity.exact ∧
      layer.Fades maxZoom (some full)

theorem strength_eq_ok {config : HillshadeConfig Rat} {full : Number Rat}
    (found : strength config = .ok full) :
    ∃ exaggeration ∈ config.exaggeration, ∃ opacity ∈ config.opacity,
      full.exact = exaggeration.exact * opacity.exact := by
  obtain ⟨exaggeration, exaggerationGiven, rest⟩ := bind_eq_ok.mp found
  obtain ⟨opacity, opacityGiven, multiplied⟩ := bind_eq_ok.mp rest
  exact ⟨exaggeration, require_eq_ok.mp exaggerationGiven, opacity, require_eq_ok.mp opacityGiven,
    Number.returns_mul.ensures full (lift_eq_ok.mp multiplied)⟩

theorem allDraw_plan (config : HillshadeConfig Rat) :
    AllDraw (LayerPlan.Builds (FadesOut config)) [.draw (plan config)] := by
  refine allDraw_cons.mpr ⟨?_, allDraw_nil⟩
  intro layer built maxZoom given
  obtain ⟨curve, found, fades⟩ := LayerPlan.fades_of_build built rfl
  unfold exaggeration at found
  rw [given] at found
  obtain ⟨full, strengthFound, rest⟩ := bind_eq_ok.mp found
  obtain ⟨minZoom, _, curveFound⟩ := bind_eq_ok.mp rest
  obtain ⟨whole, wholeGiven, opacity, opacityGiven, value⟩ := strength_eq_ok strengthFound
  refine ⟨whole, wholeGiven, opacity, opacityGiven, full, value, ?_⟩
  exact fades maxZoom (some full) (congrArg (Option.map Number.next) given)
    (Expr.fadesOut_of_zoomFade (some full) (some full) curveFound)

end Hillshade

/-! ### Bands of depth -/

namespace Depth

/-- A band fades out from the opacity of its depth. -/
def FadesOut (config : BathymetryConfig Rat) (layer : Layer Rat) : Prop :=
  ∃ maxZoom ∈ config.maxZoom, ∃ area ∈ areas, layer.sourceLayer = some area.1 ∧
    ∃ ramp full, opacities config = .ok ramp ∧ opacityAt (.int area.2) ramp = some full ∧
      layer.Fades maxZoom (some full)

/-- Where a band has a curve, everything that the curve is made of was found. -/
theorem opacity_eq_ok {F : Type} [Arithmetic F] {config : BathymetryConfig F} {areaDepth : Nat}
    {curve : Expr F} (found : opacity config areaDepth = .ok curve) :
    ∃ ramp full minZoom maxZoom ratio start, opacities config = .ok ramp ∧
      opacityAt (.int areaDepth) ramp = some full ∧ config.minZoom = some minZoom ∧
      config.maxZoom = some maxZoom ∧ fadeRatio config.opacity = .ok ratio ∧
      full.mul ratio = .ok start ∧
      Expr.zoomFade minZoom maxZoom (.number start) (.number full) = .ok curve := by
  obtain ⟨ramp, rampFound, rest⟩ := bind_eq_ok.mp found
  obtain ⟨full, fullFound, rest⟩ := bind_eq_ok.mp rest
  obtain ⟨minZoom, minFound, rest⟩ := bind_eq_ok.mp rest
  obtain ⟨maxZoom, maxFound, rest⟩ := bind_eq_ok.mp rest
  obtain ⟨ratio, ratioFound, rest⟩ := bind_eq_ok.mp rest
  obtain ⟨start, startFound, curveFound⟩ := bind_eq_ok.mp rest
  exact ⟨ramp, full, minZoom, maxZoom, ratio, start, rampFound, require_eq_ok.mp fullFound,
    require_eq_ok.mp minFound, require_eq_ok.mp maxFound, ratioFound, lift_eq_ok.mp startFound,
    curveFound⟩

theorem builds_plan (config : BathymetryConfig Rat) (water : Option String)
    {area : String × Nat} (member : area ∈ areas) :
    (plan config water area).Builds (FadesOut config) := by
  intro layer built
  obtain ⟨curve, found, fades⟩ := LayerPlan.fades_of_build built rfl
  obtain ⟨ramp, full, _, maxZoom, _, start, rampFound, fullFound, _, given, _, _, curveFound⟩ :=
    opacity_eq_ok found
  refine ⟨maxZoom, given, area, member, LayerPlan.sourceLayer_of_build built, ramp, full, rampFound,
    fullFound, ?_⟩
  exact fades maxZoom (some full) (congrArg (Option.map Number.next) given)
    (Expr.fadesOut_of_zoomFade (some start) (some full) curveFound)

theorem allDraw_draw (config : BathymetryConfig Rat) (water : Option String) :
    AllDraw (LayerPlan.Builds (FadesOut config)) (draw config water) :=
  allDraw_append.mpr ⟨by simp, allDraw_map.mpr fun _ member => builds_plan config water member⟩

end Depth

/-! ### Ice -/

namespace Ice

/-- The opacity that is set for a part of the ice. -/
def partOpacity (config : IceConfig Rat) (part : String) : Option (Number Rat) :=
  match part with
  | "glaciated" => config.glaciated.opacity.or config.opacity.atMax
  | "ice_shelves" => config.iceShelves.opacity.or config.opacity.atMax
  | "ice_edge" => config.iceEdge.bind IceEdge.opacity
  | _ => none

/-- Areas, their outlines and the edge fade out from the opacity of their part. An edge that is
switched off is never to be seen. -/
def FadesOut (config : IceConfig Rat) (layer : Layer Rat) : Prop :=
  layer.id ≠ "ice-edge-hidden" → ∃ maxZoom ∈ config.maxZoom, ∃ part full,
    layer.sourceLayer = some part ∧ partOpacity config part = some full ∧
      layer.Fades maxZoom (some full)

variable {config : IceConfig Rat}

theorem builds_plan {id part : String} {kind : LayerKind} {filter : Option (Expr Rat)}
    {paint : List (Property Rat)}
    (listed : paint.lookup kind.fadingProperty = some (fade config (partOpacity config part))) :
    (plan config id kind part filter paint).Builds (FadesOut config) := by
  intro layer built _
  obtain ⟨curve, found, fades⟩ := LayerPlan.fades_of_build built listed
  obtain ⟨ratio, _, rest⟩ := bind_eq_ok.mp found
  obtain ⟨minZoom, _, rest⟩ := bind_eq_ok.mp rest
  obtain ⟨maxZoom, maxFound, rest⟩ := bind_eq_ok.mp rest
  obtain ⟨full, fullFound, rest⟩ := bind_eq_ok.mp rest
  obtain ⟨start, _, curveFound⟩ := bind_eq_ok.mp rest
  have given : config.maxZoom = some maxZoom := require_eq_ok.mp maxFound
  refine ⟨maxZoom, given, part, full, LayerPlan.sourceLayer_of_build built,
    require_eq_ok.mp fullFound, ?_⟩
  exact fades maxZoom (some full) (congrArg (Option.map Number.next) given)
    (Expr.fadesOut_of_zoomFade (some start) (some full) curveFound)

theorem builds_edge (config : IceConfig Rat) : (edge config).Builds (FadesOut config) := by
  unfold edge
  split
  · rename_i shown found
    obtain ⟨given, _⟩ := Option.filter_eq_some_iff.mp found
    have opacity : partOpacity config "ice_edge" = shown.opacity := by
      simp [partOpacity, given]
    apply builds_plan
    rw [opacity]
    rfl
  · intro layer built visible
    exact absurd (LayerPlan.id_of_build built) visible

theorem allDraw_draw (config : IceConfig Rat) :
    AllDraw (LayerPlan.Builds (FadesOut config)) (draw config) := by
  simp only [draw, area, allDraw_append, allDraw_cons, allDraw_nil, draws_draw, and_true]
  refine ⟨⟨⟨?_, ?_⟩, ?_, ?_⟩, builds_edge config⟩ <;> exact builds_plan rfl

end Ice

/-! ### The graticule -/

namespace Graticule

/-- The lines that are set for an axis. -/
def Axis.line? (axis : Axis) (config : GridConfig Rat) : Option (GridLine Rat) :=
  match axis with
  | .latitude => config.latitude
  | .longitude => config.longitude

/-- Lines fade out from their opacity, and labels from that of the labels. -/
def FadesOut (config : GridConfig Rat) (layer : Layer Rat) : Prop :=
  ∃ maxZoom ∈ config.maxZoom, ∃ axis : Axis, ∃ line ∈ axis.line? config,
    (layer.id = "grid-" ++ axis.name ∧ ∃ full ∈ line.opacity, layer.Fades maxZoom (some full)) ∨
      (layer.id = "grid-" ++ axis.name ++ "-label" ∧ ∃ label ∈ line.label,
        ∃ full ∈ label.opacity, layer.Fades maxZoom (some full))

variable {config : GridConfig Rat} {axis : Axis} {line : GridLine Rat} {filter : Expr Rat}
  {minZoom maxZoom : Number Rat}

theorem fades_of_build {plan : LayerPlan Rat} {layer : Layer Rat} (built : plan.build = .ok layer)
    {opacity : Option (Number Rat)}
    (listed : plan.paint.lookup plan.kind.fadingProperty = some (fade minZoom maxZoom opacity))
    (ends : plan.maxZoom = some maxZoom.next) :
    ∃ full ∈ opacity, layer.Fades maxZoom (some full) := by
  obtain ⟨curve, found, fades⟩ := LayerPlan.fades_of_build built listed
  obtain ⟨full, fullFound, rest⟩ := bind_eq_ok.mp found
  obtain ⟨start, _, curveFound⟩ := bind_eq_ok.mp rest
  exact ⟨full, require_eq_ok.mp fullFound, fades maxZoom (some full) ends
    (Expr.fadesOut_of_zoomFade (some start) (some full) curveFound)⟩

theorem allDraw_axisSteps (theme : Theme Rat) (given : config.maxZoom = some maxZoom)
    (axis : Axis) : AllDraw (LayerPlan.Builds (FadesOut config))
      (axisSteps theme axis (axis.line? config) minZoom maxZoom) := by
  unfold axisSteps
  split
  · exact allDraw_nil
  · rename_i line lineGiven
    split
    · simp
    · refine allDraw_cons.mpr ⟨?_, ?_⟩
      · intro layer built
        exact ⟨maxZoom, given, axis, line, lineGiven,
          .inl ⟨LayerPlan.id_of_build built, fades_of_build built rfl rfl⟩⟩
      · unfold labelSteps
        split
        · rename_i label found
          obtain ⟨labelGiven, _⟩ := Option.filter_eq_some_iff.mp found
          refine allDraw_cons.mpr ⟨?_, allDraw_nil⟩
          intro layer built
          exact ⟨maxZoom, given, axis, line, lineGiven,
            .inr ⟨LayerPlan.id_of_build built, label, labelGiven,
              fades_of_build built rfl rfl⟩⟩
        · exact allDraw_nil

theorem allDraw_draw (theme : Theme Rat) (config : GridConfig Rat) :
    AllDraw (LayerPlan.Builds (FadesOut config)) (draw theme config) := by
  unfold draw
  split
  · rename_i minZoom maxZoom _ given
    exact allDraw_append.mpr ⟨allDraw_axisSteps theme given .latitude,
      allDraw_axisSteps theme given .longitude⟩
  · split <;> simp

end Graticule

/-! ### Contour lines -/

namespace Contour

/-- Contour lines fade out from the opacity of their kind. -/
def FadesOut (config : ContoursConfig Rat) (layer : Layer Rat) : Prop :=
  ∃ maxZoom ∈ config.maxZoom, ∃ span ∈ [major config maxZoom, minor config maxZoom],
    layer.id = span.id ∧ layer.Fades maxZoom span.style.opacity

/-- The stops of the opacity end with those of a curve that fades out. -/
theorem Span.opacityStops_eq_ok {span : Span Rat} {stops : List (Expr Rat × Expr Rat)}
    (found : span.opacityStops = .ok stops) : ∃ front : List Expr.SettingStop,
      stops = Expr.settingStops (front ++
        [(span.maxZoom, span.style.opacity), (span.maxZoom.next, some 0.0)]) := by
  obtain ⟨inner, innerFound, same⟩ := bind_eq_ok.mp found
  have each : ∀ stop ∈ inner, ∃ setting : Expr.SettingStop,
      (.number setting.1, Expr.ofNumber? setting.2) = stop := by
    refine Ensures.forall_mem_mapM (fun boost _ => ?_) innerFound
    refine Ensures.bind fun base _ => Ensures.bind fun boosted _ => Ensures.pure_iff.mpr ?_
    exact ⟨(boost.zoom, some (Number.smaller 1.0 boosted)), rfl⟩
  obtain ⟨boosted, rfl⟩ := Expr.exists_settingStops each
  cases same
  refine ⟨(span.minZoom, span.style.opacity) :: boosted, ?_⟩
  simp only [Expr.settingStops, List.cons_append, List.map_cons, List.map_append, List.map_nil]
  rfl

theorem Span.fades_of_build {span : Span Rat} {layer : Layer Rat}
    (built : span.plan.build = .ok layer) : layer.Fades span.maxZoom span.style.opacity := by
  obtain ⟨curve, found, fades⟩ := LayerPlan.fades_of_build built rfl
  obtain ⟨stops, stopsFound, curveFound⟩ := bind_eq_ok.mp found
  obtain ⟨front, rfl⟩ := opacityStops_eq_ok stopsFound
  exact fades span.maxZoom span.style.opacity rfl (Expr.fadesOut_of_linear front curveFound)

theorem allDraw_draw (config : ContoursConfig Rat) :
    AllDraw (LayerPlan.Builds (FadesOut config)) (draw config) := by
  unfold draw
  split
  · rename_i maxZoom given
    have each (span : Span Rat) (member : span ∈ [major config maxZoom, minor config maxZoom])
        (ends : span.maxZoom = maxZoom) : span.plan.Builds (FadesOut config) := by
      intro layer built
      refine ⟨maxZoom, given, span, member, LayerPlan.id_of_build built, ?_⟩
      exact ends ▸ Span.fades_of_build built
    simp only [Span.steps, allDraw_append, allDraw_cons, allDraw_nil, draws_check, draws_need,
      draws_draw, true_and, and_true]
    exact ⟨each _ (by simp) rfl, each _ (by simp) rfl⟩
  · simp

end Contour

/-! ### Buildings -/

namespace Building

/-- The layers of buildings: those of the region, and those over regional land. -/
def ids : List String := ["building", "building-us"]

/-- With a largest zoom, buildings fade out from their opacity. -/
def FadesOut (theme : Theme Rat) (layer : Layer Rat) : Prop :=
  layer.id ∈ ids → ∀ maxZoom ∈ theme.resolveBuildings.maxZoom,
    layer.Fades maxZoom theme.opacities.building

theorem builds_other {plan : LayerPlan Rat} (other : plan.id ∉ ids) :
    plan.Builds (FadesOut theme) := by
  intro layer built own
  rw [LayerPlan.id_of_build built] at own
  exact absurd own other

theorem allDraw_stepsFrom (theme : Theme Rat) (id : String) (minZoom : Option (Number Rat)) :
    AllDraw (LayerPlan.Builds (FadesOut theme)) (stepsFrom theme id minZoom) := by
  unfold stepsFrom
  simp only
  split
  · exact allDraw_nil
  · split
    · rename_i absent
      refine allDraw_cons.mpr ⟨?_, allDraw_nil⟩
      intro layer _ _ maxZoom given
      rw [absent] at given
      cases given
    · rename_i largest least isLargest
      split
      · exact allDraw_nil
      · simp only [allDraw_cons, draws_need, allDraw_nil, draws_draw, and_true, true_and]
        intro layer built _ maxZoom given
        obtain rfl : largest = maxZoom := Option.some.inj (isLargest.symm.trans given)
        obtain ⟨curve, found, fades⟩ := LayerPlan.fades_of_build built rfl
        exact fades largest theme.opacities.building rfl
          (Expr.fadesOut_of_zoomFade _ _ found)
    · simp

end Building

namespace Road

theorem builds_bridgeCasing {id : String} (other : id ∉ Building.ids)
    (width : Result Rat (Expr Rat)) :
    AllDraw (LayerPlan.Builds (Building.FadesOut theme)) (bridgeCasing theme id width) := by
  unfold bridgeCasing
  split
  · exact allDraw_nil
  · exact allDraw_cons.mpr ⟨Building.builds_other other, allDraw_nil⟩

theorem builds_regional (theme : Theme Rat) :
    AllDraw (LayerPlan.Builds (Building.FadesOut theme)) (regional theme) := by
  simp [regional, Line.step, Building.builds_other, builds_bridgeCasing, Building.ids,
    Building.regional, Building.allDraw_stepsFrom]

theorem builds_overlay (theme : Theme Rat) :
    AllDraw (LayerPlan.Builds (Building.FadesOut theme)) (overlay theme) := by
  simp [overlay, Line.step, Building.builds_other, builds_bridgeCasing, Building.ids,
    Building.overlay, Building.allDraw_stepsFrom]

end Road

end MapStyle
