import MapStyle.Layer.Airport
import MapStyle.Layer.Boundary
import MapStyle.Layer.Depth
import MapStyle.Layer.Graticule
import MapStyle.Layer.Ground
import MapStyle.Layer.Height
import MapStyle.Layer.Population
import MapStyle.Proofs.Expr.Shared
import MapStyle.Proofs.Layer.Plan

/-!
# Areas and lines the renderer can draw

Every factory of areas and lines draws usable plans only: land and water, what lies in the ocean,
boundaries, ice, the graticule, roads, airports and populated places.
-/

namespace MapStyle

set_option autoImplicit false

open MapStyle.Expr (Sound SoundStop SoundStops Usable)
open DrawStep (AllDraw allDraw_nil allDraw_cons allDraw_append allDraw_map allDraw_flatMap
  allDraw_ofDomain)
open Property (UsableAll)

variable {F : Type} [Arithmetic F]

/-! ### Land and water -/

namespace Ground

variable (theme : Theme F)

theorem usable_background : AllDraw LayerPlan.Usable (background theme) := by
  simp only [background, allDraw_cons, allDraw_nil, and_true]
  constructor
  · simp
  · simp
  · simp

theorem sound_landcoverFilter : Sound true (landcoverFilter theme) := by
  unfold landcoverFilter
  split <;> simp

theorem sound_opacity (config : LandConfig) (setting : Option (Number F)) :
    Sound false (opacity config setting) := by
  unfold opacity
  split <;> simp

theorem usable_landcover (id source : String) (minZoom maxZoom : Option (Number F)) :
    (landcover theme id source minZoom maxZoom).Usable := by
  have colour : Ensures Usable theme.landcoverFill := Theme.sound_classColour.usable
  constructor
  · simp [sound_landcoverFilter]
  · simp
  · simp [colour, sound_opacity]

theorem usable_landuse (id source : String) (minZoom maxZoom : Option (Number F)) :
    (landuse theme id source minZoom maxZoom).Usable := by
  have colour : Ensures Usable theme.landuseFill := Theme.sound_classColour.usable
  constructor
  · simp
  · simp
  · simp [colour, sound_opacity]

theorem usable_world : AllDraw LayerPlan.Usable (world theme) := by
  simp [world, usable_landcover, usable_landuse]

theorem usable_regional : AllDraw LayerPlan.Usable (regional theme) := by
  simp [regional, usable_landcover, usable_landuse]

end Ground

namespace Water

variable (theme : Theme F)

theorem usable_area (id source : String) (minZoom maxZoom : Option (Number F)) :
    (area theme id source minZoom maxZoom).Usable := by
  have colour : Ensures Usable theme.waterFill := Theme.sound_classColour.usable
  have opacity :
      Sound false (if theme.resolveWater.transparent then 0 else areaOpacity : Expr F) := by
    split <;> simp [areaOpacity]
  constructor
  · simp
  · simp
  · simp [colour, opacity]

theorem usable_waterway {id source : String} {widths : List (Number F × Expr F)}
    {minZoom maxZoom : Option (Number F)}
    (widthsSound : ∀ width ∈ widths, Sound false width.2) :
    (waterway theme id source widths minZoom maxZoom).Usable := by
  have colour : Ensures Usable theme.waterwayLine := Theme.sound_classColour.usable
  have opacity :
      Sound false (if theme.resolveWater.transparentWaterway then 0 else 1.0 : Expr F) := by
    split <;> simp
  have width : Ensures Usable (Expr.zoomStops theme.widths.waterLine widths) :=
    Expr.usable_zoomStops widthsSound
  constructor
  · simp
  · simp
  · simp [colour, opacity, width]

theorem usable_world : AllDraw LayerPlan.Usable (world theme) := by
  simp [world, usable_area, usable_waterway]

theorem usable_regional : AllDraw LayerPlan.Usable (regional theme) := by
  simp [regional, usable_area, usable_waterway]

end Water

/-! ### Depth, height and ice -/

namespace Depth

variable (config : BathymetryConfig F)

@[simp] theorem sound_depth : Sound false (depth : Expr F) := by
  simp [depth]

theorem usable_fill (water : Option String) : Ensures Usable (fill config water) := by
  apply Ensures.bind
  intro found _
  refine (Expr.ensures_linear sound_depth ?_ : Ensures (Sound false) _).usable
  refine List.forall_mem_map.mpr ?_
  intro entry _
  exact ⟨Expr.isNumber_number _, Expr.sound_ofText? _⟩

theorem usable_opacity (areaDepth : Nat) : Ensures Usable (opacity config areaDepth) := by
  unfold opacity
  apply Ensures.bind
  intro ramp _
  apply Ensures.bind
  intro full _
  apply Ensures.bind
  intro minZoom _
  apply Ensures.bind
  intro maxZoom _
  apply Ensures.bind
  intro ratio _
  apply Ensures.bind
  intro start _
  exact Expr.usable_zoomFade (Expr.sound_number start) (Expr.sound_number full)

theorem usable_plan (water : Option String) (area : String × Nat) :
    (plan config water area).Usable := by
  constructor
  · simp [plan]
  · simp [plan]
  · simp [plan, usable_fill, usable_opacity]

theorem usable_steps (theme : Theme F) : AllDraw LayerPlan.Usable (steps theme) := by
  apply allDraw_ofDomain
  intro config _ _
  rw [draw, allDraw_append, allDraw_map]
  exact ⟨by simp, fun area _ => usable_plan config _ area⟩

end Depth

namespace Hillshade

theorem usable_exaggeration (config : HillshadeConfig F) :
    Ensures Usable (exaggeration config) := by
  unfold exaggeration
  apply Ensures.bind
  intro full _
  split
  · exact Ensures.pure_iff.mpr (Expr.sound_number full).usable
  · apply Ensures.bind
    intro minZoom _
    exact Expr.usable_zoomFade (Expr.sound_number full) (Expr.sound_number full)

theorem usable_steps (theme : Theme F) : AllDraw LayerPlan.Usable (steps theme) := by
  apply allDraw_ofDomain
  intro config _ _
  simp only [allDraw_cons, allDraw_nil, and_true]
  constructor
  · simp [plan]
  · simp [plan]
  · simp [plan, usable_exaggeration]

end Hillshade

namespace Contour

namespace Span

variable (span : Span F)

/-- Stops of a span are sound if those at its boosts are, and the ones before and behind these. -/
theorem soundStops_around {step : Boost F → Result F (Expr F × Expr F)}
    {first : Expr F × Expr F} {ending : List (Expr F × Expr F)}
    (each : ∀ boost, Ensures (SoundStop false) (step boost)) (firstSound : SoundStop false first)
    (endingSound : SoundStops false ending) :
    Ensures (SoundStops false) (do
      let inner ← span.innerBoosts.mapM step
      return first :: (inner ++ ending)) := by
  apply Ensures.bind
  intro inner innerFound
  have innerSound : SoundStops false inner :=
    Ensures.forall_mem_mapM (fun boost _ => each boost) innerFound
  rw [Ensures.pure_iff, Expr.soundStops_cons, Expr.soundStops_append]
  exact ⟨firstSound, innerSound, endingSound⟩

theorem usable_widthStops : Ensures (SoundStops false) span.widthStops := by
  refine span.soundStops_around ?_ ⟨Expr.isNumber_number _, Expr.sound_ofNumber? _⟩ (by simp)
  intro boost
  apply Ensures.bind
  intro full _
  apply Ensures.bind
  intro width _
  exact Ensures.pure_iff.mpr ⟨Expr.isNumber_number _, Expr.sound_number width⟩

theorem usable_opacityStops : Ensures (SoundStops false) span.opacityStops := by
  refine span.soundStops_around ?_ ⟨Expr.isNumber_number _, Expr.sound_ofNumber? _⟩ (by simp)
  intro boost
  apply Ensures.bind
  intro base _
  apply Ensures.bind
  intro opacity _
  exact Ensures.pure_iff.mpr ⟨Expr.isNumber_number _, Expr.sound_number _⟩

theorem usable_steps : AllDraw LayerPlan.Usable span.steps := by
  have width : Ensures Usable (do Expr.linear Expr.zoom (← span.widthStops)) :=
    Ensures.andThen span.usable_widthStops fun _ sound => Expr.ensures_zoomLinear sound
  have opacity : Ensures Usable (do Expr.linear Expr.zoom (← span.opacityStops)) :=
    Ensures.andThen span.usable_opacityStops fun _ sound => Expr.ensures_zoomLinear sound
  have planUsable : span.plan.Usable := by
    constructor
    · simp [plan]
    · simp [plan]
    · simp [plan, width, opacity]
  simp [steps, planUsable]

end Span

theorem usable_steps (theme : Theme F) : AllDraw LayerPlan.Usable (steps theme) := by
  apply allDraw_ofDomain
  intro config _ _
  unfold draw
  split
  · simp [Span.usable_steps]
  · simp

end Contour

namespace Ice

variable (config : IceConfig F)

theorem usable_fade (opacity : Option (Number F)) : Ensures Usable (fade config opacity) := by
  unfold fade
  apply Ensures.bind
  intro ratio _
  apply Ensures.bind
  intro minZoom _
  apply Ensures.bind
  intro maxZoom _
  apply Ensures.bind
  intro full _
  apply Ensures.bind
  intro start _
  exact Expr.usable_zoomFade (Expr.sound_number start) (Expr.sound_number full)

theorem usable_plan {id : String} {kind : LayerKind} {sourceLayer : String}
    {filter : Option (Expr F)} {paint : List (Property F)}
    (filterSound : SoundFilter filter)
    (paintUsable : UsableAll paint) :
    (plan config id kind sourceLayer filter paint).Usable :=
  ⟨filterSound, by simp [plan], paintUsable⟩

theorem usable_area (id sourceLayer : String) (fill : IceFill F) :
    AllDraw LayerPlan.Usable (area config id sourceLayer fill) := by
  simp [area, usable_plan, usable_fade]

theorem usable_edge : (edge config).Usable := by
  unfold edge
  split
  · simp [shownEdge, usable_plan, usable_fade]
  · simp [hiddenEdge, usable_plan]

theorem usable_steps (theme : Theme F) : AllDraw LayerPlan.Usable (steps theme) := by
  apply allDraw_ofDomain
  intro config _ _
  simp [draw, usable_area, usable_edge]

end Ice

/-! ### Boundaries and the graticule -/

namespace Boundary

/-- The renderer accepts the filter, the width and the opacity of a line. -/
structure Line.Usable (line : Line F) : Prop where
  filter : Sound true line.filter
  width : Ensures Expr.Usable line.width
  opacity : Ensures Expr.Usable line.opacity

theorem Line.usable_iff {line : Line F} : line.Usable ↔
    Sound true line.filter ∧ Ensures Expr.Usable line.width ∧ Ensures Expr.Usable line.opacity := by
  constructor
  · intro usable
    exact ⟨usable.filter, usable.width, usable.opacity⟩
  · rintro ⟨filter, width, opacity⟩
    exact ⟨filter, width, opacity⟩

theorem Line.Usable.step {line : Line F} (usable : line.Usable) : line.step.Usable := by
  constructor
  · simp [usable.filter]
  · simp
  · simp [usable.width, usable.opacity]

theorem usable_shown {wanted : Bool} {lines : List (Line F)}
    (usable : ∀ line ∈ lines, line.Usable) : AllDraw LayerPlan.Usable (shown wanted lines) := by
  unfold shown
  split
  · exact allDraw_map.mpr fun line member => (usable line member).step
  · simp

theorem usable_worldOpacity (opacity : CountryOpacity F) :
    Ensures Usable (worldOpacity opacity) := by
  unfold worldOpacity
  split
  · exact Ensures.pure_iff.mpr (Expr.sound_number _).usable
  · apply Ensures.bind
    intro stops _
    exact Expr.usable_zoomWidth (Expr.sound_number _)

theorem usable_regionalOpacity (opacity : CountryOpacity F) :
    Ensures Usable (regionalOpacity opacity) := by
  unfold regionalOpacity
  split
  · exact Ensures.pure_iff.mpr (Expr.sound_number _).usable
  · apply Ensures.bind
    intro stops _
    apply Ensures.bind
    intro found _
    split
    · exact Ensures.pure_iff.mpr (Expr.sound_number _).usable
    · apply Ensures.bind
      intro value _
      exact Ensures.pure_iff.mpr (Expr.sound_number value).usable

variable (theme : Theme F)

theorem usable_world : AllDraw LayerPlan.Usable (world theme) := by
  simp only [world, allDraw_append]
  refine ⟨⟨⟨by simp, usable_shown ?_⟩, usable_shown ?_⟩, usable_shown ?_⟩
  · simp [Line.usable_iff, Expr.usable_zoomStops, usable_worldOpacity]
  · simp [Line.usable_iff, Expr.usable_zoomStops, Sound.usable]
  · simp [Line.usable_iff, Expr.usable_zoomStops, Sound.usable]

theorem usable_regional : AllDraw LayerPlan.Usable (regional theme) := by
  simp only [regional, allDraw_append]
  refine ⟨⟨⟨by simp, usable_shown ?_⟩, usable_shown ?_⟩, usable_shown ?_⟩
  · simp [Line.usable_iff, Expr.usable_zoomStops, usable_regionalOpacity]
  · simp [Line.usable_iff, Expr.usable_zoomStops, Sound.usable]
  · simp [Line.usable_iff, Expr.usable_zoomStops, Sound.usable]

end Boundary

namespace Graticule

@[simp] theorem sound_coordinateLabel (axis : Axis) :
    Sound false (coordinateLabel axis : Expr F) := by
  simp [coordinateLabel]

theorem sound_filter {axis : Axis} {line : GridLine F} :
    Ensures (Sound true) (filter axis line) := by
  unfold filter
  simp only
  split
  · apply Ensures.bind
    intro text _
    simp
  · simp

theorem usable_fade {minZoom maxZoom : Number F} {opacity : Option (Number F)} :
    Ensures Usable (fade minZoom maxZoom opacity) := by
  unfold fade
  apply Ensures.bind
  intro full _
  apply Ensures.bind
  intro start _
  exact Expr.usable_zoomFade (Expr.sound_number start) (Expr.sound_number full)

variable {theme : Theme F} {axis : Axis} {line : GridLine F} {shared : Expr F}
  {minZoom maxZoom : Number F}

theorem usable_linePlan (sharedSound : Sound true shared) :
    (linePlan axis line shared minZoom maxZoom).Usable := by
  constructor
  · simp [linePlan, sharedSound]
  · simp [linePlan]
  · simp [linePlan, Expr.usable_rangeValue, usable_fade]

theorem usable_labelPlan {label : GridLabel F} (sharedSound : Sound true shared) :
    (labelPlan theme axis line label shared minZoom maxZoom).Usable := by
  constructor
  · simp [labelPlan, sharedSound]
  · simp [labelPlan, Expr.usable_rangeValue]
  · simp [labelPlan, usable_fade]

theorem usable_axisSteps (line : Option (GridLine F)) :
    AllDraw LayerPlan.Usable (axisSteps theme axis line minZoom maxZoom) := by
  unfold axisSteps
  split
  · simp
  · split
    · simp
    · rename_i given shared found
      have sharedSound := sound_filter shared found
      rw [allDraw_cons]
      refine ⟨usable_linePlan sharedSound, ?_⟩
      unfold labelSteps
      split
      · simp [usable_labelPlan, sharedSound]
      · simp

theorem usable_steps (theme : Theme F) : AllDraw LayerPlan.Usable (steps theme) := by
  apply allDraw_ofDomain
  intro config _ _
  unfold draw
  split
  · simp [usable_axisSteps]
  · split <;> simp

end Graticule

/-! ### Roads and buildings -/

namespace Building

variable (theme : Theme F)

theorem usable_plan {id : String} {minZoom maxZoom : Option (Number F)}
    {opacity : Result F (Expr F)} (opacityUsable : Ensures Usable opacity) :
    (plan theme id minZoom maxZoom opacity).Usable := by
  constructor
  · simp [plan]
  · simp [plan]
  · simp [plan, Theme.usable_buildingFill, opacityUsable]

theorem usable_stepsFrom (id : String) (minZoom : Option (Number F)) :
    AllDraw LayerPlan.Usable (stepsFrom theme id minZoom) := by
  have faded (least largest : Number F) :
      Ensures Usable (fade theme.opacities.building least largest) :=
    Expr.usable_zoomFade (Expr.sound_ofNumber? _) (Expr.sound_ofNumber? _)
  unfold stepsFrom
  simp only
  split
  · simp
  · split
    · simp [usable_plan, Sound.usable]
    · split
      · simp
      · simp [usable_plan, faded]
    · simp

end Building

namespace Road

/-- The renderer accepts the filter and the paint of a line. -/
theorem usable_line {line : Line F} (filterSound : Sound true line.filter)
    (paintUsable : UsableAll line.paint) : line.step.Usable := by
  constructor
  · simp [filterSound]
  · simp only
    split <;> simp [roundLine]
  · exact paintUsable

variable {theme : Theme F}

@[simp] theorem usable_colourAndWidth {colour width : Result F (Expr F)} :
    UsableAll (colourAndWidth colour width) ↔
      Ensures Usable colour ∧ Ensures Usable width := by
  simp [colourAndWidth, Property.Usable, Property.computed]

@[simp] theorem usable_plainColour (colour : Option String) :
    Ensures Usable (plainColour colour : Result F (Expr F)) :=
  Ensures.ok_iff.mpr (Expr.sound_ofText? colour).usable

theorem usable_bridgeCasing {id : String} {width : Result F (Expr F)}
    (widthUsable : Ensures Usable width) :
    AllDraw LayerPlan.Usable (bridgeCasing theme id width) := by
  unfold bridgeCasing
  split
  · simp
  · simp [usable_line, Sound.usable, widthUsable]

theorem usable_widthBetween {stops : List (Expr F × Expr F)} (sound : SoundStops false stops) :
    Ensures Usable (widthBetween stops) :=
  Expr.ensures_zoomLinear sound

theorem usable_world : AllDraw LayerPlan.Usable (world theme) := by
  have colour : Ensures Usable theme.majorRoadLine := Theme.sound_colourMatch.usable
  simp [world, usable_line, colour, usable_widthBetween]

theorem usable_regional : AllDraw LayerPlan.Usable (regional theme) := by
  have casing : Ensures Usable (casingWidth theme) := RoadWidths.usable_widthFor
  have tunnel : Ensures Usable (tunnelWidth theme) := RoadWidths.usable_widthFor
  have bridge : Ensures Usable (bridgeWidth theme) := RoadWidths.usable_widthFor
  have tunnelColour : Ensures Usable theme.tunnelLine := Theme.sound_classColour.usable
  have bridgeColour : Ensures Usable theme.bridgeLine := Theme.sound_classColour.usable
  have track (stops : Option (ZoomStops F)) : Ensures Usable (Expr.zoomWidth stops trackWidth) :=
    Expr.usable_zoomWidth (by simp [trackWidth])
  simp only [regional, allDraw_append]
  refine ⟨⟨⟨?_, usable_bridgeCasing casing⟩, ?_⟩, Building.usable_stepsFrom theme _ _⟩
  · simp [usable_line, casing, tunnel, tunnelColour, track]
  · simp [usable_line, bridge, bridgeColour, track]

theorem usable_overlay : AllDraw LayerPlan.Usable (overlay theme) := by
  have casing : Ensures Usable (casingWidth theme) := RoadWidths.usable_widthFor
  have road : Ensures Usable (roadWidth theme) := RoadWidths.usable_widthFor
  have bridge : Ensures Usable (bridgeWidth theme) := RoadWidths.usable_widthFor
  have roadColour : Ensures Usable theme.roadLine := Theme.sound_classColour.usable
  have bridgeColour : Ensures Usable theme.bridgeLine := Theme.sound_classColour.usable
  have others : Sound true (otherFilter : Expr F) := by
    rw [otherFilter, Filter.sound_allAtGrade]
    simp [Filter.sound_normalClasses]
  simp only [overlay, allDraw_append]
  refine ⟨⟨⟨Building.usable_stepsFrom theme _ _, ?_⟩, usable_bridgeCasing casing⟩, ?_⟩
  · simp [usable_line, casing, road, roadColour, usable_widthBetween, others, Filter.alley,
      Filter.parkingAisle]
  · simp [usable_line, bridge, bridgeColour]

end Road

/-! ### Airports and populated places -/

namespace Airport

variable {theme : Theme F}

theorem usable_label {style : AerowayLabelStyle F} {id : String} {size : Result F (Expr F)}
    {padding : Expr F} {minZoom : Number F} {maxZoom : Option (Number F)}
    (sizeUsable : Ensures Usable size) (paddingSound : Sound false padding) :
    (label theme style id size padding minZoom maxZoom).Usable := by
  constructor
  · simp
  · simp [sizeUsable, paddingSound]
  · simp

theorem usable_area {id sourceLayer : String} {kind : LayerKind} {minZoom : Number F}
    {layout paint : List (Property F)} (layoutUsable : UsableAll layout)
    (paintUsable : UsableAll paint) : (area id sourceLayer kind minZoom layout paint).Usable :=
  ⟨by simp [area], layoutUsable, paintUsable⟩

theorem usable_linePaint (colour : Option String) (width opacity : Option (Number F)) :
    UsableAll (linePaint colour width opacity) := by
  simp [linePaint]

theorem usable_roundLine : UsableAll (Road.roundLine : List (Property F)) := by
  simp [Road.roundLine]

theorem usable_longRunways (style : RunwayStyle F) : (longRunways style).Usable :=
  ⟨by simp [longRunways], usable_roundLine, usable_linePaint _ _ _⟩

theorem usable_steps : AllDraw LayerPlan.Usable (steps theme) := by
  apply allDraw_ofDomain
  intro config _ _
  simp [draw, usable_longRunways, usable_area, usable_roundLine, usable_linePaint, usable_label,
    Expr.usable_rangeValue]

end Airport

namespace Population

variable {config : PlacesConfig F} {colours : DensityColours F}

theorem usable_fillOpacity {opacity : Expr F} (opacitySound : Sound false opacity) :
    Ensures Usable (fillOpacity opacity) := by
  have boostsSound : SoundStops false (boosts : List (Expr F × Expr F)) := by
    simp [boosts]
  unfold fillOpacity
  refine Ensures.andThen (Expr.ensures_linear (Expr.sound_featureState _) boostsSound) ?_
  intro byPeople byPeopleSound
  apply Expr.ensures_zoomLinear
  simp [fadeStart, fadeEnd, opacitySound, byPeopleSound]

theorem usable_fill : (fill config colours).Usable := by
  have colour : Ensures Usable (colours.colourExpr (Expr.ofText? config.fill.colour) false) :=
    (DensityColours.sound_colourExpr (Expr.sound_ofText? _)).usable
  constructor
  · simp [fill]
  · simp [fill]
  · simp [fill, colour, usable_fillOpacity]

theorem usable_outline : (outline config colours).Usable := by
  have colour : Ensures Usable (colours.colourExpr (Expr.ofText? config.outline.colour) true) :=
    (DensityColours.sound_colourExpr (Expr.sound_ofText? _)).usable
  constructor
  · simp [outline]
  · simp [outline]
  · simp [outline, colour, Expr.usable_zoomStops]

theorem usable_steps (theme : Theme F) : AllDraw LayerPlan.Usable (steps theme) := by
  apply allDraw_ofDomain
  intro config _ _
  simp [draw, usable_fill, usable_outline]

end Population

end MapStyle
