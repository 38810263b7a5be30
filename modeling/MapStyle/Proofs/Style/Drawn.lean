import MapStyle.Proofs.Style.Group

/-!
# What the groups draw

A stack of layers is cut into the layers of its groups. Each group draws for itself: its layers are
there or not whatever the groups around it draw, and their headings are a part of the headings that
the group has.
-/

namespace MapStyle

set_option autoImplicit false

open DrawStep (compile headings headings_append headings_map_draw headings_ofDomain_sublist
  headings_of_compile)

variable {F : Type}

namespace Heading

def ofLine (line : Boundary.Line F) : Heading :=
  ⟨line.id, line.source⟩

def ofIcon (icon : PoiLabel.Icon F) : Heading :=
  ⟨icon.id, icon.source⟩

end Heading

namespace Stack

namespace Group

section Steps

variable [Arithmetic F]

/-- What a group of the stack does for a theme. -/
def steps (theme : Theme F) : Group → List (DrawStep F)
  | .background => Ground.background theme
  | .hillshade => Hillshade.steps theme
  | .worldLand => Ground.world theme
  | .worldBoundaries => Boundary.world theme
  | .regionalBoundaries => Boundary.regional theme
  | .worldWater => Water.world theme
  | .regionalWater => Water.regional theme
  | .depth => Depth.steps theme
  | .contours => Contour.steps theme
  | .ice => Ice.steps theme
  | .graticule => Graticule.steps theme
  | .worldRoads => Road.world theme
  | .regionalRoads => Road.regional theme
  | .regionalLand => Ground.regional theme
  | .roadOverlay => Road.overlay theme
  | .airports => Airport.steps theme
  | .roadLabels => RoadLabel.steps theme
  | .shields => Shield.steps theme
  | .globalWaterLabels => WaterLabel.global theme
  | .waterLabels => WaterLabel.basemap theme
  | .waterwayLabels => WaterLabel.waterways theme
  | .settlementLabels => Settlement.steps theme
  | .poiLabels => PoiLabel.steps theme
  | .places => Population.steps theme

end Steps

/-! ### Headings -/

theorem shown_sublist (wanted : Bool) (lines : List (Boundary.Line F)) :
    (headings (Boundary.shown wanted lines)).Sublist (lines.map Heading.ofLine) := by
  unfold Boundary.shown
  split
  · exact (headings_map_draw _ lines).symm ▸ List.Sublist.refl _
  · exact List.nil_sublist _

theorem casing_sublist (theme : Theme F) (id : String) (width : Result F (Expr F)) :
    (headings (Road.bridgeCasing theme id width)).Sublist [⟨id, "us_high"⟩] := by
  unfold Road.bridgeCasing
  split
  · exact List.nil_sublist _
  · exact List.Sublist.refl _

theorem icons_sublist (theme : Theme F) (category : PoiCategory)
    (icons : List (PoiLabel.Icon F)) :
    ((PoiLabel.shown theme category icons).map Heading.ofIcon).Sublist
      (icons.map Heading.ofIcon) := by
  unfold PoiLabel.shown
  split
  · exact List.Sublist.refl _
  · exact List.nil_sublist _

variable [Arithmetic F] (theme : Theme F)

theorem buildings_sublist (id : String) (minZoom : Option (Number F)) :
    (headings (Building.stepsFrom theme id minZoom)).Sublist [⟨id, "us_high"⟩] := by
  unfold Building.stepsFrom
  simp only
  split
  · exact List.nil_sublist _
  · split
    · exact List.Sublist.refl _
    · split
      · exact List.nil_sublist _
      · exact List.Sublist.refl _
    · exact List.nil_sublist _

theorem worldBoundaries_sublist :
    (headings (Boundary.world theme)).Sublist (possible .worldBoundaries) := by
  simp only [Boundary.world, headings_append]
  exact (((List.Sublist.refl []).append (shown_sublist _ _)).append (shown_sublist _ _)).append
    (shown_sublist _ _)

theorem regionalBoundaries_sublist :
    (headings (Boundary.regional theme)).Sublist (possible .regionalBoundaries) := by
  simp only [Boundary.regional, headings_append]
  exact (((List.Sublist.refl []).append (shown_sublist _ _)).append (shown_sublist _ _)).append
    (shown_sublist _ _)

theorem depth_sublist :
    (headings (Depth.steps theme)).Sublist (possible .depth) := by
  apply headings_ofDomain_sublist
  intro config
  rw [Depth.draw, headings_append, headings_map_draw]
  exact List.Sublist.refl _

theorem contours_sublist :
    (headings (Contour.steps theme)).Sublist (possible .contours) := by
  apply headings_ofDomain_sublist
  intro config
  unfold Contour.draw
  split
  · exact List.Sublist.refl _
  · exact List.nil_sublist _

theorem ice_sublist : (headings (Ice.steps theme)).Sublist (possible .ice) := by
  apply headings_ofDomain_sublist
  intro config
  have edge : [(Ice.edge config).heading].Sublist
      [⟨"ice-edge", "ne-ice"⟩, ⟨"ice-edge-hidden", "ne-ice"⟩] := by
    unfold Ice.edge
    split
    · simp [LayerPlan.heading, Ice.shownEdge, Ice.plan]
    · simp [LayerPlan.heading, Ice.hiddenEdge, Ice.plan]
  exact (List.Sublist.refl
    [⟨"ice-glaciated", "ne-ice"⟩, ⟨"ice-glaciated-outline", "ne-ice"⟩,
        ⟨"ice-shelves", "ne-ice"⟩, ⟨"ice-shelves-outline", "ne-ice"⟩]).append edge

theorem axis_sublist (axis : Graticule.Axis) (line : Option (GridLine F))
    (minZoom maxZoom : Number F) :
    (headings (Graticule.axisSteps theme axis line minZoom maxZoom)).Sublist
      [⟨"grid-" ++ axis.name, "world-grid"⟩, ⟨"grid-" ++ axis.name ++ "-label", "world-grid"⟩] := by
  unfold Graticule.axisSteps
  split
  · exact List.nil_sublist _
  · split
    · exact List.nil_sublist _
    · unfold Graticule.labelSteps
      split
      · exact List.Sublist.refl _
      · simp [LayerPlan.heading, Graticule.linePlan]

theorem graticule_sublist :
    (headings (Graticule.steps theme)).Sublist (possible .graticule) := by
  apply headings_ofDomain_sublist
  intro config
  unfold Graticule.draw
  split
  · rw [headings_append]
    exact (axis_sublist theme .latitude _ _ _).append (axis_sublist theme .longitude _ _ _)
  · split <;> exact List.nil_sublist _

theorem regionalRoads_sublist :
    (headings (Road.regional theme)).Sublist (possible .regionalRoads) := by
  simp only [Road.regional, headings_append]
  exact (((List.Sublist.refl _).append (casing_sublist theme _ _)).append
    (List.Sublist.refl _)).append (buildings_sublist theme _ _)

theorem roadOverlay_sublist :
    (headings (Road.overlay theme)).Sublist (possible .roadOverlay) := by
  simp only [Road.overlay, headings_append]
  exact (((buildings_sublist theme _ _).append (List.Sublist.refl _)).append
    (casing_sublist theme _ _)).append (List.Sublist.refl _)

theorem airports_sublist :
    (headings (Airport.steps theme)).Sublist (possible .airports) := by
  apply headings_ofDomain_sublist
  intro config
  exact List.Sublist.refl _

theorem shields_sublist :
    (headings (Shield.steps theme)).Sublist (possible .shields) := by
  apply headings_ofDomain_sublist
  intro config
  have kind (kind : ShieldKind) : (headings (Shield.kindSteps theme config kind)).Sublist
      [⟨Shield.layerId kind, "us_high"⟩] := by
    unfold Shield.kindSteps
    simp only
    split
    · exact List.nil_sublist _
    · split
      · exact List.Sublist.refl _
      · exact List.nil_sublist _
      · exact List.nil_sublist _
  simp only [ShieldKind.all, List.flatMap_cons, List.flatMap_nil, headings_append]
  exact (kind _).append ((kind _).append ((kind _).append (List.Sublist.refl _)))

theorem sourceIcons_sublist (source : String) :
    ((PoiLabel.sourceIcons theme source).map Heading.ofIcon).Sublist (possibleIcons source) := by
  simp only [PoiLabel.sourceIcons, List.map_append]
  have kinds := fun category icons => icons_sublist theme category icons
  exact (((((((((kinds _ _).append (kinds _ _)).append (kinds _ _)).append (kinds _ _)).append
    (kinds _ _)).append (kinds _ _)).append (kinds _ _)).append (kinds _ _)).append
    (kinds _ _)).append (kinds _ _)

theorem headings_poiLabels :
    headings (PoiLabel.steps theme) = (PoiLabel.icons theme).map Heading.ofIcon :=
  headings_map_draw _ _

theorem poiLabels_sublist :
    (headings (PoiLabel.steps theme)).Sublist (possible .poiLabels) := by
  rw [headings_poiLabels, PoiLabel.icons, List.map_append, List.map_append, List.map_flatMap,
    List.append_assoc]
  have bySource := List.Sublist.flatMap_right PoiLabel.sources fun source _ =>
    sourceIcons_sublist theme source
  exact bySource.append ((icons_sublist theme .airport [_]).append (icons_sublist theme .park [_]))

theorem settlement_ids : Settlement.ids theme = settlementLabels.ids :=
  rfl

/-- Whatever a theme says, a group draws nothing but the layers it may draw, in their order. -/
theorem steps_sublist (group : Group) :
    (headings (group.steps theme)).Sublist group.possible := by
  cases group with
  | hillshade => exact headings_ofDomain_sublist fun _ => List.Sublist.refl _
  | worldBoundaries => exact worldBoundaries_sublist theme
  | regionalBoundaries => exact regionalBoundaries_sublist theme
  | depth => exact depth_sublist theme
  | contours => exact contours_sublist theme
  | ice => exact ice_sublist theme
  | graticule => exact graticule_sublist theme
  | regionalRoads => exact regionalRoads_sublist theme
  | roadOverlay => exact roadOverlay_sublist theme
  | airports => exact airports_sublist theme
  | shields => exact shields_sublist theme
  | poiLabels => exact poiLabels_sublist theme
  | places => exact headings_ofDomain_sublist fun _ => List.Sublist.refl _
  | _ => exact List.Sublist.refl _

/-! ### The layers of groups -/

/-- The layers that a group draws, or none if it ends with a fault. -/
def drawn (theme : Theme F) (group : Group) : List (Layer F) :=
  match compile (group.steps theme) with
  | .ok layers => layers
  | .error _ => []

variable {theme} {group : Group} {layer : Layer F} {layers : List (Layer F)}

theorem drawn_of_compile (compiled : compile (group.steps theme) = .ok layers) :
    group.drawn theme = layers := by
  rw [drawn, compiled]

theorem drawn_congr {first second : Theme F} (same : group.steps first = group.steps second) :
    group.drawn first = group.drawn second := by
  rw [drawn, drawn, same]

theorem headings_drawn_sublist (theme : Theme F) (group : Group) :
    ((group.drawn theme).map Layer.heading).Sublist (headings (group.steps theme)) := by
  unfold drawn
  split
  case h_1 layers compiled =>
    rw [headings_of_compile compiled]
  case h_2 => exact List.nil_sublist _

theorem drawn_sublist (theme : Theme F) (group : Group) :
    ((group.drawn theme).map Layer.heading).Sublist group.possible :=
  (headings_drawn_sublist theme group).trans (steps_sublist theme group)

theorem heading_mem_of_drawn (drawn : layer ∈ group.drawn theme) :
    layer.heading ∈ group.possible :=
  (drawn_sublist theme group).subset (List.mem_map_of_mem drawn)

theorem id_mem_of_drawn (drawn : layer ∈ group.drawn theme) : layer.id ∈ group.ids :=
  List.mem_map_of_mem (f := Heading.id) (heading_mem_of_drawn drawn)

/-- Of all groups only the one that draws a layer has its id. -/
theorem id_mem_iff_of_drawn (drawn : layer ∈ group.drawn theme) {other : Group} :
    layer.id ∈ other.ids ↔ group = other := by
  constructor
  · exact eq_of_mem_ids (id_mem_of_drawn drawn)
  · rintro rfl
    exact id_mem_of_drawn drawn

theorem ids_drawn_sublist (theme : Theme F) (group : Group) :
    ((group.drawn theme).map Layer.id).Sublist group.ids := by
  have part := (drawn_sublist theme group).map Heading.id
  rwa [List.map_map] at part

/-- Groups compile together exactly if each of them does, and their layers lie one upon
another. -/
theorem compile_flatMap_eq_ok {groups : List Group} :
    compile (groups.flatMap (steps theme)) = .ok layers ↔
      (∀ group ∈ groups, compile (group.steps theme) = .ok (group.drawn theme)) ∧
        layers = groups.flatMap (drawn theme) := by
  induction groups generalizing layers with
  | nil => simp [compile, eq_comm]
  | cons group rest ih =>
      rw [List.flatMap_cons, DrawStep.compile_append, List.forall_mem_cons, List.flatMap_cons]
      constructor
      · intro compiled
        obtain ⟨below, firstCompiled, others⟩ := bind_eq_ok.mp compiled
        obtain ⟨above, restCompiled, same⟩ := bind_eq_ok.mp others
        obtain ⟨restAll, rfl⟩ := ih.mp restCompiled
        cases same
        rw [drawn_of_compile firstCompiled]
        exact ⟨⟨firstCompiled, restAll⟩, rfl⟩
      · rintro ⟨⟨firstCompiled, restAll⟩, rfl⟩
        have restCompiled := ih.mpr ⟨restAll, rfl⟩
        exact bind_eq_ok.mpr ⟨_, firstCompiled, bind_eq_ok.mpr ⟨_, restCompiled, rfl⟩⟩

end Group

theorem steps_eq_flatMap [Arithmetic F] (theme : Theme F) :
    steps theme = (Group.order theme.resolveBoundary.hideOverWater).flatMap (Group.steps theme) := by
  unfold steps
  cases theme.resolveBoundary.hideOverWater <;>
    simp only [when, ground, water, surface, overlay, texts, Group.order, Group.steps,
      List.flatMap_cons, List.flatMap_nil, List.append_assoc, List.append_nil, if_true,
      Bool.not_true, Bool.not_false, Bool.false_eq_true, if_false]

end Stack

open Stack (Group)

variable [Arithmetic F] {theme : Theme F} {layers : List (Layer F)}

namespace Theme

/-- What some groups draw for a theme, one group upon another. -/
def drawnBy (theme : Theme F) (groups : List Group) : List (Layer F) :=
  groups.flatMap (Group.drawn theme)

@[simp] theorem drawnBy_nil : theme.drawnBy [] = [] :=
  rfl

@[simp] theorem drawnBy_cons {group : Group} {rest : List Group} :
    theme.drawnBy (group :: rest) = group.drawn theme ++ theme.drawnBy rest :=
  rfl

@[simp] theorem drawnBy_append {first second : List Group} :
    theme.drawnBy (first ++ second) = theme.drawnBy first ++ theme.drawnBy second :=
  List.flatMap_append

theorem layers_eq_ok : theme.layers = .ok layers ↔
    (∀ group ∈ Group.order theme.resolveBoundary.hideOverWater,
        compile (group.steps theme) = .ok (group.drawn theme)) ∧
      layers = theme.drawnBy (Group.order theme.resolveBoundary.hideOverWater) := by
  rw [Theme.layers, Stack.steps_eq_flatMap]
  exact Group.compile_flatMap_eq_ok

end Theme

end MapStyle
