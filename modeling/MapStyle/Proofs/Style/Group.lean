import Mathlib.Data.List.Flatten
import Mathlib.Data.List.Nodup
import MapStyle.Proofs.Layer.Complete
import MapStyle.Style.Stack

/-!
# Groups of the stack

The stack is made of groups of layers, one for each factory. A theme decides which layers of a
group there are, but never which group a layer belongs to: every group has a list of possible
headings, no id stands in two of these lists or twice in one, and what a group draws for any theme
is a part of its list, in the same order.
-/

namespace MapStyle

set_option autoImplicit false

/-! ### Headings of layers

The heading of a layer is its id and the source it draws from. Both are known from its plan, so
the headings of the layers that a list of steps compiles to are known before any of them is built. -/

variable {F : Type}

structure Heading where
  id : String
  source : Option String
  deriving DecidableEq, Repr

def Layer.heading (layer : Layer F) : Heading :=
  ⟨layer.id, layer.source⟩

def LayerPlan.heading (plan : LayerPlan F) : Heading :=
  ⟨plan.id, plan.source⟩

theorem LayerPlan.heading_of_build {plan : LayerPlan F} {layer : Layer F}
    (built : plan.build = .ok layer) : layer.heading = plan.heading :=
  congrArg Layer.heading (eq_layerWith_of_build built)

namespace DrawStep

/-- The headings of the layers that are drawn, from back to front. -/
def headings (steps : List (DrawStep F)) : List Heading :=
  steps.filterMap fun step => step.plan?.map LayerPlan.heading

@[simp] theorem headings_nil : headings ([] : List (DrawStep F)) = [] :=
  rfl

@[simp] theorem headings_check (outcome : Result F Unit) (rest : List (DrawStep F)) :
    headings (.check outcome :: rest) = headings rest :=
  rfl

@[simp] theorem headings_draw (plan : LayerPlan F) (rest : List (DrawStep F)) :
    headings (.draw plan :: rest) = plan.heading :: headings rest :=
  rfl

@[simp] theorem headings_append (first second : List (DrawStep F)) :
    headings (first ++ second) = headings first ++ headings second :=
  List.filterMap_append

/-- Steps that each draw one layer. -/
theorem headings_map_draw {α : Type} (plan : α → LayerPlan F) (items : List α) :
    headings (items.map fun item => .draw (plan item)) =
      items.map fun item => (plan item).heading := by
  induction items with
  | nil => rfl
  | cons item rest ih => rw [List.map_cons, headings_draw, ih, List.map_cons]

/-- A domain draws nothing, or what it draws when it is set up and switched on. -/
theorem headings_ofDomain_sublist {C : Type} {config : Option C} {enabled : C → Bool}
    {draw : C → List (DrawStep F)} {possible : List Heading}
    (each : ∀ given, (headings (draw given)).Sublist possible) :
    (headings (ofDomain config enabled draw)).Sublist possible := by
  unfold ofDomain
  split
  · exact each _
  · exact List.nil_sublist possible

theorem headings_of_compile {steps : List (DrawStep F)} {layers : List (Layer F)}
    (compiled : compile steps = .ok layers) : layers.map Layer.heading = headings steps := by
  rw [map_of_compile (fun _ _ => LayerPlan.heading_of_build) compiled, plans, List.map_filterMap]
  rfl

end DrawStep

/-! ### Steps of the whole stack

What holds of every step of the groups that the stack is made of holds of all its steps, in
whichever order a theme wants the boundaries. -/

namespace PoiLabel

variable {theme : Theme F}

theorem forall_mem_shown {holds : Icon F → Prop} {category : PoiCategory} {icons : List (Icon F)}
    (all : ∀ icon ∈ icons, holds icon) : ∀ icon ∈ shown theme category icons, holds icon := by
  unfold shown
  split
  · exact all
  · simp

end PoiLabel

namespace Stack

variable {theme : Theme F} {holds : DrawStep F → Prop}

theorem forall_mem_when {wanted : Bool} {steps : List (DrawStep F)}
    (all : ∀ step ∈ steps, holds step) : ∀ step ∈ when wanted steps, holds step := by
  unfold when
  split
  · exact all
  · simp

variable [Arithmetic F]

theorem forall_mem_steps (groundHolds : ∀ step ∈ ground theme, holds step)
    (worldHolds : ∀ step ∈ Boundary.world theme, holds step)
    (regionalHolds : ∀ step ∈ Boundary.regional theme, holds step)
    (waterHolds : ∀ step ∈ water theme, holds step)
    (surfaceHolds : ∀ step ∈ surface theme, holds step)
    (overlayHolds : ∀ step ∈ overlay theme, holds step)
    (textsHold : ∀ step ∈ texts theme, holds step) : ∀ step ∈ steps theme, holds step := by
  have boundaries : ∀ step ∈ Boundary.world theme ++ Boundary.regional theme, holds step :=
    List.forall_mem_append.mpr ⟨worldHolds, regionalHolds⟩
  simp only [steps, List.forall_mem_append]
  exact ⟨⟨⟨⟨⟨⟨⟨groundHolds, forall_mem_when boundaries⟩, waterHolds⟩, forall_mem_when worldHolds⟩,
    surfaceHolds⟩, forall_mem_when regionalHolds⟩, overlayHolds⟩, textsHold⟩

end Stack

/-! ### Groups -/

namespace Stack

inductive Group where
  | background
  | hillshade
  | worldLand
  | worldBoundaries
  | regionalBoundaries
  | worldWater
  | regionalWater
  | depth
  | contours
  | ice
  | graticule
  | worldRoads
  | regionalRoads
  | regionalLand
  | roadOverlay
  | airports
  | roadLabels
  | shields
  | globalWaterLabels
  | waterLabels
  | waterwayLabels
  | settlementLabels
  | poiLabels
  | places
  deriving DecidableEq, Repr

namespace Group

/-- The groups of the stack from back to front. Boundaries that water hides lie below it; otherwise
those of the world lie on the water and those of the region on regional land. The areas of places
are no group of the stack: they are put between its layers later. -/
def order (hidden : Bool) : List Group :=
  match hidden with
  | true =>
      [.background, .hillshade, .worldLand, .worldBoundaries, .regionalBoundaries, .worldWater,
        .regionalWater, .depth, .contours, .ice, .graticule, .worldRoads, .regionalRoads,
        .regionalLand, .roadOverlay, .airports, .roadLabels, .shields, .globalWaterLabels,
        .waterLabels, .waterwayLabels, .settlementLabels, .poiLabels]
  | false =>
      [.background, .hillshade, .worldLand, .worldWater, .regionalWater, .depth, .contours,
        .worldBoundaries, .ice, .graticule, .worldRoads, .regionalRoads, .regionalLand,
        .regionalBoundaries, .roadOverlay, .airports, .roadLabels, .shields, .globalWaterLabels,
        .waterLabels, .waterwayLabels, .settlementLabels, .poiLabels]

/-- What the points of interest of one source may be drawn as. -/
def possibleIcons (source : String) : List Heading :=
  [⟨"poi-airport-" ++ source, source⟩,
    ⟨"poi-airfield-" ++ source, source⟩,
    ⟨"place-airport-" ++ source, source⟩,
    ⟨"poi-hospital-rank1-" ++ source, source⟩,
    ⟨"poi-hospital-rank2-" ++ source, source⟩,
    ⟨"poi-hospital-rank3plus-" ++ source, source⟩,
    ⟨"poi-museum-rank1-" ++ source, source⟩,
    ⟨"poi-museum-rank2-" ++ source, source⟩,
    ⟨"poi-museum-rank3plus-" ++ source, source⟩,
    ⟨"poi-zoo-" ++ source, source⟩,
    ⟨"poi-stadium-" ++ source, source⟩,
    ⟨"place-stadium-" ++ source, source⟩,
    ⟨"poi-park-" ++ source, source⟩,
    ⟨"poi-rail-rank1-" ++ source, source⟩,
    ⟨"poi-rail-rank2-" ++ source, source⟩,
    ⟨"poi-rail-rank3plus-" ++ source, source⟩,
    ⟨"poi-school-rank1-" ++ source, source⟩,
    ⟨"poi-school-rank2-" ++ source, source⟩,
    ⟨"poi-school-rank3plus-" ++ source, source⟩]

/-- The layers that a group may draw, from back to front. -/
def possible : Group → List Heading
  | .background => [⟨"background", none⟩]
  | .hillshade => [⟨"hillshade", "world-hillshade"⟩]
  | .worldLand =>
      [⟨"landcover-world", "world_low"⟩, ⟨"landcover-world-mid", "world_mid"⟩,
        ⟨"landuse-world", "world_low"⟩, ⟨"landuse-world-mid", "world_mid"⟩]
  | .worldBoundaries =>
      [⟨"boundary-country-world", "world_low"⟩, ⟨"boundary-country-world-mid", "world_mid"⟩,
        ⟨"boundary-maritime-world", "world_low"⟩, ⟨"boundary-maritime-world-mid", "world_mid"⟩,
        ⟨"boundary-state-world", "world_low"⟩, ⟨"boundary-state-world-mid", "world_mid"⟩]
  | .regionalBoundaries =>
      [⟨"boundary-country-us", "us_high"⟩, ⟨"boundary-maritime-us", "us_high"⟩,
        ⟨"boundary-state-us", "us_high"⟩]
  | .worldWater =>
      [⟨"water-world", "world_low"⟩, ⟨"water-world-mid", "world_mid"⟩,
        ⟨"waterway-world", "world_low"⟩, ⟨"waterway-world-mid", "world_mid"⟩]
  | .regionalWater => [⟨"water-us", "us_high"⟩, ⟨"waterway-us", "us_high"⟩]
  | .depth =>
      [⟨"bathymetry-fill-ne_10m_bathymetry_A_10000", "ne-bathy"⟩,
        ⟨"bathymetry-fill-ne_10m_bathymetry_B_9000", "ne-bathy"⟩,
        ⟨"bathymetry-fill-ne_10m_bathymetry_C_8000", "ne-bathy"⟩,
        ⟨"bathymetry-fill-ne_10m_bathymetry_D_7000", "ne-bathy"⟩,
        ⟨"bathymetry-fill-ne_10m_bathymetry_E_6000", "ne-bathy"⟩,
        ⟨"bathymetry-fill-ne_10m_bathymetry_F_5000", "ne-bathy"⟩,
        ⟨"bathymetry-fill-ne_10m_bathymetry_G_4000", "ne-bathy"⟩,
        ⟨"bathymetry-fill-ne_10m_bathymetry_H_3000", "ne-bathy"⟩,
        ⟨"bathymetry-fill-ne_10m_bathymetry_I_2000", "ne-bathy"⟩,
        ⟨"bathymetry-fill-ne_10m_bathymetry_J_1000", "ne-bathy"⟩,
        ⟨"bathymetry-fill-ne_10m_bathymetry_K_200", "ne-bathy"⟩,
        ⟨"bathymetry-fill-ne_10m_bathymetry_L_0", "ne-bathy"⟩]
  | .contours => [⟨"contour-major", "world-contours"⟩, ⟨"contour-minor", "world-contours"⟩]
  | .ice =>
      [⟨"ice-glaciated", "ne-ice"⟩, ⟨"ice-glaciated-outline", "ne-ice"⟩,
        ⟨"ice-shelves", "ne-ice"⟩, ⟨"ice-shelves-outline", "ne-ice"⟩, ⟨"ice-edge", "ne-ice"⟩,
        ⟨"ice-edge-hidden", "ne-ice"⟩]
  | .graticule =>
      [⟨"grid-latitude", "world-grid"⟩, ⟨"grid-latitude-label", "world-grid"⟩,
        ⟨"grid-longitude", "world-grid"⟩, ⟨"grid-longitude-label", "world-grid"⟩]
  | .worldRoads => [⟨"road-world", "world_low"⟩, ⟨"road-world-mid", "world_mid"⟩]
  | .regionalRoads =>
      [⟨"road-tunnel-casing", "us_high"⟩, ⟨"road-tunnel", "us_high"⟩, ⟨"road-casing", "us_high"⟩,
        ⟨"paths", "us_high"⟩, ⟨"road-bridge-casing", "us_high"⟩, ⟨"road-bridge", "us_high"⟩,
        ⟨"railway", "us_high"⟩, ⟨"building", "us_high"⟩]
  | .regionalLand => [⟨"landcover-us", "us_high"⟩, ⟨"landuse-us", "us_high"⟩]
  | .roadOverlay =>
      [⟨"building-us", "us_high"⟩, ⟨"road-casing-us", "us_high"⟩, ⟨"road-us", "us_high"⟩,
        ⟨"road-alley", "us_high"⟩, ⟨"road-parking-aisle", "us_high"⟩, ⟨"road-other", "us_high"⟩,
        ⟨"road-bridge-casing-us", "us_high"⟩, ⟨"road-bridge-us", "us_high"⟩]
  | .airports =>
      [⟨"aeroway-runway-major", "aeroway-world"⟩, ⟨"aeroway-runway-all", "aeroway-world"⟩,
        ⟨"aeroway-apron-fill", "aeroway-world"⟩, ⟨"aeroway-apron-outline", "aeroway-world"⟩,
        ⟨"aeroway-taxiway", "aeroway-world"⟩, ⟨"aeroway-helipad-fill", "aeroway-world"⟩,
        ⟨"aeroway-label-major", "aeroway-world"⟩, ⟨"aeroway-label-detailed", "aeroway-world"⟩]
  | .roadLabels =>
      [⟨"road-label-major", "us_high"⟩, ⟨"road-label-secondary", "us_high"⟩,
        ⟨"road-label-tertiary", "us_high"⟩, ⟨"road-label-other", "us_high"⟩]
  | .shields =>
      [⟨"highway-shield-interstate", "us_high"⟩, ⟨"highway-shield-us", "us_high"⟩,
        ⟨"highway-shield-state", "us_high"⟩]
  | .globalWaterLabels =>
      [⟨"marine-label-world-labels-place-ocean", "world_labels"⟩,
        ⟨"marine-label-world-labels-place", "world_labels"⟩,
        ⟨"water-label-world-labels-watername-ocean", "world_labels"⟩,
        ⟨"water-label-world-labels-watername", "world_labels"⟩]
  | .waterLabels =>
      [⟨"marine-label-world-watername-ocean", "world_low"⟩,
        ⟨"marine-label-world-watername", "world_low"⟩,
        ⟨"marine-label-world", "world_low"⟩,
        ⟨"water-label-world-major", "world_low"⟩,
        ⟨"water-label-world", "world_low"⟩,
        ⟨"marine-label-world-mid-watername-ocean", "world_mid"⟩,
        ⟨"marine-label-world-mid-watername", "world_mid"⟩,
        ⟨"marine-label-world-mid", "world_mid"⟩,
        ⟨"water-label-world-mid-major", "world_mid"⟩,
        ⟨"water-label-world-mid", "world_mid"⟩,
        ⟨"marine-label-us-watername-ocean", "us_high"⟩,
        ⟨"marine-label-us-watername", "us_high"⟩,
        ⟨"marine-label-us", "us_high"⟩,
        ⟨"water-label-us-place", "us_high"⟩,
        ⟨"water-label-us-major", "us_high"⟩,
        ⟨"water-label-us", "us_high"⟩]
  | .waterwayLabels =>
      [⟨"waterway-label-world", "world_low"⟩, ⟨"waterway-label-world-mid", "world_mid"⟩,
        ⟨"waterway-label-us", "us_high"⟩]
  | .settlementLabels =>
      [⟨"continent-label", "world_low"⟩, ⟨"country-label-world", "world_low"⟩,
        ⟨"country-label-world-mid", "world_mid"⟩, ⟨"country-label", "us_high"⟩,
        ⟨"state-label-us-world", "world_low"⟩, ⟨"state-label-us", "us_high"⟩,
        ⟨"city-label-world-rank1-2", "world_low"⟩, ⟨"city-label-us-rank1-2", "us_high"⟩,
        ⟨"city-label-us-all", "us_high"⟩]
  | .poiLabels => PoiLabel.sources.flatMap possibleIcons ++
      [⟨"aerodrome-label-airport-us_high", "us_high"⟩, ⟨"park-label-us_high", "us_high"⟩]
  | .places => [⟨"places-fill", "places-source"⟩, ⟨"places-outline", "places-source"⟩]

/-! ### No id belongs to two groups -/

/-- The bytes of a text as one number. Numbers are told apart with less work than texts. -/
def code (text : String) : Nat :=
  text.toByteArray.data.toList.foldl (fun number byte => number * 256 + byte.toNat) 0

/-- No number stands twice in a list. -/
def distinct : List Nat → Bool
  | [] => true
  | first :: rest => rest.all (fun other => !first.beq other) && distinct rest

theorem nodup_of_distinct {codes : List Nat} (apart : distinct codes = true) : codes.Nodup := by
  induction codes with
  | nil => exact List.nodup_nil
  | cons first rest ih =>
      simp only [distinct, Bool.and_eq_true, List.all_eq_true] at apart
      obtain ⟨different, restApart⟩ := apart
      refine List.nodup_cons.mpr ⟨fun repeated => ?_, ih restApart⟩
      simpa using different first repeated

def ids (group : Group) : List String :=
  group.possible.map Heading.id

/-- The groups of the stack and the places that are put between them. -/
def all : List Group :=
  order true ++ [.places]

theorem mem_all (group : Group) : group ∈ all := by
  cases group <;> decide

theorem nodup_allIds : (all.flatMap ids).Nodup := by
  have apart : distinct ((all.flatMap ids).map code) = true := by decide +kernel
  exact (nodup_of_distinct apart).of_map code

/-- Boundaries change their place in the stack, but no group is lost or drawn twice. -/
theorem order_perm (hidden : Bool) : (order hidden ++ [Group.places]).Perm all := by
  cases hidden <;> decide

theorem nodup_ids (hidden : Bool) : ((order hidden ++ [Group.places]).flatMap ids).Nodup :=
  ((order_perm hidden).flatMap_right ids).nodup_iff.mpr nodup_allIds

theorem eq_of_mem_ids {first second : Group} {id : String} (inFirst : id ∈ first.ids)
    (inSecond : id ∈ second.ids) : first = second := by
  have disjoint := (List.nodup_flatMap.mp nodup_allIds).2
  by_contra different
  have symmetric : Std.Symm (Function.onFun List.Disjoint ids) :=
    ⟨fun _ _ apart _ inSecond inFirst => apart inFirst inSecond⟩
  exact disjoint.forall (mem_all first) (mem_all second) different inFirst inSecond

end Group

end Stack

end MapStyle
