import MapStyle.Proofs.Style.Arranged

/-!
# Optional domains

Each optional domain has one group of layers of its own. No other group reads the settings of the
domain, except that the filters of land cover ask whether ice is drawn.
-/

namespace MapStyle

set_option autoImplicit false

open Stack (Group)

variable {F : Type}

/-- The group of layers that draws a domain. -/
def Domain.group : Domain → Group
  | .shields => .shields
  | .pois => .poiLabels
  | .bathymetry => .depth
  | .contours => .contours
  | .ice => .ice
  | .hillshade => .hillshade
  | .grid => .graticule
  | .aeroway => .airports
  | .places => .places

theorem Domain.places_ne_group {domain : Domain} (other : domain ≠ .places) :
    Group.places ≠ domain.group := by
  cases domain with
  | places => exact absurd rfl other
  | _ => decide

namespace Theme

/-- A theme with one domain left open. -/
def without (theme : Theme F) : Domain → Theme F
  | .shields => { theme with shields := none }
  | .pois => { theme with pois := none }
  | .bathymetry => { theme with bathymetry := none }
  | .contours => { theme with contours := none }
  | .ice => { theme with ice := none }
  | .hillshade => { theme with hillshade := none }
  | .grid => { theme with grid := none }
  | .aeroway => { theme with aeroway := none }
  | .places => { theme with places := none }

/-- A theme with all domains left open but one. -/
def keeping (theme : Theme F) (kept : Option Domain) : Theme F :=
  { theme with
    shields := if kept = some .shields then theme.shields else none
    pois := if kept = some .pois then theme.pois else none
    bathymetry := if kept = some .bathymetry then theme.bathymetry else none
    contours := if kept = some .contours then theme.contours else none
    ice := if kept = some .ice then theme.ice else none
    hillshade := if kept = some .hillshade then theme.hillshade else none
    grid := if kept = some .grid then theme.grid else none
    aeroway := if kept = some .aeroway then theme.aeroway else none
    places := if kept = some .places then theme.places else none }

theorem keeping_without {kept : Option Domain} {domain : Domain} (other : kept ≠ some domain)
    (theme : Theme F) : (theme.without domain).keeping kept = theme.keeping kept := by
  cases domain <;> simp [keeping, without, other]

theorem places_without {domain : Domain} (other : domain ≠ .places) (theme : Theme F) :
    (theme.without domain).places = theme.places := by
  cases domain with
  | places => exact absurd rfl other
  | _ => rfl

/-- What does not depend on a domain is the same for themes that differ in it only. -/
theorem congr_without {α : Type} {first second : Theme F} {domain : Domain} (read : Theme F → α)
    (independent : ∀ theme, read (theme.without domain) = read theme)
    (same : first.without domain = second.without domain) : read first = read second := by
  rw [← independent first, same, independent second]

end Theme

/-! ### What a group reads -/

namespace Stack.Group

/-- The domain whose settings a group reads. -/
def reads : Group → Option Domain
  | .hillshade => some .hillshade
  | .worldLand => some .ice
  | .depth => some .bathymetry
  | .contours => some .contours
  | .ice => some .ice
  | .graticule => some .grid
  | .regionalLand => some .ice
  | .airports => some .aeroway
  | .shields => some .shields
  | .poiLabels => some .pois
  | .places => some .places
  | _ => none

variable [Arithmetic F]

/-- Settings of other domains may be left open: no step of the group looks at them. -/
theorem steps_keeping (theme : Theme F) (group : Group) :
    group.steps (theme.keeping group.reads) = group.steps theme := by
  cases group <;> rfl

variable {first second : Theme F} {domain : Domain} {group : Group}

theorem steps_congr (same : first.without domain = second.without domain)
    (other : group.reads ≠ some domain) : group.steps first = group.steps second := by
  refine Theme.congr_without (steps · group) (fun theme => ?_) same
  rw [← steps_keeping theme, ← steps_keeping, Theme.keeping_without other]

end Stack.Group

/-! ### Land and ice -/

/-- A layer as it is, but without the filter of land cover. -/
def Layer.unfiltered (layer : Layer F) : Layer F :=
  { layer with filter := if layer.sourceLayer = some "landcover" then none else layer.filter }

def LayerPlan.unfiltered (plan : LayerPlan F) : LayerPlan F :=
  { plan with filter := if plan.sourceLayer = some "landcover" then none else plan.filter }

theorem LayerPlan.build_unfiltered (plan : LayerPlan F) :
    plan.unfiltered.build = plan.build.map Layer.unfiltered := by
  simp only [build, unfiltered]
  cases plan.layout.mapM Property.value with
  | error fault => rfl
  | ok layout =>
      cases plan.paint.mapM Property.value with
      | error fault => rfl
      | ok paint =>
          -- The check of a layer does not look at its filter.
          have checked : (plan.unfiltered.layerWith layout paint).check =
              (plan.layerWith layout paint).check := rfl
          simp only [unfiltered] at checked
          simp only [bind, Except.bind, checked]
          cases (plan.layerWith layout paint).check <;> rfl

namespace DrawStep

def unfiltered : DrawStep F → DrawStep F
  | .check outcome => .check outcome
  | .draw plan => .draw plan.unfiltered

theorem compile_map_unfiltered (steps : List (DrawStep F)) :
    compile (steps.map unfiltered) = (compile steps).map (List.map Layer.unfiltered) := by
  induction steps with
  | nil => rfl
  | cons step rest ih =>
      cases step with
      | check outcome =>
          simp only [List.map_cons, unfiltered, compile, ih]
          cases outcome <;> rfl
      | draw plan =>
          simp only [List.map_cons, unfiltered, compile, ih, LayerPlan.build_unfiltered]
          cases plan.build with
          | error fault => rfl
          | ok layer => cases compile rest <;> rfl

end DrawStep

namespace Stack.Group

variable [Arithmetic F] {first second : Theme F} {group : Group}

def IsLand (group : Group) : Prop :=
  group = .worldLand ∨ group = .regionalLand

theorem drawn_unfiltered (theme : Theme F) (group : Group) :
    (group.drawn theme).map Layer.unfiltered =
      match DrawStep.compile ((group.steps theme).map DrawStep.unfiltered) with
      | .ok layers => layers
      | .error _ => [] := by
  rw [DrawStep.compile_map_unfiltered, drawn]
  cases DrawStep.compile (group.steps theme) <;> rfl

theorem land_steps_unfiltered (theme : Theme F) (isLand : group.IsLand) :
    (group.steps (theme.without .ice)).map DrawStep.unfiltered =
      (group.steps theme).map DrawStep.unfiltered := by
  obtain rfl | rfl := isLand <;> rfl

/-- Land reads no more of ice than whether it is drawn. -/
theorem land_steps_congr (same : first.without .ice = second.without .ice)
    (isLand : group.IsLand)
    (sameIce : first.enabled .ice = second.enabled .ice) :
    group.steps first = group.steps second := by
  have filter : Ground.landcoverFilter first = Ground.landcoverFilter second := by
    simp only [Ground.landcoverFilter, sameIce]
  have cover (id source : String) (minZoom maxZoom : Option (Number F)) :
      Ground.landcover first id source minZoom maxZoom =
        Ground.landcover second id source minZoom maxZoom := by
    have fill := Theme.congr_without Theme.landcoverFill (fun _ => rfl) same
    have land := Theme.congr_without Theme.resolveLand (fun _ => rfl) same
    have opacities := Theme.congr_without Theme.opacities (fun _ => rfl) same
    simp only [Ground.landcover, filter, fill, land, opacities]
  have use (id source : String) (minZoom maxZoom : Option (Number F)) :
      Ground.landuse first id source minZoom maxZoom =
        Ground.landuse second id source minZoom maxZoom :=
    Theme.congr_without (fun theme => Ground.landuse theme id source minZoom maxZoom)
      (fun _ => rfl) same
  obtain rfl | rfl := isLand
  · simp only [steps, Ground.world, cover, use]
  · simp only [steps, Ground.regional, cover, use]

theorem reads_eq_some {domain : Domain} (isRead : group.reads = some domain) :
    group = domain.group ∨ domain = .ice ∧ group.IsLand := by
  cases group with
  | worldLand => exact .inr ⟨(Option.some.inj isRead).symm, .inl rfl⟩
  | regionalLand => exact .inr ⟨(Option.some.inj isRead).symm, .inr rfl⟩
  | _ =>
      -- Every other group reads the domain that it draws, or none.
      cases isRead <;> exact .inl rfl

/-- A group of another domain draws the same layers, as long as land and ice agree. -/
theorem drawn_eq {domain : Domain} (same : first.without domain = second.without domain)
    (other : group ≠ domain.group)
    (sameIce : domain = .ice → first.enabled .ice = second.enabled .ice) :
    group.drawn first = group.drawn second := by
  by_cases isRead : group.reads = some domain
  · obtain own | ⟨rfl, isLand⟩ := reads_eq_some isRead
    · exact absurd own other
    · exact drawn_congr (land_steps_congr same isLand (sameIce rfl))
  · exact drawn_congr (steps_congr same isRead)

theorem drawn_unfiltered_eq {domain : Domain} (same : first.without domain = second.without domain)
    (other : group ≠ domain.group) :
    (group.drawn first).map Layer.unfiltered = (group.drawn second).map Layer.unfiltered := by
  by_cases isRead : group.reads = some domain
  · obtain own | ⟨rfl, isLand⟩ := reads_eq_some isRead
    · exact absurd own other
    · have steps := Theme.congr_without
        (fun theme => (group.steps theme).map DrawStep.unfiltered)
        (fun theme => land_steps_unfiltered theme isLand) same
      rw [drawn_unfiltered, drawn_unfiltered, steps]
  · rw [drawn_congr (steps_congr same isRead)]

end Stack.Group

/-! ### The layers of a domain -/

/-- The source that is there only for a domain. -/
def Domain.source? : Domain → Option String
  | .shields => none
  | .pois => none
  | .bathymetry => some "ne-bathy"
  | .contours => some "world-contours"
  | .ice => some "ne-ice"
  | .hillshade => some "world-hillshade"
  | .grid => some "world-grid"
  | .aeroway => some "aeroway-world"
  | .places => some Population.sourceName

/-- The source of a domain is that of its group and of no other one. -/
theorem Domain.source_iff {domain : Domain} (named : domain.source?.isSome = true) {group : Group}
    {heading : Heading} (possible : heading ∈ group.possible) :
    heading.source = domain.source? ↔ group = domain.group := by
  have checked : (Domain.all.all fun domain => domain.source?.isNone ||
      Group.all.all fun group => group.possible.all fun heading =>
        decide (heading.source = domain.source?) == decide (group = domain.group)) = true := by
    decide +kernel
  simp only [List.all_eq_true, Bool.or_eq_true, beq_iff_eq] at checked
  obtain none | sourceOf := checked domain (by cases domain <;> decide)
  · simp [Option.isNone_iff_eq_none.mp none] at named
  · simpa using sourceOf group (Group.mem_all group) heading possible

variable [Arithmetic F] {theme : Theme F} {domain : Domain} {layer : Layer F}

/-- Whether a layer is one of a domain: a shield, an icon that the theme wants for a point of
interest, or a layer that draws from the source of the domain. -/
def Layer.ofDomain (theme : Theme F) (domain : Domain) (layer : Layer F) : Bool :=
  match domain with
  | .shields => (ShieldKind.all.map Shield.layerId).contains layer.id
  | .pois => ((PoiLabel.icons theme).map PoiLabel.Icon.id).contains layer.id
  | _ => layer.source == domain.source?

theorem Stack.Group.iconIds_eq (theme : Theme F) :
    (PoiLabel.icons theme).map PoiLabel.Icon.id =
      (DrawStep.headings (PoiLabel.steps theme)).map Heading.id := by
  rw [headings_poiLabels, List.map_map]
  rfl

/-- What any theme takes for a layer of a domain was drawn by the group of the domain. -/
theorem Layer.group_of_ofDomain {group : Group} (drawn : layer ∈ group.drawn theme)
    {other : Theme F} (own : layer.ofDomain other domain = true) : group = domain.group := by
  have possible := Group.heading_mem_of_drawn drawn
  have byId (inGroup : layer.id ∈ domain.group.ids) : group = domain.group :=
    (Group.id_mem_iff_of_drawn drawn).mp inGroup
  cases domain with
  | shields => exact byId (List.contains_iff_mem.mp own)
  | pois =>
      have isIcon := List.contains_iff_mem.mp own
      rw [Group.iconIds_eq] at isIcon
      exact byId (((Group.poiLabels_sublist other).map Heading.id).subset isIcon)
  | _ => exact (Domain.source_iff rfl possible).mp (beq_iff_eq.mp own)

theorem Layer.ofDomain_of_drawn (drawn : layer ∈ domain.group.drawn theme) :
    layer.ofDomain theme domain = true := by
  have possible := Group.heading_mem_of_drawn drawn
  cases domain with
  | shields => exact List.contains_iff_mem.mpr (Group.id_mem_of_drawn drawn)
  | pois =>
      have inHeadings := (Group.headings_drawn_sublist theme .poiLabels).subset
        (List.mem_map_of_mem drawn)
      have isIcon := List.mem_map_of_mem (f := Heading.id) inHeadings
      exact List.contains_iff_mem.mpr ((Group.iconIds_eq theme).symm ▸ isIcon)
  | _ => exact beq_iff_eq.mpr ((Domain.source_iff rfl possible).mpr rfl)

theorem Layer.ofDomain_iff {group : Group} (drawn : layer ∈ group.drawn theme) :
    layer.ofDomain theme domain = true ↔ group = domain.group := by
  constructor
  · exact group_of_ofDomain drawn
  · rintro rfl
    exact ofDomain_of_drawn drawn

theorem Stack.Group.steps_of_disabled (off : theme.enabled domain = false) :
    domain.group.steps theme = [] := by
  cases domain with
  | pois =>
      have hidden (category : PoiCategory) (icons : List (PoiLabel.Icon F)) :
          PoiLabel.shown theme category icons = [] := by
        simp [PoiLabel.shown, Theme.poiEnabled, off]
      simp [Domain.group, steps, PoiLabel.steps, PoiLabel.icons, PoiLabel.sourceIcons, hidden]
  | _ => exact DrawStep.ofDomain_of_disabled off

/-- A domain that is absent or switched off draws nothing. -/
theorem Stack.Group.drawn_of_disabled (off : theme.enabled domain = false) :
    domain.group.drawn theme = [] := by
  rw [drawn, steps_of_disabled off]
  rfl

end MapStyle
