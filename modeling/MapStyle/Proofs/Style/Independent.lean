import MapStyle.Presets
import MapStyle.Proofs.Style.Distinct
import MapStyle.Proofs.Style.Domain

/-!
# Domains that do not interfere

Two themes that differ in the settings of one optional domain have the same style but for what
belongs to the domain: its layers, its source, and the filters of land cover if the domain is ice.
-/

namespace MapStyle

set_option autoImplicit false

open Stack (Group)

variable {F : Type}

/-! ### Layers around places -/

section Lists

variable {α : Type} {keep wanted : α → Bool} {items : List α}

/-- Items that are wanted anyhow may be dropped before the first unwanted one is looked for. -/
theorem takeWhile_dropWhile_filter_of_wanted
    (dropped : ∀ item ∈ items, keep item = false → wanted item = true) :
    (items.filter keep).takeWhile wanted = (items.takeWhile wanted).filter keep ∧
      (items.filter keep).dropWhile wanted = (items.dropWhile wanted).filter keep := by
  induction items with
  | nil => exact ⟨rfl, rfl⟩
  | cons item rest ih =>
      obtain ⟨first, others⟩ := List.forall_mem_cons.mp dropped
      obtain ⟨taken, left⟩ := ih others
      cases kept : keep item with
      | true => cases isWanted : wanted item <;> simp [kept, isWanted, taken, left]
      -- An item that goes is wanted, so neither search stops at it.
      | false => simp [kept, first kept, taken, left]

end Lists

namespace Theme

theorem filter_arrange {keep : Layer F → Bool} {above : Bool} {places layers : List (Layer F)}
    (dropped : ∀ layer ∈ layers, keep layer = false → layer.isOf [.settlementLabels] = false) :
    (arrange above places layers).filter keep =
      arrange above (places.filter keep) (layers.filter keep) := by
  have noName : ∀ layer ∈ layers, keep layer = false →
      (!layer.isOf [.settlementLabels]) = true :=
    fun layer member isDropped => by simp [dropped layer member isDropped]
  unfold arrange
  split
  · exact List.filter_append _ _
  · obtain ⟨taken, left⟩ := takeWhile_dropWhile_filter_of_wanted noName
    simp only [List.filter_append, taken, left]

theorem arrange_nil (above : Bool) (layers : List (Layer F)) : arrange above [] layers = layers := by
  unfold arrange
  split
  · exact List.append_nil layers
  · simp

/-- A change of layers that leaves their ids alone does not move places. -/
theorem map_arrange {change : Layer F → Layer F} (sameId : ∀ layer, (change layer).id = layer.id)
    (above : Bool) (places layers : List (Layer F)) :
    (arrange above places layers).map change =
      arrange above (places.map change) (layers.map change) := by
  have sameNames : (fun layer => !Layer.isOf [.settlementLabels] (change layer)) =
      fun layer : Layer F => !layer.isOf [.settlementLabels] :=
    funext fun layer => by simp only [Layer.isOf, sameId]
  unfold arrange
  split
  · exact List.map_append
  · simp only [List.map_append, List.takeWhile_map, List.dropWhile_map, Function.comp_def,
      sameNames]

variable [Arithmetic F] {theme : Theme F}

/-- Without the layers of a domain there are those of the other groups. -/
theorem filter_outside (domain : Domain) (groups : List Group) :
    (theme.drawnBy groups).filter (fun layer => !layer.ofDomain theme domain) =
      theme.drawnBy (groups.filter fun group => group ≠ domain.group) := by
  refine filter_drawnBy (fun group layer drawn => ?_) groups
  rw [Bool.eq_iff_iff, Bool.not_eq_true', ← Bool.not_eq_true, Layer.ofDomain_iff drawn,
    decide_eq_true_iff]

theorem map_drawnBy_congr {change : Layer F → Layer F} {first second : Theme F}
    (groups : List Group) (each : ∀ group ∈ groups,
      (group.drawn first).map change = (group.drawn second).map change) :
    (first.drawnBy groups).map change = (second.drawnBy groups).map change := by
  rw [drawnBy, drawnBy, List.map_flatMap, List.map_flatMap]
  exact List.flatMap_congr each

end Theme

/-! ### Documents -/

namespace StyleDocument

variable [Arithmetic F] {theme first second : Theme F} {urls : StyleUrls} {domain : Domain}
  {style : StyleDocument F}

/-- What a document holds beside the layers and the source of a domain. -/
def outside (style : StyleDocument F) (theme : Theme F) (domain : Domain) : StyleDocument F :=
  { style with
    sources := style.sources.filter fun entry => domain.source? != some entry.1
    layers := style.layers.filter fun layer => !layer.ofDomain theme domain }

/-- A document without the filters of land cover. -/
def unfiltered (style : StyleDocument F) : StyleDocument F :=
  { style with layers := style.layers.map Layer.unfiltered }

/-- The document of a theme apart from its sources and layers. -/
def frame (theme : Theme F) (urls : StyleUrls) : StyleDocument F where
  name := theme.name
  description := theme.description
  projection := theme.settings.projection
  glyphs := urls.glyphs
  sprite := urls.sprite
  view := theme.resolveView
  sources := []
  layers := []

theorem outside_of_compile (compiled : compile theme urls = .ok style) :
    style.outside theme domain =
      { frame theme urls with
        sources := (sourcesOf theme urls).filter fun entry => domain.source? != some entry.1
        layers := style.layers.filter fun layer => !layer.ofDomain theme domain } := by
  obtain ⟨layers, _, checked⟩ := bind_eq_ok.mp compiled
  obtain ⟨_, _, built⟩ := bind_eq_ok.mp checked
  cases built
  rfl

theorem layersOf_eq {layers : List (Layer F)} (found : layersOf theme urls = .ok layers) :
    layers =
      if drawsPlaces theme urls then
        Theme.arrange (theme.places.any (·.renderAboveLabels)) (theme.drawnBy [.places])
          (theme.drawnBy (Group.order theme.resolveBoundary.hideOverWater))
      else theme.drawnBy (Group.order theme.resolveBoundary.hideOverWater) := by
  obtain ⟨base, baseCompiled, arranged⟩ := bind_eq_ok.mp found
  obtain ⟨_, rfl⟩ := Theme.layers_eq_ok.mp baseCompiled
  split at arranged
  · rename_i drawn
    rw [Theme.insertPlaces_eq_map] at arranged
    obtain ⟨places, placesCompiled, rfl⟩ := map_eq_ok.mp arranged
    obtain ⟨_, rfl⟩ := Theme.placesLayers_eq_ok.mp placesCompiled
    simp [drawn]
  · rename_i notDrawn
    cases arranged
    simp [notDrawn]

theorem exists_group_of_layersOf {layers : List (Layer F)}
    (found : layersOf theme urls = .ok layers) :
    ∀ layer ∈ layers, ∃ group : Group, layer ∈ group.drawn theme := by
  intro layer member
  have inGroups {groups : List Group} (drawn : layer ∈ theme.drawnBy groups) :
      ∃ group : Group, layer ∈ group.drawn theme := by
    obtain ⟨group, _, ofGroup⟩ := List.mem_flatMap.mp drawn
    exact ⟨group, ofGroup⟩
  rw [layersOf_eq found] at member
  split at member
  · obtain inBase | inPlaces := List.mem_append.mp ((Theme.arrange_perm _ _ _).mem_iff.mp member)
    · exact inGroups inBase
    · exact inGroups inPlaces
  · exact inGroups member

/-- The layers outside a domain, as they are arranged without those of the domain. -/
theorem outside_layers {layers : List (Layer F)} (found : layersOf theme urls = .ok layers) :
    layers.filter (fun layer => !layer.ofDomain theme domain) =
      let groups := (Group.order theme.resolveBoundary.hideOverWater).filter
        fun group => group ≠ domain.group
      if domain != .places && drawsPlaces theme urls then
        Theme.arrange (theme.places.any (·.renderAboveLabels)) (theme.drawnBy [.places])
          (theme.drawnBy groups)
      else theme.drawnBy groups := by
  have names : ∀ layer ∈ theme.drawnBy (Group.order theme.resolveBoundary.hideOverWater),
      (!layer.ofDomain theme domain) = false → layer.isOf [.settlementLabels] = false := by
    intro layer member dropped
    obtain ⟨group, _, drawn⟩ := List.mem_flatMap.mp member
    rw [Bool.not_eq_false', Layer.ofDomain_iff drawn] at dropped
    rw [← Bool.not_eq_true, Layer.isOf_iff drawn, dropped]
    cases domain <;> decide
  rw [layersOf_eq found]
  by_cases drawn : drawsPlaces theme urls = true
  · rw [if_pos drawn, Theme.filter_arrange names, Theme.filter_outside, Theme.filter_outside]
    by_cases own : domain = .places
    · subst own
      simp [Domain.group, Theme.arrange_nil]
    · simp [drawn, own, Domain.places_ne_group own]
  · simp [drawn, Theme.filter_outside]

/-- Outside a domain the layers of two themes agree as far as those of the single groups do. -/
theorem outside_layers_congr (change : Layer F → Layer F) {layers others : List (Layer F)}
    (sameId : ∀ layer, (change layer).id = layer.id)
    (same : first.without domain = second.without domain)
    (each : ∀ group, group ≠ domain.group →
      (group.drawn first).map change = (group.drawn second).map change)
    (found : layersOf first urls = .ok layers) (otherFound : layersOf second urls = .ok others) :
    (layers.filter fun layer => !layer.ofDomain first domain).map change =
      (others.filter fun layer => !layer.ofDomain second domain).map change := by
  have sameBoundary := Theme.congr_without Theme.resolveBoundary
    (fun theme => by cases domain <;> rfl) same
  have samePlaces := Theme.congr_without
    (fun theme => domain != .places && drawsPlaces theme urls)
    (fun theme => by cases domain <;> rfl) same
  have sameGroups (groups : List Group) := Theme.map_drawnBy_congr
    (groups.filter fun group => group ≠ domain.group)
    fun group member => each group (by simpa using (List.mem_filter.mp member).2)
  rw [outside_layers found, outside_layers otherFound]
  simp only [sameBoundary, samePlaces]
  split
  · rename_i drawn
    have notOwn : domain ≠ .places := bne_iff_ne.mp (Bool.and_eq_true_iff.mp drawn).1
    have sameAbove := Theme.congr_without
      (fun theme => theme.places.any (·.renderAboveLabels))
      (fun theme => by rw [theme.places_without notOwn]) same
    have sameAreas := Theme.map_drawnBy_congr [.places] fun group member => by
      obtain rfl := List.mem_singleton.mp member
      exact each .places (Domain.places_ne_group notOwn)
    rw [Theme.map_arrange sameId, Theme.map_arrange sameId, sameGroups, sameAreas, sameAbove]
  · exact sameGroups _

omit [Arithmetic F] in
/-- An optional source stays as it is, or goes. -/
theorem filter_ofDomain (keep : String → Bool) (theme : Theme F) (domain : Domain) (name : String)
    (source : Json F) :
    (Source.ofDomain theme domain name source).filter (fun entry => keep entry.1) =
      if keep name then Source.ofDomain theme domain name source else [] := by
  unfold Source.ofDomain
  split <;> simp [List.filter_cons]

omit [Arithmetic F] in
theorem optional_without (theme : Theme F) (urls : StyleUrls) (domain : Domain) :
    (Source.optional urls (theme.without domain)).filter
        (fun entry => domain.source? != some entry.1) =
      (Source.optional urls theme).filter fun entry => domain.source? != some entry.1 := by
  simp only [Source.optional, List.filter_append,
    filter_ofDomain fun name => domain.source? != some name]
  cases domain <;> rfl

omit [Arithmetic F] in
/-- The sources outside a domain do not depend on the domain. -/
theorem sources_without (theme : Theme F) (urls : StyleUrls) (domain : Domain) :
    (sourcesOf (theme.without domain) urls).filter (fun entry => domain.source? != some entry.1) =
      (sourcesOf theme urls).filter fun entry => domain.source? != some entry.1 := by
  simp only [sourcesOf, Source.basemap, List.filter_append, optional_without,
    List.append_cancel_left_eq]
  by_cases own : domain = .places
  · -- The source of places is left out, whether they are drawn or not.
    subst own
    have leftOut (drawn : Bool) (source : Json F) :
        (if drawn then [(Population.sourceName, source)] else []).filter
          (fun entry => Domain.source? .places != some entry.1) = [] := by
      cases drawn <;> simp [Domain.source?]
    rw [leftOut, leftOut]
  · have sameDrawn : drawsPlaces (theme.without domain) urls = drawsPlaces theme urls := by
      simp only [drawsPlaces, Theme.enabled, theme.places_without own]
    rw [sameDrawn]

/-- Two themes that differ in one optional domain only have the same document outside that domain,
but for the filters of land cover if the domain is ice; and these depend on nothing but whether ice
is drawn. A domain that is absent or switched off has no layers, not even one that some other theme
has for it. -/
theorem domains_do_not_interfere {one other : StyleDocument F}
    (same : first.without domain = second.without domain)
    (compiled : compile first urls = .ok one) (otherCompiled : compile second urls = .ok other) :
    ((domain = .ice → first.enabled .ice = second.enabled .ice) →
      one.outside first domain = other.outside second domain) ∧
    (one.outside first domain).unfiltered = (other.outside second domain).unfiltered ∧
    (first.enabled domain = false →
      ∀ layer ∈ one.layers, ∀ theme, layer.ofDomain theme domain = false) := by
  obtain ⟨layersFound, _, _⟩ := compile_eq_ok compiled
  obtain ⟨othersFound, _, _⟩ := compile_eq_ok otherCompiled
  have sameFrame := Theme.congr_without (frame · urls) (fun theme => by cases domain <;> rfl) same
  have sameSources := Theme.congr_without
    (fun theme => (sourcesOf theme urls).filter fun entry => domain.source? != some entry.1)
    (fun theme => sources_without theme urls domain) same
  rw [outside_of_compile compiled, outside_of_compile otherCompiled, sameFrame, sameSources]
  refine ⟨fun sameIce => ?_, ?_, fun off layer member theme => ?_⟩
  · have sameLayers := outside_layers_congr id (fun _ => rfl) same
      (fun group other => by rw [Group.drawn_eq same other sameIce]) layersFound othersFound
    rw [List.map_id, List.map_id] at sameLayers
    rw [sameLayers]
  · have sameLayers := outside_layers_congr Layer.unfiltered (fun _ => rfl) same
      (fun group other => Group.drawn_unfiltered_eq same other) layersFound othersFound
    simp only [unfiltered, sameLayers]
  · obtain ⟨group, drawn⟩ := exists_group_of_layersOf layersFound layer member
    rw [← Bool.not_eq_true]
    intro own
    obtain rfl := Layer.group_of_ofDomain drawn own
    simp [Group.drawn_of_disabled off] at drawn

/-- The monochrome theme without bands of depth is otherwise as it was. -/
theorem monochrome_without_depth : ∃ one other,
    compile ((Preset.monochrome : Theme Rat).without .bathymetry) .published = .ok one ∧
      compile Preset.monochrome .published = .ok other ∧
      one.outside (Preset.monochrome.without .bathymetry) .bathymetry =
        other.outside Preset.monochrome .bathymetry ∧
      ∀ layer ∈ one.layers, layer.ofDomain Preset.monochrome .bathymetry = false := by
  have succeeds {theme : Theme Rat} (drawn : (layersOf theme .published).isOk = true) :
      ∃ style, compile theme .published = .ok style :=
    succeeds_iff.mp (succeeds_compile_iff.mpr (succeeds_of_isOk drawn))
  obtain ⟨one, compiled⟩ := succeeds
    (show (layersOf (Preset.monochrome.without .bathymetry) _).isOk = true by decide +kernel)
  obtain ⟨other, otherCompiled⟩ := succeeds
    (show (layersOf Preset.monochrome _).isOk = true by decide +kernel)
  obtain ⟨sameOutside, _, none⟩ := domains_do_not_interfere
    (show ((Preset.monochrome : Theme Rat).without .bathymetry).without .bathymetry =
      Preset.monochrome.without .bathymetry from rfl) compiled otherCompiled
  exact ⟨one, other, compiled, otherCompiled, sameOutside (fun wrong => by cases wrong),
    fun layer member => none rfl layer member _⟩

end StyleDocument

end MapStyle
