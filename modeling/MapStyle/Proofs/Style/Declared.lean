import MapStyle.Number.Arithmetic
import MapStyle.Presets
import MapStyle.Proofs.Layer.Plan
import MapStyle.Proofs.Style.Group
import MapStyle.Style.Document

/-!
# Declared sources

The sources of a document and the sources that its layers draw from are found independently of one
another, from the same settings. They agree: a document declares exactly the sources of the
domains that are drawn, and no layer draws from a source that is not declared.
-/

namespace MapStyle

set_option autoImplicit false

open DrawStep (AllDraw allDraw_nil allDraw_cons allDraw_append allDraw_map allDraw_flatMap
  allDraw_ofDomain)

variable {F : Type}

/-- The sources of a style: those of the base map, those of the optional domains that are drawn,
and that of places if it has an address. -/
inductive Source.Declared (theme : Theme F) (urls : StyleUrls) : String → Prop where
  | base {name : String}
      (member : name ∈ ["world_labels", "world_low", "world_mid", "us_high", "poi_us"]) :
      Declared theme urls name
  | bathymetry (drawn : theme.enabled .bathymetry = true) : Declared theme urls "ne-bathy"
  | contours (drawn : theme.enabled .contours = true) : Declared theme urls "world-contours"
  | ice (drawn : theme.enabled .ice = true) : Declared theme urls "ne-ice"
  | grid (drawn : theme.enabled .grid = true) : Declared theme urls "world-grid"
  | hillshade (drawn : theme.enabled .hillshade = true) : Declared theme urls "world-hillshade"
  | aeroway (drawn : theme.enabled .aeroway = true) : Declared theme urls "aeroway-world"
  | places {address : String} (given : urls.places = some address) (notEmpty : address ≠ "")
      (drawn : theme.enabled .places = true) : Declared theme urls "places-source"

/-! ### Declared names -/

namespace StyleDocument

open Source (Declared)

variable {theme : Theme F} {urls : StyleUrls}

theorem mem_ofDomain {domain : Domain} {name found : String} {source : Json F} :
    found ∈ (Source.ofDomain theme domain name source).map Prod.fst ↔
      found = name ∧ theme.enabled domain = true := by
  unfold Source.ofDomain
  split
  · rename_i drawn
    simp [drawn]
  · rename_i notDrawn
    simp [notDrawn]

theorem ofDomain_sublist {domain : Domain} {name : String} {source : Json F} :
    ((Source.ofDomain theme domain name source).map Prod.fst).Sublist [name] := by
  unfold Source.ofDomain
  split <;> simp

theorem drawsPlaces_iff : drawsPlaces theme urls = true ↔
    (∃ address, urls.places = some address ∧ address ≠ "") ∧ theme.enabled .places = true := by
  unfold drawsPlaces StyleUrls.given?
  cases urls.places with
  | none => simp
  | some address => by_cases empty : address = "" <;> simp [empty]

theorem declared_iff {name : String} :
    name ∈ (sourcesOf theme urls).map Prod.fst ↔ Declared theme urls name := by
  have placesKeys : name ∈ ((if drawsPlaces theme urls then
      [(Population.sourceName, Source.places urls)] else [] : Source.Table F)).map Prod.fst ↔
      name = "places-source" ∧ drawsPlaces theme urls = true := by
    split
    · rename_i drawn
      simp [drawn, Population.sourceName]
    · rename_i notDrawn
      simp [notDrawn]
  simp only [sourcesOf, Source.basemap, Source.optional, List.map_append, List.mem_append,
    mem_ofDomain]
  rw [placesKeys, drawsPlaces_iff]
  constructor
  · rintro ((inGlobal | inBase | found) | ⟨rfl, ⟨address, given, notEmpty⟩, drawn⟩)
    · exact .base (List.mem_append_left _ inGlobal)
    · exact .base (List.mem_append_right ["world_labels"] inBase)
    · obtain (((((⟨rfl, drawn⟩ | ⟨rfl, drawn⟩) | ⟨rfl, drawn⟩) | ⟨rfl, drawn⟩) | ⟨rfl, drawn⟩) |
        ⟨rfl, drawn⟩) := found
      · exact .bathymetry drawn
      · exact .contours drawn
      · exact .ice drawn
      · exact .grid drawn
      · exact .hillshade drawn
      · exact .aeroway drawn
    · exact .places given notEmpty drawn
  · intro declared
    cases declared with
    | base member =>
        obtain rfl | inBase := List.mem_cons.mp member
        · exact .inl (.inl (by simp [Source.global]))
        · exact .inl (.inr (.inl inBase))
    | places given notEmpty drawn => exact .inr ⟨rfl, ⟨_, given, notEmpty⟩, drawn⟩
    | _ drawn => simp [drawn]

/-- All names that a document may declare, in the order in which it does. -/
def possibleNames : List String :=
  ["world_labels", "world_low", "world_mid", "us_high", "poi_us", "ne-bathy", "world-contours",
    "ne-ice", "world-grid", "world-hillshade", "aeroway-world", "places-source"]

theorem sources_sublist : ((sourcesOf theme urls).map Prod.fst).Sublist possibleNames := by
  have places : (((if drawsPlaces theme urls then
      [(Population.sourceName, Source.places urls)] else [] : Source.Table F)).map
        Prod.fst).Sublist ["places-source"] := by
    split <;> simp [Population.sourceName]
  simp only [sourcesOf, Source.basemap, Source.optional, List.map_append]
  exact ((List.Sublist.refl ["world_labels"]).append
    ((List.Sublist.refl ["world_low", "world_mid", "us_high", "poi_us"]).append
      (((((ofDomain_sublist.append ofDomain_sublist).append ofDomain_sublist).append
        ofDomain_sublist).append ofDomain_sublist).append ofDomain_sublist))).append places

theorem nodup_sources : ((sourcesOf theme urls).map Prod.fst).Nodup :=
  sources_sublist.nodup (by decide)

end StyleDocument

/-! ### Sources of layers -/

/-- A plan is a background or draws from a source that is there. -/
def LayerPlan.DrawsFrom (there : String → Prop) (plan : LayerPlan F) : Prop :=
  plan.kind ≠ .background → ∃ name, there name ∧ plan.source = some name

theorem LayerPlan.drawsFrom_of {there : String → Prop} {plan : LayerPlan F} {name : String}
    (isThere : there name) (source : plan.source = some name) : plan.DrawsFrom there :=
  fun _ => ⟨name, isThere, source⟩

namespace Source.Declared

variable {theme : Theme F} {urls : StyleUrls}

@[simp] theorem worldLabels : Declared theme urls "world_labels" :=
  .base (by decide)

@[simp] theorem worldLow : Declared theme urls "world_low" :=
  .base (by decide)

@[simp] theorem worldMid : Declared theme urls "world_mid" :=
  .base (by decide)

@[simp] theorem usHigh : Declared theme urls "us_high" :=
  .base (by decide)

@[simp] theorem poiUs : Declared theme urls "poi_us" :=
  .base (by decide)

end Source.Declared

open LayerPlan (DrawsFrom drawsFrom_of)
open Source (Declared)

theorem Layer.draws_of_build {there : String → Prop} {plan : LayerPlan F} {layer : Layer F}
    (draws : plan.DrawsFrom there) (built : plan.build = .ok layer) :
    layer.kind ≠ .background → ∃ name, there name ∧ layer.source = some name := by
  rw [LayerPlan.eq_layerWith_of_build built]
  exact draws

variable {theme : Theme F} {urls : StyleUrls}

namespace Stack

theorem boundaries_draw (wanted : Bool) (lines : List (Boundary.Line F))
    (isThere : ∀ line ∈ lines, Declared theme urls line.source) :
    AllDraw (DrawsFrom (Declared theme urls)) (Boundary.shown wanted lines) := by
  unfold Boundary.shown
  split
  · exact allDraw_map.mpr fun line member => drawsFrom_of (isThere line member) rfl
  · exact allDraw_nil

theorem casing_draws (id : String) (width : Result F (Expr F)) :
    AllDraw (DrawsFrom (Declared theme urls)) (Road.bridgeCasing theme id width) := by
  unfold Road.bridgeCasing
  split <;> simp [Road.Line.step, DrawsFrom]

variable [Arithmetic F]

theorem ground_draws : AllDraw (DrawsFrom (Declared theme urls)) (ground theme) := by
  have hillshade : AllDraw (DrawsFrom (Declared theme urls)) (Hillshade.steps theme) := by
    apply allDraw_ofDomain
    intro config given drawn
    have isThere : Declared theme urls "world-hillshade" :=
      .hillshade (by simp [Theme.enabled, given, drawn])
    simp [drawsFrom_of isThere, Hillshade.plan]
  simp [ground, hillshade, Ground.background, Ground.world, Ground.landcover, Ground.landuse,
    DrawsFrom]

theorem water_draws : AllDraw (DrawsFrom (Declared theme urls)) (water theme) := by
  have depth : AllDraw (DrawsFrom (Declared theme urls)) (Depth.steps theme) := by
    apply allDraw_ofDomain
    intro config given drawn
    have isThere : Declared theme urls "ne-bathy" :=
      .bathymetry (by simp [Theme.enabled, given, drawn])
    rw [Depth.draw, allDraw_append, allDraw_map]
    exact ⟨by simp, fun area _ => drawsFrom_of isThere rfl⟩
  have contours : AllDraw (DrawsFrom (Declared theme urls)) (Contour.steps theme) := by
    apply allDraw_ofDomain
    intro config given drawn
    have isThere : Declared theme urls "world-contours" :=
      .contours (by simp [Theme.enabled, given, drawn])
    unfold Contour.draw
    split
    · simp [Contour.Span.steps, drawsFrom_of isThere, Contour.Span.plan]
    · simp
  simp [water, depth, contours, Water.world, Water.regional, Water.area, Water.waterway, DrawsFrom]

theorem buildings_draw (id : String) (minZoom : Option (Number F)) :
    AllDraw (DrawsFrom (Declared theme urls)) (Building.stepsFrom theme id minZoom) := by
  unfold Building.stepsFrom
  simp only
  split
  · simp
  · split
    · simp [Building.plan, DrawsFrom]
    · split <;> simp [Building.plan, DrawsFrom]
    · simp

theorem surface_draws : AllDraw (DrawsFrom (Declared theme urls)) (surface theme) := by
  have ice : AllDraw (DrawsFrom (Declared theme urls)) (Ice.steps theme) := by
    apply allDraw_ofDomain
    intro config given drawn
    have isThere : Declared theme urls "ne-ice" := .ice (by simp [Theme.enabled, given, drawn])
    have edge : (Ice.edge config).DrawsFrom (Declared theme urls) := by
      unfold Ice.edge
      split <;> exact drawsFrom_of isThere rfl
    simp [Ice.draw, Ice.area, edge, drawsFrom_of isThere, Ice.plan]
  have grid : AllDraw (DrawsFrom (Declared theme urls)) (Graticule.steps theme) := by
    apply allDraw_ofDomain
    intro config given drawn
    have isThere : Declared theme urls "world-grid" := .grid (by simp [Theme.enabled, given, drawn])
    have axis (axis : Graticule.Axis) (line : Option (GridLine F)) (minZoom maxZoom : Number F) :
        AllDraw (DrawsFrom (Declared theme urls))
          (Graticule.axisSteps theme axis line minZoom maxZoom) := by
      unfold Graticule.axisSteps Graticule.labelSteps
      split
      · simp
      · split
        · simp
        · split <;> simp [drawsFrom_of isThere, Graticule.linePlan, Graticule.labelPlan]
    unfold Graticule.draw
    split
    · simp [axis]
    · split <;> simp
  simp [surface, ice, grid, casing_draws, Road.world, Road.regional, Road.Line.step, buildings_draw,
    Building.regional, Ground.regional, Ground.landcover, Ground.landuse, DrawsFrom]

theorem overlay_draws : AllDraw (DrawsFrom (Declared theme urls)) (overlay theme) := by
  have airports : AllDraw (DrawsFrom (Declared theme urls)) (Airport.steps theme) := by
    apply allDraw_ofDomain
    intro config given drawn
    have isThere : Declared theme urls "aeroway-world" :=
      .aeroway (by simp [Theme.enabled, given, drawn])
    simp [Airport.draw, Airport.label, Airport.longRunways, Airport.area, drawsFrom_of isThere]
  simp [overlay, airports, casing_draws, Road.overlay, Road.Line.step, buildings_draw,
    Building.overlay, DrawsFrom]

theorem icons_declared : ∀ icon ∈ PoiLabel.icons theme, Declared theme urls icon.source := by
  have ofSource (source : String) : ∀ icon ∈ PoiLabel.sourceIcons theme source,
      icon.source = source := by
    simp only [PoiLabel.sourceIcons, List.forall_mem_append]
    refine ⟨⟨⟨⟨⟨⟨⟨⟨⟨?_, ?_⟩, ?_⟩, ?_⟩, ?_⟩, ?_⟩, ?_⟩, ?_⟩, ?_⟩, ?_⟩ <;>
      refine PoiLabel.forall_mem_shown ?_ <;>
        simp [PoiLabel.plain, PoiLabel.asPlace, PoiLabel.ranked, PoiLabel.rail]
  simp only [PoiLabel.icons, List.forall_mem_append]
  refine ⟨⟨?_, ?_⟩, ?_⟩
  · intro icon member
    obtain ⟨source, sourceMember, inSource⟩ := List.mem_flatMap.mp member
    rw [ofSource source icon inSource]
    have isThere : ∀ name ∈ PoiLabel.sources, Declared theme urls name := by
      simp [PoiLabel.sources]
    exact isThere source sourceMember
  · apply PoiLabel.forall_mem_shown
    simp [PoiLabel.aerodromes]
  · apply PoiLabel.forall_mem_shown
    simp [PoiLabel.parkPoints]

theorem texts_draw : AllDraw (DrawsFrom (Declared theme urls)) (texts theme) := by
  have shields : AllDraw (DrawsFrom (Declared theme urls)) (Shield.steps theme) := by
    apply allDraw_ofDomain
    intro config _ _
    apply allDraw_flatMap
    intro kind _
    unfold Shield.kindSteps
    simp only
    split
    · simp
    · split <;> simp [Shield.plan, DrawsFrom]
  have waters (label : WaterLabel.Label F) (isThere : Declared theme urls label.source) :
      (label.step theme).Draws (DrawsFrom (Declared theme urls)) :=
    drawsFrom_of isThere rfl
  have settlements (label : Settlement.Label F) (isThere : Declared theme urls label.source) :
      (label.step theme).Draws (DrawsFrom (Declared theme urls)) :=
    drawsFrom_of isThere rfl
  have waterLabels : ∀ label ∈ (WaterLabel.globalLabels ++ (WaterLabel.coarseLabels ++
      WaterLabel.middleLabels ++ WaterLabel.regionalLabels) : List (WaterLabel.Label F)),
      Declared theme urls label.source := by
    simp [WaterLabel.globalLabels, WaterLabel.coarseLabels, WaterLabel.middleLabels,
      WaterLabel.regionalLabels]
  have settlementLabels : ∀ label ∈ Settlement.labels theme, Declared theme urls label.source := by
    simp [Settlement.labels, Settlement.continents, Settlement.countries, Settlement.country,
      Settlement.namedStates, Settlement.cities]
  have pois : AllDraw (DrawsFrom (Declared theme urls)) (PoiLabel.steps theme) := by
    rw [PoiLabel.steps, allDraw_map]
    exact fun icon member => drawsFrom_of (icons_declared icon member) rfl
  obtain ⟨globals, basemaps⟩ := List.forall_mem_append.mp waterLabels
  simp only [texts, allDraw_append]
  refine ⟨⟨⟨⟨⟨⟨?roads, shields⟩, ?global⟩, ?basemap⟩, ?waterways⟩, ?settlements⟩, pois⟩
  case roads => simp [RoadLabel.steps, RoadLabel.group, DrawsFrom]
  case global => exact allDraw_map.mpr fun label member => waters label (globals label member)
  case basemap => exact allDraw_map.mpr fun label member => waters label (basemaps label member)
  case waterways => simp [WaterLabel.waterways, WaterLabel.waterway, DrawsFrom]
  case settlements =>
    exact allDraw_map.mpr fun label member => settlements label (settlementLabels label member)

theorem steps_draw : AllDraw (DrawsFrom (Declared theme urls)) (steps theme) := by
  have world : AllDraw (DrawsFrom (Declared theme urls)) (Boundary.world theme) := by
    simp [Boundary.world, boundaries_draw]
  have regional : AllDraw (DrawsFrom (Declared theme urls)) (Boundary.regional theme) := by
    simp [Boundary.regional, boundaries_draw]
  exact forall_mem_steps ground_draws world regional water_draws surface_draws overlay_draws
    texts_draw

end Stack

/-! ### Documents -/

variable [Arithmetic F] {theme : Theme F} {urls : StyleUrls}

theorem Theme.mem_insertPlaces {base layers : List (Layer F)}
    (inserted : theme.insertPlaces base = .ok layers) :
    ∃ places, theme.placesLayers = .ok places ∧
      ∀ layer ∈ layers, layer ∈ base ∨ layer ∈ places := by
  obtain ⟨places, compiled, arranged⟩ := bind_eq_ok.mp inserted
  refine ⟨places, compiled, ?_⟩
  split at arranged
  · cases arranged
    simp
  · cases arranged
    intro layer member
    simp only [List.mem_append] at member
    obtain (below | inPlaces) | above := member
    · exact .inl (List.takeWhile_subset _ below)
    · exact .inr inPlaces
    · exact .inl (List.drop_subset _ _ above)

namespace StyleDocument

theorem layersOf_draw {layers : List (Layer F)} (found : layersOf theme urls = .ok layers) :
    ∀ layer ∈ layers, layer.kind ≠ .background →
      ∃ name, Declared theme urls name ∧ layer.source = some name := by
  obtain ⟨base, baseFound, arranged⟩ := bind_eq_ok.mp found
  have baseDraws : ∀ layer ∈ base, layer.kind ≠ .background →
      ∃ name, Declared theme urls name ∧ layer.source = some name :=
    DrawStep.forall_mem_compile Stack.steps_draw (fun _ _ => Layer.draws_of_build) baseFound
  split at arranged
  · rename_i drawn
    obtain ⟨⟨address, given, notEmpty⟩, enabled⟩ := drawsPlaces_iff.mp drawn
    have isThere : Declared theme urls Population.sourceName := .places given notEmpty enabled
    have populationDraws : AllDraw (DrawsFrom (Declared theme urls)) (Population.steps theme) := by
      apply allDraw_ofDomain
      intro config _ _
      simp [Population.draw, Population.fill, Population.outline, drawsFrom_of isThere]
    obtain ⟨places, placesFound, origin⟩ := Theme.mem_insertPlaces arranged
    have placesDraw : ∀ layer ∈ places, layer.kind ≠ .background →
        ∃ name, Declared theme urls name ∧ layer.source = some name :=
      DrawStep.forall_mem_compile populationDraws (fun _ _ => Layer.draws_of_build) placesFound
    intro layer member
    obtain inBase | inPlaces := origin layer member
    · exact baseDraws layer inBase
    · exact placesDraw layer inPlaces
  · cases arranged
    exact baseDraws

/-- The layers of a document and its sources are found independently of one another. -/
theorem compile_eq_ok {style : StyleDocument F} (compiled : compile theme urls = .ok style) :
    layersOf theme urls = .ok style.layers ∧
      checkIds (F := F) (style.layers.map Layer.id) = .ok () ∧
        style.sources = sourcesOf theme urls := by
  obtain ⟨layers, layersFound, checked⟩ := bind_eq_ok.mp compiled
  obtain ⟨_, idsChecked, built⟩ := bind_eq_ok.mp checked
  cases built
  exact ⟨layersFound, idsChecked, rfl⟩

/-- A document declares the sources of what is drawn, each once, and draws from no others. -/
theorem sources_declared {style : StyleDocument F} (compiled : compile theme urls = .ok style) :
    (∀ name, name ∈ style.sources.map Prod.fst ↔ Declared theme urls name) ∧
      (style.sources.map Prod.fst).Nodup ∧
      ∀ layer ∈ style.layers, layer.kind ≠ .background →
        ∃ name ∈ style.sources.map Prod.fst, layer.source = some name := by
  obtain ⟨layersFound, _, sources⟩ := compile_eq_ok compiled
  rw [sources]
  refine ⟨fun name => declared_iff, nodup_sources, ?_⟩
  intro layer member noBackground
  obtain ⟨name, declared, drawn⟩ := layersOf_draw layersFound layer member noBackground
  exact ⟨name, declared_iff.mpr declared, drawn⟩

/-- The parchment theme with areas of places instead of points of interest. -/
def parchmentWithPlaces : Theme Rat :=
  { Preset.parchment with pois := none, shields := none, places := some .standard }

def publishedWithPlaces : StyleUrls :=
  { StyleUrls.published with places := "pmtiles://https://data.storypath.studio/places.pmtiles" }

theorem parchment_sources_declared : ∃ style,
    compile parchmentWithPlaces publishedWithPlaces = .ok style ∧
      (∀ name, name ∈ style.sources.map Prod.fst ↔
        Declared parchmentWithPlaces publishedWithPlaces name) ∧
      (style.sources.map Prod.fst).Nodup ∧
      ∀ layer ∈ style.layers, layer.kind ≠ .background →
        ∃ name ∈ style.sources.map Prod.fst, layer.source = some name := by
  obtain ⟨style, compiled⟩ := exists_of_isOk
    (show (compile parchmentWithPlaces publishedWithPlaces).isOk = true by decide +kernel)
  exact ⟨style, compiled, sources_declared compiled⟩

end StyleDocument

end MapStyle
