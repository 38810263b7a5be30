import MapStyle.Proofs.Layer.CompleteTexts
import MapStyle.Proofs.Poi.Tier
import MapStyle.Proofs.Style.Distinct

/-!
# Icons and their layers

Every icon shows one category and starts with it, unless it belongs to one of the lower tiers of the
category, which start at zooms of their own. Each icon has one layer, and no two of these layers
share an id.
-/

namespace MapStyle.PoiLabel

set_option autoImplicit false

open DrawStep (compile)
open Stack (Group)

variable {F : Type} [Arithmetic F] {theme : Theme F} {category : PoiCategory} {source : String}

/-- The zoom at which a category starts that has no settings for it, where it has such a zoom. -/
def builtIn? : PoiCategory → Option (Number F)
  | .rail | .school => some rankedMinZoom
  | _ => none

/-- The zoom at which a category starts. -/
def start (theme : Theme F) : PoiCategory → Number F
  | .museum => museumMinZoom
  | category => theme.poiMinZoom category (builtIn? category)

/-- The id of a layer for the second or the last tier of a category. -/
def IsLowerTier (category : PoiCategory) (id : String) : Prop :=
  ∃ tier ∈ [Tier.second, .others], ∃ source ∈ sources, id = tierId category tier source

instance (category : PoiCategory) (id : String) : Decidable (IsLowerTier category id) :=
  inferInstanceAs (Decidable (∃ tier ∈ [Tier.second, .others], ∃ source ∈ sources, _ = _))

/-- What an icon of a category looks like and when it starts. -/
structure Icon.Shows (theme : Theme F) (icon : Icon F) (category : PoiCategory) : Prop where
  image : icon.layout.lookup "icon-image" = some (.ok (.text category.name))
  start : IsLowerTier category icon.id ∨ icon.minZoom = start theme category

/-! ### The icons of a source -/

section Source

variable (listed : source ∈ sources)

include listed

theorem shows_tier (tier : Tier) {icon : Icon F} (id : icon.id = tierId category tier source)
    (image : icon.layout.lookup "icon-image" = some (.ok (.text category.name)))
    (minZoom : icon.minZoom = tier.minZoom?.getD (start theme category)) :
    icon.Shows theme category := by
  refine ⟨image, ?_⟩
  cases tier with
  | first => exact .inr minZoom
  | second => exact .inl ⟨.second, by simp, source, listed, id⟩
  | others => exact .inl ⟨.others, by simp, source, listed, id⟩

theorem shows_ranked {condition : Tier → Expr F} :
    ∀ icon ∈ ranked theme category source (start theme category) condition,
      icon.Shows theme category :=
  List.forall_mem_map.mpr fun tier _ => shows_tier listed tier rfl rfl rfl

theorem shows_rail : ∀ icon ∈ rail theme source (start theme .rail), icon.Shows theme .rail :=
  List.forall_mem_map.mpr fun tier _ => shows_tier listed tier rfl rfl rfl

theorem shows_of_mem_sourceIcons :
    ∀ icon ∈ sourceIcons theme source, ∃ category, icon.Shows theme category := by
  have shown {category : PoiCategory} {icons : List (Icon F)}
      (each : ∀ icon ∈ icons, icon.Shows theme category) :
      ∀ icon ∈ shown theme category icons, ∃ category, icon.Shows theme category :=
    forall_mem_shown fun icon member => ⟨category, each icon member⟩
  simp only [sourceIcons, List.forall_mem_append]
  refine ⟨⟨⟨⟨⟨⟨⟨⟨⟨?airport, ?airfield⟩, ?airportPlace⟩, ?hospital⟩, ?museum⟩, ?zoo⟩, ?stadium⟩,
    ?park⟩, ?rail⟩, ?school⟩
  case hospital | museum | school => exact shown (shows_ranked listed)
  case rail => exact shown (shows_rail listed)
  case stadium =>
    exact shown (List.forall_mem_cons.mpr
      ⟨⟨rfl, .inr rfl⟩, List.forall_mem_singleton.mpr ⟨rfl, .inr rfl⟩⟩)
  all_goals exact shown (List.forall_mem_singleton.mpr ⟨rfl, .inr rfl⟩)

end Source

theorem exists_shows : ∀ icon ∈ icons theme, ∃ category, icon.Shows theme category := by
  simp only [icons, List.forall_mem_append]
  refine ⟨⟨?sources, ?aerodromes⟩, ?parkPoints⟩
  case sources =>
    intro icon member
    obtain ⟨source, listed, inSource⟩ := List.mem_flatMap.mp member
    exact shows_of_mem_sourceIcons listed icon inSource
  case aerodromes =>
    exact forall_mem_shown (List.forall_mem_singleton.mpr ⟨.airport, rfl, .inr rfl⟩)
  case parkPoints =>
    exact forall_mem_shown (List.forall_mem_singleton.mpr ⟨.park, rfl, .inr rfl⟩)

theorem Tier.mem_all (tier : Tier) : tier ∈ Tier.all := by
  cases tier <;> decide

/-- The icons of a category for one source, where it is split into tiers. -/
def tierIcons (theme : Theme F) (source : String) : PoiCategory → List (Icon F)
  | .hospital => ranked theme .hospital source (start theme .hospital) hospitalFilter
  | .museum => ranked theme .museum source (start theme .museum) museumFilter
  | .rail => rail theme source (start theme .rail)
  | .school => ranked theme .school source (start theme .school) schoolFilter
  | _ => []

theorem tierIcons_subset (enabled : theme.poiEnabled category = true) :
    tierIcons theme source category ⊆ sourceIcons theme source := by
  intro icon member
  simp only [sourceIcons, List.mem_append]
  cases category
  case hospital | museum | rail | school =>
    simp only [tierIcons, start, builtIn?] at member
    simp only [shown, enabled, if_true]
    tauto
  all_goals cases member

/-- The tiers of a category that is drawn have an icon for each source. -/
theorem exists_tierIcon (tiered : category ∈ PoiCategory.tiered)
    (enabled : theme.poiEnabled category = true) (listed : source ∈ sources) (tier : Tier) :
    ∃ icon ∈ icons theme, icon.id = tierId category tier source ∧
      icon.minZoom = tier.minZoom?.getD (start theme category) := by
  have ofSource {icon : Icon F} (member : icon ∈ tierIcons theme source category) :
      icon ∈ icons theme :=
    List.mem_append_left _ (List.mem_append_left _
      (List.mem_flatMap.mpr ⟨source, listed, tierIcons_subset enabled member⟩))
  cases category
  case hospital | museum | rail | school =>
    exact ⟨_, ofSource (List.mem_map_of_mem tier.mem_all), rfl, rfl⟩
  all_goals simp [PoiCategory.tiered] at tiered

/-! ### The layers of icons -/

variable {layers : List (Layer F)} {layer : Layer F}

/-- What a layer takes over from its icon. -/
structure Icon.DrawnAs (theme : Theme F) (icon : Icon F) (layer : Layer F) : Prop where
  id : layer.id = icon.id
  minZoom : layer.minZoom = some icon.minZoom
  layout : ∀ name value, icon.layout.lookup name = some (.ok value) →
    layer.layout.lookup name = some value
  haloWidth : layer.paint.lookup "text-halo-width" = some (.number (haloWidth theme))

theorem Icon.drawnAs_of_build {icon : Icon F} {plan : LayerPlan F}
    (drawn : icon.step theme = .draw plan) (built : plan.build = .ok layer) :
    icon.DrawnAs theme layer := by
  cases drawn
  refine ⟨LayerPlan.id_of_build built, LayerPlan.minZoom_of_build built, ?layout, ?haloWidth⟩
  case layout =>
    intro name value listed
    obtain ⟨found, same, isFound⟩ := (LayerPlan.lookup_of_build built).1 listed
    cases same
    exact isFound
  case haloWidth =>
    have listed : (paint theme icon.iconOpacity).lookup "text-halo-width" =
      some (.ok (.number (haloWidth theme))) := rfl
    obtain ⟨found, same, isFound⟩ := (LayerPlan.lookup_of_build built).2 listed
    cases same
    exact isFound

theorem exists_icon (compiled : compile (steps theme) = .ok layers) (member : layer ∈ layers) :
    ∃ icon ∈ icons theme, icon.DrawnAs theme layer := by
  obtain ⟨plan, planMember, built⟩ := DrawStep.mem_compile compiled member
  obtain ⟨icon, iconMember, drawn⟩ := List.mem_map.mp planMember
  exact ⟨icon, iconMember, Icon.drawnAs_of_build drawn built⟩

theorem exists_layer (compiled : compile (steps theme) = .ok layers) {icon : Icon F}
    (member : icon ∈ icons theme) : ∃ layer ∈ layers, icon.DrawnAs theme layer := by
  obtain ⟨layer, layerMember, built⟩ :=
    DrawStep.exists_layer_of_compile compiled (List.mem_map_of_mem member)
  exact ⟨layer, layerMember, Icon.drawnAs_of_build rfl built⟩

theorem nodup_ids (compiled : compile (steps theme) = .ok layers) :
    (layers.map Layer.id).Nodup := by
  have drawn : Group.poiLabels.drawn theme = layers := Group.drawn_of_compile compiled
  have part := Group.ids_drawn_sublist theme .poiLabels
  have each := (List.nodup_flatMap.mp Group.nodup_allIds).1
  rw [drawn] at part
  exact part.nodup (each .poiLabels (Group.mem_all .poiLabels))

end MapStyle.PoiLabel
