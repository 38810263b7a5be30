import Mathlib.Tactic.NormNum
import MapStyle.Number.Arithmetic
import MapStyle.Proofs.Expr.Total
import MapStyle.Proofs.Layer.Complete
import MapStyle.Proofs.Style.Group

/-!
# Texts and icons that can always be drawn

The sizes of all texts but those of highway shields are curves through fixed zooms. Where all zooms
are integers they grow in every arithmetic; where some are not, the exact arithmetic tells that they
grow. So every label of a road, a water or a settlement and every icon can be drawn.
-/

namespace MapStyle

set_option autoImplicit false

open DrawStep (AllSucceed allSucceed_nil allSucceed_cons allSucceed_append allSucceed_map
  succeeds_draw)
open Number (Ascend)
open Property (AllHaveValues allHaveValues_override)

/-! ### Roads -/

namespace RoadLabel

variable {F : Type} [Arithmetic F] {theme : Theme F}

theorem succeeds_group {id : String} {minZoom : Number F} {classFilter : Expr F}
    {tone : RoadLabelTone F} {sizes : List (Expr F × Expr F)} (idGiven : id.isEmpty = false)
    (size : Succeeds (Expr.linear Expr.zoom sizes)) :
    Succeeds (group theme id minZoom classFilter tone sizes).outcome :=
  succeeds_draw ⟨idGiven, by simp, by simp [size], by simp⟩

theorem succeeds_steps : AllSucceed (steps theme) := by
  simp only [steps, allSucceed_cons, allSucceed_nil, and_true]
  refine ⟨succeeds_group ?_ ?_, succeeds_group ?_ ?_, succeeds_group ?_ ?_, succeeds_group ?_ ?_⟩
  all_goals first
    | decide
    | exact succeeds_of_isOk rfl

end RoadLabel

/-! ### Settlements -/

namespace Settlement

variable {theme : Theme Rat}

/-- A label that has an id, a source and a size. -/
structure CompleteLabel (label : Label Rat) : Prop where
  id : label.id.isEmpty = false
  source : label.source.isEmpty = false
  size : Succeeds label.size
  extra : AllHaveValues label.extra

theorem CompleteLabel.step {label : Label Rat} (complete : CompleteLabel label) :
    Succeeds (label.step theme).outcome := by
  refine succeeds_draw ⟨complete.id, by simpa using complete.source, ?_, by simp⟩
  simp [complete.size, complete.extra]

theorem complete_country {id source : String} {sizes : List (Expr Rat × Expr Rat)}
    {filter : Expr Rat} {minZoom : Number Rat} {maxZoom : Option (Number Rat)}
    (idGiven : id.isEmpty = false) (sourceGiven : source.isEmpty = false)
    (size : Succeeds (Expr.linear Expr.zoom sizes)) :
    CompleteLabel (country theme id source sizes filter minZoom maxZoom) :=
  ⟨idGiven, sourceGiven, size, Property.allHaveValues_nil⟩

theorem complete_continents : CompleteLabel (continents theme) := by
  have size : Succeeds
      (Expr.linear Expr.zoom [(0, 12), (continentMaxZoom, 16)] : Result Rat (Expr Rat)) :=
    Expr.succeeds_linear [0, 2.5] rfl (by simp) (by norm_num [Ascend])
  exact ⟨by simp [continents], by simp [continents], size, by simp [continents]⟩

theorem complete_countries : ∀ label ∈ countries theme, CompleteLabel label := by
  have coarse : Succeeds
      (Expr.linear Expr.zoom [(2.5, 10), (3, 12), (6, 16)] : Result Rat (Expr Rat)) :=
    Expr.succeeds_linear [2.5, 3, 6] rfl (by simp) (by norm_num [Ascend])
  have middle : Succeeds (Expr.linear Expr.zoom [(6, 16), (10, 20)] : Result Rat (Expr Rat)) :=
    Expr.succeeds_linear [6, 10] rfl (by simp) (by norm_num [Ascend])
  have regional : Succeeds
      (Expr.linear Expr.zoom [(2, 12), (6, 18), (10, 24)] : Result Rat (Expr Rat)) :=
    Expr.succeeds_linear [2, 6, 10] rfl (by simp) (by norm_num [Ascend])
  simp only [countries, List.forall_mem_cons]
  exact ⟨complete_country (by simp) (by simp) coarse, complete_country (by simp) (by simp) middle,
    complete_country (by simp) (by simp) regional, by simp⟩

theorem complete_namedStates : ∀ label ∈ (namedStates : List (Label Rat)), CompleteLabel label := by
  have coarse : Succeeds (Expr.linear Expr.zoom [(3.33, 8), (6, 12)] : Result Rat (Expr Rat)) :=
    Expr.succeeds_linear [3.33, 6] rfl (by simp) (by norm_num [Ascend])
  have regional : Succeeds
      (Expr.linear Expr.zoom [(4, 8), (8, 16), (12, 18)] : Result Rat (Expr Rat)) :=
    Expr.succeeds_linear [4, 8, 12] rfl (by simp) (by norm_num [Ascend])
  simp only [namedStates, List.forall_mem_cons]
  exact ⟨⟨by simp, by simp, coarse, by simp⟩, ⟨by simp, by simp, regional, by simp⟩, by simp⟩

theorem complete_cities : ∀ label ∈ cities theme, CompleteLabel label := by
  have topWorld : Succeeds
      (capitalSize [(1, 10.8, 9), (3, 14.4, 12), (6, 16.8, 14)] : Result Rat (Expr Rat)) :=
    Expr.succeeds_linear [1, 3, 6] rfl (by simp) (by norm_num [Ascend])
  have topRegional : Succeeds
      (capitalSize [(4, 15, 12), (8, 25, 20), (12, 32, 26)] : Result Rat (Expr Rat)) :=
    Expr.succeeds_linear [4, 8, 12] rfl (by simp) (by norm_num [Ascend])
  have all : Succeeds (size : Result Rat (Expr Rat)) := succeeds_of_isOk (by decide +kernel)
  simp only [cities, List.forall_mem_cons]
  exact ⟨⟨by simp, by simp, topWorld, by simp⟩, ⟨by simp, by simp, topRegional, by simp⟩,
    ⟨by simp, by simp, all, by simp⟩, by simp⟩

theorem succeeds_steps : AllSucceed (steps theme) := by
  rw [steps, labels, allSucceed_map]
  simp only [List.forall_mem_cons, List.forall_mem_append]
  refine ⟨complete_continents.step, ⟨?_, ?_⟩, ?_⟩
  · exact fun label member => (complete_countries label member).step
  · exact fun label member => (complete_namedStates label member).step
  · exact fun label member => (complete_cities label member).step

end Settlement

/-! ### Waters -/

namespace WaterLabel

section Global

variable {F : Type} [Arithmetic F] {label : Label F}

/-- A label that has an id, a source and a size. -/
def CompleteLabel (label : Label F) : Prop :=
  label.id.isEmpty = false ∧ label.source.isEmpty = false ∧ label.size.isOk = true

instance : Decidable (CompleteLabel label) :=
  inferInstanceAs (Decidable (_ ∧ _ ∧ _))

theorem CompleteLabel.step {theme : Theme F} (complete : CompleteLabel label) :
    Succeeds (label.step theme).outcome := by
  obtain ⟨idGiven, sourceGiven, sized⟩ := complete
  have size : Succeeds label.size := succeeds_of_isOk sized
  exact succeeds_draw ⟨idGiven, by simpa using sourceGiven, by simp [size], by simp [paint]⟩

theorem complete_globalLabels :
    ∀ label ∈ (globalLabels : List (Label F)), CompleteLabel label := by
  simp only [globalLabels, List.forall_mem_cons]
  exact ⟨⟨rfl, rfl, rfl⟩, ⟨rfl, rfl, rfl⟩, ⟨rfl, rfl, rfl⟩, ⟨rfl, rfl, rfl⟩, by simp⟩

theorem succeeds_global {theme : Theme F} : AllSucceed (global theme) :=
  allSucceed_map.mpr fun label member => (complete_globalLabels label member).step

end Global

variable {theme : Theme Rat}

theorem complete_basemapLabels :
    ∀ label ∈ (coarseLabels ++ middleLabels ++ regionalLabels : List (Label Rat)),
      CompleteLabel label := by
  decide +kernel

theorem succeeds_basemap : AllSucceed (basemap theme) :=
  allSucceed_map.mpr fun label member => (complete_basemapLabels label member).step

theorem succeeds_waterway {id source : String} {size : Result Rat (Expr Rat)} {minZoom : Number Rat}
    {maxZoom : Option (Number Rat)} (idGiven : id.isEmpty = false)
    (sourceGiven : source.isEmpty = false) (found : Succeeds size) :
    Succeeds (waterway theme id source size minZoom maxZoom).outcome :=
  succeeds_draw ⟨idGiven, by simpa using sourceGiven, by simp [found], by simp [paint]⟩

theorem succeeds_waterways : AllSucceed (waterways theme) := by
  simp only [waterways, allSucceed_cons, allSucceed_nil, and_true]
  refine ⟨succeeds_waterway ?_ ?_ ?_, succeeds_waterway ?_ ?_ ?_, succeeds_waterway ?_ ?_ ?_⟩
  all_goals first
    | decide
    | exact succeeds_of_isOk (by decide +kernel)

end WaterLabel

/-! ### Points of interest -/

namespace PoiLabel

/-- The curves of the texts of stations go through zooms that are no integers. -/
def RailSized (F : Type) [Arithmetic F] : Prop :=
  ∀ tier, Succeeds (Expr.linear Expr.zoom (railTextSizes tier : List (Expr F × Expr F)))

theorem railSized_rat : RailSized Rat := by
  intro tier
  cases tier with
  | first => exact Expr.succeeds_linear [12, 14, 16] rfl (by simp) (by norm_num [Ascend])
  | second => exact Expr.succeeds_linear [14.5, 15, 16] rfl (by simp) (by norm_num [Ascend])
  | others => exact Expr.succeeds_linear [15, 16] rfl (by simp) (by norm_num [Ascend])

variable {F : Type} [Arithmetic F] {theme : Theme F}

theorem allHaveValues_layout {icon : String} {iconSize : Expr F}
    {textSizes : List (Expr F × Expr F)} (size : Succeeds (Expr.linear Expr.zoom textSizes)) :
    AllHaveValues (layout theme icon iconSize textSizes) := by
  simp [layout, size]

theorem succeeds_standardTextSizes :
    Succeeds (Expr.linear Expr.zoom (standardTextSizes : List (Expr F × Expr F))) :=
  succeeds_of_isOk rfl

/-- An icon that has an id, a source and a layout. -/
structure CompleteIcon (icon : Icon F) : Prop where
  id : icon.id.isEmpty = false
  source : icon.source.isEmpty = false
  layout : AllHaveValues icon.layout

theorem CompleteIcon.step {icon : Icon F} (complete : CompleteIcon icon) :
    Succeeds (icon.step theme).outcome :=
  succeeds_draw ⟨complete.id, by simpa using complete.source, complete.layout, by simp [paint]⟩

variable {category : PoiCategory} {source : String} {condition : Expr F}

theorem allHaveValues_plainLayout : AllHaveValues (plainLayout theme category) :=
  allHaveValues_layout succeeds_standardTextSizes

omit [Arithmetic F] in
theorem allHaveValues_alwaysShown : AllHaveValues (alwaysShown : List (Property F)) := by
  simp [alwaysShown]

theorem allHaveValues_stadiumLayout : AllHaveValues (stadiumLayout theme) :=
  allHaveValues_override allHaveValues_plainLayout allHaveValues_alwaysShown

section Source

variable (sourceGiven : source.isEmpty = false)

include sourceGiven

theorem complete_plain : CompleteIcon (plain theme category source condition) :=
  ⟨by simp [plain], sourceGiven, allHaveValues_plainLayout⟩

theorem complete_asPlace {values : List String} :
    CompleteIcon (asPlace theme category source values) :=
  ⟨by simp [asPlace], sourceGiven, allHaveValues_plainLayout⟩

theorem complete_ranked {minZoom : Number F} {conditions : Tier → Expr F} :
    ∀ icon ∈ ranked theme category source minZoom conditions, CompleteIcon icon := by
  refine List.forall_mem_map.mpr fun tier _ => ?_
  exact ⟨by simp [tierId], sourceGiven, allHaveValues_layout succeeds_standardTextSizes⟩

theorem complete_rail (sized : RailSized F) {minZoom : Number F} :
    ∀ icon ∈ rail theme source minZoom, CompleteIcon icon := by
  have shownValues : AllHaveValues
      (Property.override alwaysShown
        [Property.fixed "icon-ignore-placement" (.bool false)] : List (Property F)) :=
    allHaveValues_override allHaveValues_alwaysShown (by simp)
  refine List.forall_mem_map.mpr fun tier _ => ?_
  exact ⟨by simp [tierId], sourceGiven,
    allHaveValues_override (allHaveValues_layout (sized tier)) shownValues⟩

theorem complete_sourceIcons (sized : RailSized F) :
    ∀ icon ∈ sourceIcons theme source, CompleteIcon icon := by
  simp only [sourceIcons, List.forall_mem_append]
  refine ⟨⟨⟨⟨⟨⟨⟨⟨⟨?airport, ?airfield⟩, ?airportPlace⟩, ?hospital⟩, ?museum⟩, ?zoo⟩, ?stadium⟩,
    ?park⟩, ?rail⟩, ?school⟩
  case airport => exact forall_mem_shown (by simp [complete_plain, sourceGiven])
  case airfield => exact forall_mem_shown (by simp [complete_plain, sourceGiven])
  case airportPlace => exact forall_mem_shown (by simp [complete_asPlace, sourceGiven])
  case hospital => exact forall_mem_shown (complete_ranked sourceGiven)
  case museum => exact forall_mem_shown (complete_ranked sourceGiven)
  case zoo => exact forall_mem_shown (by simp [complete_plain, sourceGiven])
  case stadium =>
    apply forall_mem_shown
    simp only [List.forall_mem_cons]
    refine ⟨?_, ?_, by simp⟩
    · exact ⟨by simp [plain], sourceGiven, allHaveValues_stadiumLayout⟩
    · exact ⟨by simp [asPlace], sourceGiven, allHaveValues_stadiumLayout⟩
  case park => exact forall_mem_shown (by simp [complete_plain, sourceGiven])
  case rail => exact forall_mem_shown (complete_rail sourceGiven sized)
  case school => exact forall_mem_shown (complete_ranked sourceGiven)

end Source

theorem complete_aerodromes : CompleteIcon (aerodromes theme) :=
  ⟨by simp [aerodromes], by simp [aerodromes],
    allHaveValues_override allHaveValues_plainLayout (by simp)⟩

theorem complete_parkPoints : CompleteIcon (parkPoints theme) :=
  ⟨by simp [parkPoints], by simp [parkPoints],
    allHaveValues_override allHaveValues_plainLayout (by simp)⟩

theorem complete_icons (sized : RailSized F) : ∀ icon ∈ icons theme, CompleteIcon icon := by
  have sourcesGiven : ∀ source ∈ sources, source.isEmpty = false := by decide
  simp only [icons, List.forall_mem_append]
  refine ⟨⟨?_, ?_⟩, ?_⟩
  · intro icon member
    obtain ⟨source, sourceMember, inSource⟩ := List.mem_flatMap.mp member
    exact complete_sourceIcons (sourcesGiven source sourceMember) sized icon inSource
  · exact forall_mem_shown (List.forall_mem_singleton.mpr complete_aerodromes)
  · exact forall_mem_shown (List.forall_mem_singleton.mpr complete_parkPoints)

theorem succeeds_steps (sized : RailSized F) : AllSucceed (steps theme) :=
  allSucceed_map.mpr fun icon member => (complete_icons sized icon member).step

end PoiLabel

end MapStyle
