import MapStyle.Proofs.Layer.Surface
import MapStyle.Proofs.Style.Group

/-!
# Texts and icons the renderer can draw

The labels of roads, waters and settlements, highway shields, and points of interest. Their sizes
nest choices by class, by rank and by name inside a curve over the zoom.
-/

namespace MapStyle

set_option autoImplicit false

open MapStyle.Expr (Sound SoundStop SoundStops Usable)
open DrawStep (AllDraw allDraw_nil allDraw_cons allDraw_append allDraw_map allDraw_flatMap
  allDraw_ofDomain)
open Property (UsableAll)

variable {F : Type} [Arithmetic F]

/-! ### Roads -/

namespace RoadLabel

theorem usable_group {theme : Theme F} {id : String} {minZoom : Number F} {classFilter : Expr F}
    {tone : RoadLabelTone F} {sizes : List (Expr F × Expr F)}
    (filterSound : Sound true classFilter) (sizesSound : SoundStops false sizes) :
    (group theme id minZoom classFilter tone sizes).Usable := by
  have size : Ensures Usable (Expr.linear Expr.zoom sizes) := Expr.ensures_zoomLinear sizesSound
  have filter : Sound true
      (Expr.allOf (Filter.atGrade ++ [classFilter, Expr.has "name"])) := by
    rw [Filter.sound_allAtGrade]
    simp [filterSound]
  constructor
  · exact soundFilter_some.mpr filter
  · simp [size]
  · simp

theorem usable_steps (theme : Theme F) : AllDraw LayerPlan.Usable (steps theme) := by
  have major : Sound true (Expr.isOneOf "class" ["motorway", "trunk", "primary"] : Expr F) :=
    Expr.sound_isOneOf (by decide) (by decide)
  have tertiary : Sound true (Expr.isOneOf "class" ["tertiary", "residential"] : Expr F) :=
    Expr.sound_isOneOf (by decide) (by decide)
  have labelled : Sound true (Expr.isOneOf "class" labelledClasses : Expr F) :=
    Expr.sound_isOneOf (by decide) (by decide)
  simp [steps, usable_group, major, tertiary, labelled]

end RoadLabel

namespace Shield

@[simp] theorem sound_filter (kind : ShieldKind) : Sound true (filter kind : Expr F) := by
  have state : Sound true (Expr.isOneOf "network" ["us-state", "US:US", "US"] : Expr F) :=
    Expr.sound_isOneOf (by decide) (by decide)
  cases kind <;> simp [filter, state]

theorem usable_plan {theme : Theme F} {kind : ShieldKind} {style : ShieldStyle F}
    {size : TextSize F} {minZoom : Number F} : (plan theme kind style size minZoom).Usable := by
  have iconSize : Ensures Usable
      (Expr.linear Expr.zoom [(6, 0.8), (10, 1.0), (14, 1.2)] : Result F (Expr F)) :=
    Expr.ensures_zoomLinear (by simp)
  have textSize : Ensures Usable size.curve := Expr.ensures_zoomLinear (by simp)
  constructor
  · simp [plan]
  · simp [plan, iconSize, textSize]
  · simp [plan]

theorem usable_kindSteps {theme : Theme F} {config : ShieldsConfig F} (kind : ShieldKind) :
    AllDraw LayerPlan.Usable (kindSteps theme config kind) := by
  unfold kindSteps
  simp only
  split
  · simp
  · split <;> simp [usable_plan]

theorem usable_steps (theme : Theme F) : AllDraw LayerPlan.Usable (steps theme) := by
  apply allDraw_ofDomain
  intro config _ _
  exact allDraw_flatMap fun kind _ => usable_kindSteps kind

end Shield

/-! ### Settlements -/

namespace Settlement

theorem sound_twoLines {names : List String} :
    ∀ branch ∈ (twoLines names : List (Expr F × Expr F)),
      Sound false branch.1 ∧ Sound false branch.2 := by
  refine List.forall_mem_map.mpr ?_
  intro name _
  simp

@[simp] theorem sound_stateText : Sound false (stateText : Expr F) := by
  rw [stateText, Expr.sound_caseNode]
  · exact ⟨sound_twoLines, by simp⟩
  · simp [twoLines, states]

@[simp] theorem sound_continentText : Sound false (continentText : Expr F) := by
  rw [continentText, Expr.sound_caseNode (by simp [twoLines])]
  exact ⟨sound_twoLines, by simp⟩

/-- Sizes for all ranks, of which there is at least one. -/
structure SoundSizes (sizes : Sizes F) : Prop where
  given : sizes.byRank ≠ []
  byRank : ∀ rank ∈ sizes.byRank, Sound false rank.1 ∧ Sound false rank.2
  otherRank : Sound false sizes.otherRank
  city : Sound false sizes.city
  town : Sound false sizes.town
  other : Sound false sizes.other

theorem sound_sizes {sizes : Sizes F} (sound : SoundSizes sizes) :
    Ensures (Sound false) sizes.expr := by
  unfold Sizes.expr
  have ranked : Sound false (Expr.caseNode
      (sizes.byRank.map fun branch => (Expr.atMost (.get "rank") branch.1, branch.2))
      sizes.otherRank) := by
    rw [Expr.sound_caseNode (by simpa using sound.given)]
    refine ⟨List.forall_mem_map.mpr ?_, sound.otherRank⟩
    intro rank member
    obtain ⟨rankSound, sizeSound⟩ := sound.byRank rank member
    simp [rankSound, sizeSound]
  refine Ensures.andThen (Expr.ensures_matching (Expr.sound_get "class") sound.other ?_) ?_
  · simp [Expr.SoundBranch, Expr.caseLabels, sound.city, sound.town]
  · intro unranked unrankedSound
    simp [ranked, unrankedSound]

theorem usable_size : Ensures Usable (size : Result F (Expr F)) := by
  unfold size
  refine Ensures.andThen (sound_sizes (by constructor <;> simp [lowSizes])) ?_
  intro low lowSound
  refine Ensures.andThen (sound_sizes (by constructor <;> simp [middleSizes])) ?_
  intro middle middleSound
  refine Ensures.andThen (sound_sizes (by constructor <;> simp [highSizes])) ?_
  intro high highSound
  apply Expr.ensures_zoomLinear
  simp [lowSound, middleSound, highSound]

/-- Stops with a size for cities of rank one and one for others. -/
theorem usable_capitalSize {stops : List (Expr F × Expr F × Expr F)}
    (sound : ∀ stop ∈ stops, Expr.IsNumber stop.1 ∧ Sound false stop.2.1 ∧ Sound false stop.2.2) :
    Ensures Usable (capitalSize stops) := by
  refine Expr.ensures_zoomLinear (List.forall_mem_map.mpr ?_)
  rintro ⟨zoom, first, other⟩ member
  obtain ⟨isNumber, firstSound, otherSound⟩ := sound _ member
  exact ⟨isNumber, by simp [firstSound, otherSound]⟩

/-- The renderer accepts what a label is made of. -/
structure UsableLabel (label : Label F) : Prop where
  filter : Sound true label.filter
  text : Sound false label.text
  size : Ensures Usable label.size
  spacing : Sound false label.spacing
  extra : UsableAll label.extra
  haloWidth : Sound false label.haloWidth
  opacity : Sound false label.opacity

theorem UsableLabel.step {theme : Theme F} {label : Label F} (usable : UsableLabel label) :
    (label.step theme).Usable := by
  constructor
  · simp [usable.filter]
  · simp [usable.text, usable.size, usable.spacing, usable.extra]
  · simp [usable.haloWidth, usable.opacity]

variable (theme : Theme F)

theorem usable_continents : UsableLabel (continents theme) := by
  constructor
  · simp [continents, continentMaxZoom]
  · simp [continents]
  · simp [continents, Expr.ensures_zoomLinear, continentMaxZoom]
  · simp [continents]
  · simp [continents, continentOffset]
  · simp [continents]
  · simp [continents]

theorem usable_country {id source : String} {sizes : List (Expr F × Expr F)} {filter : Expr F}
    {minZoom : Number F} {maxZoom : Option (Number F)} (sizesSound : SoundStops false sizes)
    (filterSound : Sound true filter) :
    UsableLabel (country theme id source sizes filter minZoom maxZoom) := by
  constructor
  · exact filterSound
  · simp [country]
  · exact Expr.ensures_zoomLinear sizesSound
  · simp [country]
  · simp [country]
  · simp [country]
  · simp [country]

theorem usable_countries : ∀ label ∈ countries theme, UsableLabel label := by
  simp [countries, usable_country, isCountry, continentMaxZoom]

theorem usable_namedStates : ∀ label ∈ (namedStates : List (Label F)), UsableLabel label := by
  have known : Sound true (Expr.matchNode LabelText.name
      [(.labels (states.map .text), .bool true)] (.bool false) : Expr F) :=
    Expr.sound_matchTexts LabelText.sound_name (by decide) (by decide)
  simp only [namedStates, List.forall_mem_cons]
  refine ⟨?_, ?_, by simp⟩
  · constructor
    · simp [known]
    · simp
    · simp [Expr.ensures_zoomLinear]
    · simp
    · simp
    · simp
    · simp [stateOpacity]
  · constructor
    · simp
    · simp
    · simp [Expr.ensures_zoomLinear]
    · simp
    · simp
    · simp
    · simp [stateOpacity]

theorem sound_settlementFilter : Sound true (settlementFilter : Expr F) := by
  have known : Sound true (Expr.isOneOf "class" classes : Expr F) :=
    Expr.sound_isOneOf (by decide) (by decide)
  simp [settlementFilter, known]

theorem usable_cities : ∀ label ∈ cities theme, UsableLabel label := by
  simp only [cities, List.forall_mem_cons]
  refine ⟨?_, ?_, ?_, by simp⟩
  · constructor
    · simp [isTopCity]
    · simp
    · simp [usable_capitalSize]
    · simp
    · simp
    · simp
    · simp
  · constructor
    · simp [isTopCity]
    · simp
    · simp [usable_capitalSize]
    · simp
    · simp
    · simp
    · simp
  · constructor
    · exact sound_settlementFilter
    · simp
    · exact usable_size
    · simp
    · simp
    · simp
    · simp [townOpacity]

theorem usable_steps : AllDraw LayerPlan.Usable (steps theme) := by
  rw [steps, allDraw_map, labels, List.forall_mem_cons]
  refine ⟨(usable_continents theme).step, ?_⟩
  simp only [List.forall_mem_append]
  refine ⟨⟨?_, ?_⟩, ?_⟩
  · exact fun label member => (usable_countries theme label member).step
  · exact fun label member => (usable_namedStates label member).step
  · exact fun label member => (usable_cities theme label member).step

end Settlement

/-! ### Waters -/

namespace WaterLabel

variable {zoomed : Bool}

@[simp] theorem sound_withName {body : Expr F} :
    Sound zoomed (withName body) ↔ Sound zoomed body := by
  simp [withName]

theorem sound_nameContains {words : List String} :
    ∀ condition ∈ (nameContains words : List (Expr F)), Sound zoomed condition := by
  refine List.forall_mem_map.mpr ?_
  intro word _
  simp

theorem sound_sizeIfNamed {words : List String} {size : Expr F} (sizeSound : Sound zoomed size) :
    ∀ branch ∈ sizeIfNamed words size, Sound zoomed branch.1 ∧ Sound zoomed branch.2 := by
  refine List.forall_mem_map.mpr ?_
  intro condition member
  exact ⟨sound_nameContains condition member, sizeSound⟩

@[simp] theorem sound_whole (value : Nat) : Sound zoomed (whole value : Expr F) :=
  Expr.sound_number _

theorem sound_rankSizes {sizes : List (Expr F × Expr F)} {fallback : Expr F}
    (given : sizes ≠ []) (fallbackSound : Sound zoomed fallback)
    (sound : ∀ entry ∈ sizes, Sound zoomed entry.1 ∧ Sound zoomed entry.2) :
    Sound zoomed (rankSizes sizes fallback) := by
  rw [rankSizes, Expr.sound_caseNode (by simpa using given)]
  refine ⟨List.forall_mem_map.mpr ?_, fallbackSound⟩
  intro entry member
  obtain ⟨rankSound, sizeSound⟩ := sound entry member
  simp [rankSound, sizeSound]

theorem usable_byZoom {stops : List (Expr F × Expr F)} (sound : SoundStops false stops) :
    Ensures Usable (byZoom stops) :=
  Expr.ensures_zoomLinear sound

theorem sound_nameSizeAt (base : Nat) : Sound zoomed (nameSizeAt base : Expr F) := by
  unfold nameSizeAt
  extract_lets byName byRank
  have byNameSound : ∀ branch ∈ byName, Sound zoomed branch.1 ∧ Sound zoomed branch.2 := by
    simp only [byName, List.forall_mem_append]
    refine ⟨⟨⟨?_, ?_⟩, ?_⟩, by simp⟩
    · exact sound_sizeIfNamed (sound_whole _)
    · exact sound_sizeIfNamed (sound_whole _)
    · exact sound_sizeIfNamed (sound_whole _)
  have byRankSound : Sound zoomed byRank := by
    apply sound_rankSizes (by simp) (sound_whole _)
    simp
  have names : Sound zoomed (Expr.caseNode byName (whole (base + 1))) := by
    rw [Expr.sound_caseNode (by simp [byName])]
    exact ⟨byNameSound, sound_whole _⟩
  simp [byRankSound, names]

theorem usable_nameSize : Ensures Usable (nameSize : Result F (Expr F)) :=
  usable_byZoom (by simp [sound_nameSizeAt])

theorem sound_regionalSizes {sizes : RegionalSizes} (given : sizes.ranks ≠ []) :
    Sound zoomed (sizes.expr : Expr F) := by
  unfold RegionalSizes.expr
  extract_lets small byRank byName
  have smallSound : ∀ branch ∈ small, Sound zoomed branch.1 ∧ Sound zoomed branch.2 := by
    simp only [small, List.forall_mem_append]
    exact ⟨sound_sizeIfNamed (sound_whole _), sound_sizeIfNamed (sound_whole _)⟩
  have byRankSound : Sound zoomed byRank := by
    apply sound_rankSizes (by simp [given]) (sound_whole _)
    rw [List.forall_mem_map]
    intro entry _
    exact ⟨sound_whole entry.1, sound_whole entry.2⟩
  have byNameSound : Sound zoomed byName := by
    rw [Expr.sound_caseNode (by simp [sizeIfNamed, nameContains])]
    exact ⟨sound_sizeIfNamed (sound_whole _), sound_whole _⟩
  rw [sound_withName, Expr.sound_caseNode (by simp [small, sizeIfNamed, nameContains])]
  refine ⟨smallSound, ?_⟩
  simp [byRankSound, byNameSound]

theorem usable_regionalMajorSize : Ensures Usable (regionalMajorSize : Result F (Expr F)) :=
  usable_byZoom (by simp [sound_regionalSizes])

theorem sound_marineSize {sea gulf bay lake other : Expr F} (seaSound : Sound false sea)
    (gulfSound : Sound false gulf) (baySound : Sound false bay) (lakeSound : Sound false lake)
    (otherSound : Sound false other) : Ensures (Sound false) (marineSize sea gulf bay lake other) :=
  Expr.ensures_matching (Expr.sound_get "class") otherSound (by
    simp [Expr.SoundBranch, Expr.caseLabels, seaSound, gulfSound, baySound, lakeSound])

theorem usable_marineSizes : Ensures Usable (marineSizes : Result F (Expr F)) := by
  unfold marineSizes
  refine Ensures.andThen (sound_marineSize ?_ ?_ ?_ ?_ ?_) fun low lowSound => ?_
  any_goals simp
  refine Ensures.andThen (sound_marineSize ?_ ?_ ?_ ?_ ?_) fun middle middleSound => ?_
  any_goals simp
  refine Ensures.andThen (sound_marineSize ?_ ?_ ?_ ?_ ?_) fun high highSound => ?_
  any_goals simp
  exact usable_byZoom (by simp [lowSound, middleSound, highSound])

/-- The renderer accepts what the name of a water is made of. -/
structure UsableLabel (label : Label F) : Prop where
  filter : SoundFilter label.filter
  text : Sound false label.text
  size : Ensures Usable label.size
  padding : Sound false label.padding

theorem usable_paint {theme : Theme F} {haloWidth : Expr F} {opacity : Option (Number F)}
    (widthSound : Sound false haloWidth) : UsableAll (paint theme haloWidth opacity) := by
  simp [paint, widthSound]

theorem UsableLabel.step {theme : Theme F} {label : Label F} (usable : UsableLabel label) :
    (label.step theme).Usable := by
  constructor
  · exact usable.filter
  · simp [usable.text, usable.size, usable.padding, font]
  · apply usable_paint
    split <;> simp

theorem UsableLabel.iff {label : Label F} : UsableLabel label ↔
    SoundFilter label.filter ∧ Sound false label.text ∧ Ensures Usable label.size ∧
      Sound false label.padding := by
  constructor
  · intro usable
    exact ⟨usable.filter, usable.text, usable.size, usable.padding⟩
  · rintro ⟨filter, text, size, padding⟩
    exact ⟨filter, text, size, padding⟩

@[simp] theorem soundFilter_named {condition : Expr F} :
    SoundFilter (named condition) ↔ Sound true condition := by
  simp [named]

@[simp] theorem soundFilter_onlyNamed : SoundFilter (onlyNamed : Option (Expr F)) := by
  simp [onlyNamed]

@[simp] theorem sound_isOcean : Sound true (isOcean : Expr F) := by
  simp only [isOcean, sound_withName, Expr.sound_anyOf]
  exact sound_nameContains

@[simp] theorem sound_isNoOcean : Sound true (isNoOcean : Expr F) := by
  simp only [isNoOcean, sound_withName, Expr.sound_allOf, List.forall_mem_map, Expr.sound_negated]
  exact sound_nameContains

@[simp] theorem sound_isMarineOrUnclassed : Sound true (isMarineOrUnclassed : Expr F) := by
  have classes : Sound true (Expr.isOneOf "class" marineClasses : Expr F) :=
    Expr.sound_isOneOf (by decide) (by decide)
  simp [isMarineOrUnclassed, classes]

@[simp] theorem sound_rankAbove {limit : Expr F} :
    Sound true (rankAbove limit) ↔ Sound true limit := by
  simp [rankAbove]

theorem usable_globalLabels : ∀ label ∈ (globalLabels : List (Label F)), UsableLabel label := by
  have seas : Sound true (Expr.isOneOf "class" ["sea", "gulf", "bay"] : Expr F) :=
    Expr.sound_isOneOf (by decide) (by decide)
  simp [globalLabels, UsableLabel.iff, usable_byZoom, usable_marineSizes, usable_nameSize, seas]

theorem usable_coarseLabels : ∀ label ∈ (coarseLabels : List (Label F)), UsableLabel label := by
  simp [coarseLabels, UsableLabel.iff, usable_byZoom]

theorem usable_middleLabels : ∀ label ∈ (middleLabels : List (Label F)), UsableLabel label := by
  simp [middleLabels, UsableLabel.iff, usable_byZoom]

theorem usable_regionalLabels :
    ∀ label ∈ (regionalLabels : List (Label F)), UsableLabel label := by
  have classes : Sound true (Expr.isOneOf "class" (marineClasses ++ ["lake"]) : Expr F) :=
    Expr.sound_isOneOf (by decide) (by decide)
  simp [regionalLabels, UsableLabel.iff, usable_byZoom, usable_regionalMajorSize, classes]

theorem usable_global (theme : Theme F) : AllDraw LayerPlan.Usable (global theme) :=
  allDraw_map.mpr fun label member => (usable_globalLabels label member).step

theorem usable_basemap (theme : Theme F) : AllDraw LayerPlan.Usable (basemap theme) := by
  rw [basemap, allDraw_map]
  simp only [List.forall_mem_append]
  refine ⟨⟨?_, ?_⟩, ?_⟩
  · exact fun label member => (usable_coarseLabels label member).step
  · exact fun label member => (usable_middleLabels label member).step
  · exact fun label member => (usable_regionalLabels label member).step

theorem sound_waterwaySize {river canal stream ditch : Expr F} (riverSound : Sound false river)
    (canalSound : Sound false canal) (streamSound : Sound false stream)
    (ditchSound : Sound false ditch) :
    Ensures (Sound false) (waterwaySize river canal stream ditch) :=
  Expr.ensures_matching (Expr.sound_get "class") streamSound (by
    simp [Expr.SoundBranch, Expr.caseLabels, riverSound, canalSound, streamSound, ditchSound])

theorem usable_waterwaySizes {stops : List (Expr F × Result F (Expr F))}
    (sound : ∀ stop ∈ stops, Expr.IsNumber stop.1 ∧ Ensures (Sound false) stop.2) :
    Ensures Usable (waterwaySizes stops) := by
  unfold waterwaySizes
  refine Ensures.bind fun found stopsFound => usable_byZoom ?_
  refine Ensures.forall_mem_mapM ?_ stopsFound
  intro stop member
  obtain ⟨isNumber, sizeSound⟩ := sound stop member
  refine Ensures.andThen sizeSound fun size held => ?_
  exact Ensures.pure_iff.mpr ⟨isNumber, held⟩

theorem usable_waterway {theme : Theme F} {id source : String} {size : Result F (Expr F)}
    {minZoom : Number F} {maxZoom : Option (Number F)} (sizeUsable : Ensures Usable size) :
    (waterway theme id source size minZoom maxZoom).Usable := by
  constructor
  · simp
  · simp [font, sizeUsable]
  · simp [usable_paint]

theorem usable_waterways (theme : Theme F) : AllDraw LayerPlan.Usable (waterways theme) := by
  simp only [waterways, allDraw_cons, allDraw_nil, and_true]
  refine ⟨usable_waterway ?_, usable_waterway ?_, usable_waterway ?_⟩
  · simp [usable_waterwaySizes, sound_waterwaySize]
  · simp [usable_waterwaySizes, sound_waterwaySize]
  · simp [usable_waterwaySizes, sound_waterwaySize]

end WaterLabel

/-! ### Points of interest -/

namespace PoiLabel

@[simp] theorem sound_tier (tier : Tier) : Sound true (tier.filter : Expr F) := by
  cases tier <;> simp [Tier.filter]

@[simp] theorem sound_iconSize (tier : Tier) : Sound false (tier.iconSize : Expr F) := by
  cases tier <;> simp [Tier.iconSize]

@[simp] theorem sound_hasClass (name : String) : Sound true (hasClass name : Expr F) := by
  simp [hasClass]

@[simp] theorem sound_hasSubclass (name : String) : Sound true (hasSubclass name : Expr F) := by
  simp [hasSubclass]

@[simp] theorem sound_hasSubclassOrNone (name : String) :
    Sound true (hasSubclassOrNone name : Expr F) := by
  simp [hasSubclassOrNone]

section Filters

variable (tier : Tier)

theorem sound_hospitalFilter : Sound true (hospitalFilter tier : Expr F) := by
  simp [hospitalFilter, Expr.sound_isOneOf]

theorem sound_museumFilter : Sound true (museumFilter tier : Expr F) := by
  simp [museumFilter, Expr.sound_isOneOf]

theorem sound_railFilter : Sound true (railFilter tier : Expr F) := by
  simp [railFilter, Expr.sound_isOneOf, stationSubclasses]

theorem sound_schoolFilter : Sound true (schoolFilter tier : Expr F) := by
  simp [schoolFilter, Expr.sound_isOneOf]

theorem sound_airportFilter : Sound true (airportFilter : Expr F) := by
  simp [airportFilter, Expr.sound_isOneOf]

theorem sound_airfieldFilter : Sound true (airfieldFilter : Expr F) := by
  simp [airfieldFilter, Expr.sound_isOneOf]

theorem sound_zooFilter : Sound true (zooFilter : Expr F) := by
  simp [zooFilter]

theorem sound_stadiumFilter : Sound true (stadiumFilter : Expr F) := by
  simp [stadiumFilter, Expr.sound_isOneOf]

theorem sound_parkFilter : Sound true (parkFilter : Expr F) := by
  simp [parkFilter, Expr.sound_isOneOf, parkClasses]

end Filters

theorem usable_layout {theme : Theme F} {icon : String} {iconSize : Expr F}
    {textSizes : List (Expr F × Expr F)} (iconSound : Sound false iconSize)
    (textsSound : SoundStops false textSizes) :
    UsableAll (layout theme icon iconSize textSizes) := by
  have textSize : Ensures Usable (Expr.linear Expr.zoom textSizes) :=
    Expr.ensures_zoomLinear textsSound
  simp [layout, iconSound, textSize]

theorem sound_standardTextSizes :
    SoundStops false (standardTextSizes : List (Expr F × Expr F)) := by
  simp [standardTextSizes]

theorem sound_railTextSizes (tier : Tier) :
    SoundStops false (railTextSizes tier : List (Expr F × Expr F)) := by
  cases tier <;> simp [railTextSizes]

/-- The renderer accepts what an icon is made of. -/
structure UsableIcon (icon : Icon F) : Prop where
  condition : SoundFilter icon.condition
  layout : UsableAll icon.layout
  opacity : Sound false icon.iconOpacity

theorem UsableIcon.step {theme : Theme F} {icon : Icon F} (usable : UsableIcon icon) :
    (icon.step theme).Usable := by
  have filter : Sound true (Expr.allOf (Expr.has "name" :: icon.condition.toList)) := by
    rw [Expr.sound_allOf, List.forall_mem_cons]
    refine ⟨by simp, ?_⟩
    intro condition member
    exact usable.condition condition (Option.mem_toList.mp member)
  constructor
  · exact soundFilter_some.mpr filter
  · exact usable.layout
  · simp [paint, usable.opacity]

variable {theme : Theme F} {category : PoiCategory} {source : String}

theorem usable_plainLayout : UsableAll (plainLayout theme category) :=
  usable_layout (Expr.sound_ofScientific _ _ _) sound_standardTextSizes

@[simp] theorem sound_plainOpacity : Sound false (plainOpacity : Expr F) := by
  simp [plainOpacity]

theorem usable_alwaysShown : UsableAll (alwaysShown : List (Property F)) := by
  simp [alwaysShown]

theorem usable_stadiumLayout : UsableAll (stadiumLayout theme) :=
  Property.usableAll_override usable_plainLayout usable_alwaysShown

theorem usable_plain {condition : Expr F} (sound : Sound true condition) :
    UsableIcon (plain theme category source condition) :=
  ⟨soundFilter_some.mpr sound, usable_plainLayout, sound_plainOpacity⟩

theorem usable_asPlace {values : List String} (given : values ≠ []) (nodup : values.Nodup) :
    UsableIcon (asPlace theme category source values) :=
  ⟨soundFilter_some.mpr (Expr.sound_isOneOf given nodup), usable_plainLayout, sound_plainOpacity⟩

theorem usable_ranked {minZoom : Number F} {condition : Tier → Expr F}
    (sound : ∀ tier, Sound true (condition tier)) :
    ∀ icon ∈ ranked theme category source minZoom condition, UsableIcon icon := by
  refine List.forall_mem_map.mpr ?_
  intro tier _
  constructor
  · exact soundFilter_some.mpr (sound tier)
  · exact usable_layout (sound_iconSize tier) sound_standardTextSizes
  · exact sound_plainOpacity

theorem usable_rail {minZoom : Number F} : ∀ icon ∈ rail theme source minZoom, UsableIcon icon := by
  have shownUsable : UsableAll
      (Property.override alwaysShown
        [Property.fixed "icon-ignore-placement" (.bool false)] : List (Property F)) :=
    Property.usableAll_override usable_alwaysShown (by simp)
  refine List.forall_mem_map.mpr ?_
  intro tier _
  constructor
  · exact soundFilter_some.mpr (sound_railFilter tier)
  · exact Property.usableAll_override
      (usable_layout (sound_iconSize tier) (sound_railTextSizes tier)) shownUsable
  · cases tier <;> simp [railOpacity]

theorem usable_sourceIcons : ∀ icon ∈ sourceIcons theme source, UsableIcon icon := by
  simp only [sourceIcons, List.forall_mem_append]
  refine ⟨⟨⟨⟨⟨⟨⟨⟨⟨?airport, ?airfield⟩, ?airportPlace⟩, ?hospital⟩, ?museum⟩, ?zoo⟩, ?stadium⟩,
    ?park⟩, ?rail⟩, ?school⟩
  case airport => exact forall_mem_shown (by simp [usable_plain, sound_airportFilter])
  case airfield => exact forall_mem_shown (by simp [usable_plain, sound_airfieldFilter])
  case airportPlace => exact forall_mem_shown (by simp [usable_asPlace])
  case hospital => exact forall_mem_shown (usable_ranked sound_hospitalFilter)
  case museum => exact forall_mem_shown (usable_ranked sound_museumFilter)
  case zoo => exact forall_mem_shown (by simp [usable_plain, sound_zooFilter])
  case stadium =>
    apply forall_mem_shown
    simp only [List.forall_mem_cons]
    refine ⟨?_, ?_, by simp⟩
    · exact ⟨soundFilter_some.mpr sound_stadiumFilter, usable_stadiumLayout, sound_plainOpacity⟩
    · exact ⟨soundFilter_some.mpr (Expr.sound_isOneOf (by decide) (by decide)),
        usable_stadiumLayout, sound_plainOpacity⟩
  case park => exact forall_mem_shown (by simp [usable_plain, sound_parkFilter])
  case rail => exact forall_mem_shown usable_rail
  case school => exact forall_mem_shown (usable_ranked sound_schoolFilter)

theorem usable_aerodromes : UsableIcon (aerodromes theme) :=
  ⟨soundFilter_none, Property.usableAll_override usable_plainLayout (by simp), sound_plainOpacity⟩

theorem usable_parkPoints : UsableIcon (parkPoints theme) := by
  have isPoint : Sound true (Expr.equal (.op "geometry-type" []) "Point" : Expr F) := by
    rw [Expr.sound_equal, Expr.sound_op (by decide)]
    simp
  constructor
  · simp [parkPoints, isPoint, Expr.sound_isOneOf, parkClasses]
  · exact Property.usableAll_override usable_plainLayout (by simp)
  · exact sound_plainOpacity

theorem usable_icons : ∀ icon ∈ icons theme, UsableIcon icon := by
  simp only [icons, List.forall_mem_append]
  refine ⟨⟨?_, ?_⟩, ?_⟩
  · intro icon member
    obtain ⟨source, _, inSource⟩ := List.mem_flatMap.mp member
    exact usable_sourceIcons icon inSource
  · exact forall_mem_shown (List.forall_mem_singleton.mpr usable_aerodromes)
  · exact forall_mem_shown (List.forall_mem_singleton.mpr usable_parkPoints)

theorem usable_steps (theme : Theme F) : AllDraw LayerPlan.Usable (steps theme) :=
  allDraw_map.mpr fun icon member => (usable_icons icon member).step

end PoiLabel

end MapStyle
