import MapStyle.Presets
import MapStyle.Proofs.Number.Double
import MapStyle.Proofs.Poi.Icon

/-!
# Where points of interest start

The tiers of a category appear one after the other as long as the category starts in time, since
only its first tier starts with it. A setting for points of interest counts unless it is zero, which
is taken for a setting that is not given.
-/

namespace MapStyle.PoiLabel

set_option autoImplicit false

open DrawStep (compile)

variable {F : Type} [Arithmetic F] {theme : Theme F} {layers : List (Layer F)}
  {category : PoiCategory} {source : String}

/-! ### Tiers one after the other -/

/-- The zoom at which the layer with an id starts. -/
def startOf? (layers : List (Layer F)) (id : String) : Option (Number F) :=
  (layers.find? fun layer => layer.id == id).bind Layer.minZoom

/-- One layer does not start after another one. -/
def InOrder (layers : List (Layer F)) (first second : String) : Prop :=
  ∃ lower upper, startOf? layers first = some lower ∧ startOf? layers second = some upper ∧
    lower.le upper = true

/-- The zoom at which the second tier of every category starts. -/
def secondStart : Number F := 14.5

omit [Arithmetic F] in
theorem startOf?_of_mem (distinct : (layers.map Layer.id).Nodup) {layer : Layer F}
    (member : layer ∈ layers) : startOf? layers layer.id = layer.minZoom := by
  unfold startOf?
  cases found : layers.find? fun other => other.id == layer.id with
  | none => exact absurd (List.find?_eq_none.mp found layer member) (by simp)
  | some other =>
      have sameId : other.id = layer.id := by simpa using List.find?_some found
      have same := List.inj_on_of_nodup_map distinct (List.mem_of_find?_eq_some found) member sameId
      rw [same, Option.bind_some]

/-- Every tier of a category that is drawn has a layer for each source. -/
theorem startOf?_tier (compiled : compile (steps theme) = .ok layers)
    (tiered : category ∈ PoiCategory.tiered) (enabled : theme.poiEnabled category = true)
    (listed : source ∈ sources) (tier : Tier) :
    startOf? layers (tierId category tier source) =
      some (tier.minZoom?.getD (start theme category)) := by
  obtain ⟨icon, iconMember, id, minZoom⟩ := exists_tierIcon tiered enabled listed tier
  obtain ⟨layer, member, drawn⟩ := exists_layer compiled iconMember
  rw [← id, ← drawn.id, startOf?_of_mem (nodup_ids compiled) member, drawn.minZoom, minZoom]

theorem inOrder_iff (compiled : compile (steps theme) = .ok layers)
    (tiered : category ∈ PoiCategory.tiered) (enabled : theme.poiEnabled category = true)
    (listed : source ∈ sources) (upper lower : Tier) :
    InOrder layers (tierId category upper source) (tierId category lower source) ↔
      (upper.minZoom?.getD (start theme category)).le
        (lower.minZoom?.getD (start theme category)) = true := by
  have found := startOf?_tier compiled tiered enabled listed
  constructor
  · rintro ⟨upperZoom, lowerZoom, isUpper, isLower, ordered⟩
    rw [found] at isUpper isLower
    cases isUpper
    cases isLower
    exact ordered
  · intro ordered
    exact ⟨_, _, found upper, found lower, ordered⟩

theorem railSized_double : RailSized Float := by
  intro tier
  cases tier <;> exact succeeds_of_isOk (by decide +kernel)

/-- The last tier of a category never appears before the second one. The second one does not appear
before the first one exactly if the category starts in time: only its first tier starts with it. -/
theorem tiers_in_order (theme : Theme Float) :
    Returns
      (fun layers => ∀ category ∈ PoiCategory.tiered, theme.poiEnabled category = true →
        ∀ source ∈ sources,
          (InOrder layers (tierId category .first source) (tierId category .second source) ↔
            (start theme category).le secondStart = true) ∧
          InOrder layers (tierId category .second source) (tierId category .others source))
      (compile (steps theme)) := by
  apply (succeeds_steps railSized_double).compile.returns
  intro layers compiled category tiered enabled source listed
  have inOrder := inOrder_iff compiled tiered enabled listed
  have lastInTime : (secondStart : Number Float).le 15 = true := by decide
  exact ⟨inOrder .first .second, (inOrder .second .others).mpr lastInTime⟩

/-- In the parchment theme every category starts in time. -/
theorem tiers_in_order_parchment :
    Returns
      (fun layers => ∀ category ∈ PoiCategory.tiered, ∀ source ∈ sources,
        InOrder layers (tierId category .first source) (tierId category .second source) ∧
          InOrder layers (tierId category .second source) (tierId category .others source))
      (compile (steps (Preset.parchment : Theme Float))) := by
  apply (tiers_in_order Preset.parchment).mono
  intro layers inOrder category tiered source listed
  have inTime : ∀ category ∈ PoiCategory.tiered,
      (Preset.parchment : Theme Float).poiEnabled category = true ∧
        (start (Preset.parchment : Theme Float) category).le secondStart = true := by decide
  obtain ⟨enabled, early⟩ := inTime category tiered
  obtain ⟨firstInOrder, secondInOrder⟩ := inOrder category tiered enabled source listed
  exact ⟨firstInOrder.mpr early, secondInOrder⟩

/-- A theme in which hospitals start after their second tier. -/
def lateHospitals : Theme Float :=
  { Preset.parchment with
    pois := some { Preset.allPois 12 with hospital := some ⟨true, some 16⟩ } }

theorem lateHospitals_out_of_order :
    lateHospitals.poiEnabled .hospital = true ∧
      Returns
        (fun layers => ¬InOrder layers (tierId .hospital .first "poi_us")
          (tierId .hospital .second "poi_us"))
        (compile (steps lateHospitals)) := by
  have enabled : lateHospitals.poiEnabled .hospital = true := by decide
  refine ⟨enabled, (succeeds_steps railSized_double).compile.returns ?_⟩
  intro layers compiled inOrder
  have inTime := (inOrder_iff compiled (by decide) enabled (by decide) .first .second).mp inOrder
  have late : (start lateHospitals .hospital).le secondStart = false := by decide
  exact Bool.false_ne_true (late.symm.trans inTime)

/-! ### Settings -/

/-- A setting that is missing or zero. -/
def Unset (setting : Option (Number F)) : Prop :=
  ∀ value, setting = some value → value.isZero = true

theorem givenNumber?_of_unset {setting : Option (Number F)} (unset : Unset setting) :
    Theme.givenNumber? setting = none := by
  rw [Theme.givenNumber?, Option.filter_eq_none_iff]
  intro value given
  simp [unset value given]

theorem givenNumber?_of_nonzero {value : Number F} (nonzero : value.isZero = false) :
    Theme.givenNumber? (some value) = some value := by
  simp [Theme.givenNumber?, nonzero]

/-- The least zoom that a theme sets for a category. -/
def ownMinZoom? (theme : Theme F) (category : PoiCategory) : Option (Number F) :=
  (theme.poiSettings category).bind PoiSettings.minZoom

/-- The least zoom that a theme sets for all categories. -/
def sharedMinZoom? (theme : Theme F) : Option (Number F) :=
  theme.pois.bind PoisConfig.minZoom

/-- A category starts at the zoom that is set for it, else at the zoom that is built in for it, else
at the one that is set for all categories, else at zoom 12. -/
structure FollowsSettings (theme : Theme F) (category : PoiCategory) (minZoom : Number F) :
    Prop where
  own : ∀ zoom, ownMinZoom? theme category = some zoom → zoom.isZero = false → minZoom = zoom
  builtIn : Unset (ownMinZoom? theme category) →
    ∀ zoom, builtIn? category = some zoom → minZoom = zoom
  shared : Unset (ownMinZoom? theme category) → builtIn? category = (none : Option (Number F)) →
    ∀ zoom, sharedMinZoom? theme = some zoom → zoom.isZero = false → minZoom = zoom
  standard : Unset (ownMinZoom? theme category) → builtIn? category = (none : Option (Number F)) →
    Unset (sharedMinZoom? theme) → minZoom = 12

theorem followsSettings_poiMinZoom :
    FollowsSettings theme category (theme.poiMinZoom category (builtIn? category)) := by
  have own : ((theme.poiSettings category).bind fun settings =>
      Theme.givenNumber? settings.minZoom) = Theme.givenNumber? (ownMinZoom? theme category) := by
    rw [ownMinZoom?]
    cases theme.poiSettings category <;> rfl
  have shared : (theme.pois.bind fun config => Theme.givenNumber? config.minZoom) =
      Theme.givenNumber? (sharedMinZoom? theme) := by
    rw [sharedMinZoom?]
    cases theme.pois <;> rfl
  have chain : theme.poiMinZoom category (builtIn? category) =
      (((Theme.givenNumber? (ownMinZoom? theme category)).or (builtIn? category)).or
        (Theme.givenNumber? (sharedMinZoom? theme))).getD PoisConfig.standardMinZoom := by
    rw [Theme.poiMinZoom, own, shared]
  rw [chain]
  constructor
  case own =>
    intro zoom given nonzero
    rw [given, givenNumber?_of_nonzero nonzero]
    rfl
  case builtIn =>
    intro unset zoom given
    rw [givenNumber?_of_unset unset, given]
    rfl
  case shared =>
    intro unset noBuiltIn zoom given nonzero
    rw [givenNumber?_of_unset unset, noBuiltIn, given, givenNumber?_of_nonzero nonzero]
    rfl
  case standard =>
    intro unset noBuiltIn sharedUnset
    rw [givenNumber?_of_unset unset, noBuiltIn, givenNumber?_of_unset sharedUnset]
    rfl

theorem ofName?_name (category : PoiCategory) :
    PoiCategory.ofName? category.name = some category := by
  cases category <;> rfl

theorem start_of_ne_museum (noMuseum : category ≠ .museum) :
    start theme category = theme.poiMinZoom category (builtIn? category) := by
  cases category with
  | museum => exact absurd rfl noMuseum
  | _ => rfl

/-- Outside museums and the lower tiers a layer starts where the settings of its category say. -/
theorem followsSettings_of_layer (compiled : compile (steps theme) = .ok layers)
    {layer : Layer F} (member : layer ∈ layers) (noMuseum : category ≠ .museum)
    (image : layer.layout.lookup "icon-image" = some (.text category.name))
    (upper : ¬IsLowerTier category layer.id) :
    ∃ zoom, layer.minZoom = some zoom ∧ FollowsSettings theme category zoom := by
  obtain ⟨icon, iconMember, drawn⟩ := exists_icon compiled member
  obtain ⟨shownCategory, shows⟩ := exists_shows icon iconMember
  have sameName := drawn.layout _ _ shows.image
  rw [image, Option.some_inj, Expr.text.injEq] at sameName
  have same : shownCategory = category := by
    rw [← Option.some_inj, ← ofName?_name, ← ofName?_name, sameName]
  subst same
  obtain lowerTier | isStart := shows.start
  · exact absurd (drawn.id ▸ lowerTier) upper
  · rw [drawn.minZoom, isStart, start_of_ne_museum noMuseum]
    exact ⟨_, rfl, followsSettings_poiMinZoom⟩

theorem haloWidth_of_nonzero {colours : PoiLabelColours F} {width : Number F}
    (given : theme.colours.label.poi = some colours) (isWidth : colours.textHaloWidth = some width)
    (nonzero : width.isZero = false) : haloWidth theme = width := by
  rw [haloWidth, PoiLabel.colours, given, Option.getD_some, isWidth,
    givenNumber?_of_nonzero nonzero, Option.getD_some]

/-- Settings of points of interest are followed unless they are zero, which counts as not given: the
zooms at which the layers of a category start, apart from museums and lower tiers, and the width of
the halos of all layers. -/
theorem settings_followed_unless_zero (theme : Theme Float) :
    Returns
      (fun layers => ∀ layer ∈ layers,
        (∀ category, category ≠ .museum →
          layer.layout.lookup "icon-image" = some (.text category.name) →
          ¬IsLowerTier category layer.id →
            ∃ zoom, layer.minZoom = some zoom ∧ FollowsSettings theme category zoom) ∧
        ∀ colours width, theme.colours.label.poi = some colours →
          colours.textHaloWidth = some width → width.isZero = false →
            layer.paint.lookup "text-halo-width" = some (.number width))
      (compile (steps theme)) := by
  apply (succeeds_steps railSized_double).compile.returns
  intro layers compiled layer member
  constructor
  · intro category noMuseum image upper
    exact followsSettings_of_layer compiled member noMuseum image upper
  · intro colours width given isWidth nonzero
    obtain ⟨icon, _, drawn⟩ := exists_icon compiled member
    rw [drawn.haloWidth, haloWidth_of_nonzero given isWidth nonzero]

/-- A theme that sets the least zoom of zoos and the width of halos. -/
def zooSettings (zoom width : Number Float) : Theme Float :=
  { Preset.parchment with
    pois := some { Preset.allPois 12 with zoo := some ⟨true, some zoom⟩ }
    colours := { (Preset.parchment : Theme Float).colours with
      label := { (Preset.parchment : Theme Float).colours.label with
        poi := some { (PoiLabelColours.standard : PoiLabelColours Float) with
          textHaloWidth := some width } } } }

theorem exists_zooLayer {zoom width : Number Float} {layers : List (Layer Float)}
    (compiled : compile (steps (zooSettings zoom width)) = .ok layers) :
    ∃ layer ∈ layers, layer.layout.lookup "icon-image" = some (.text "zoo") ∧
      ¬IsLowerTier .zoo layer.id ∧
        layer.minZoom = some ((zooSettings zoom width).poiMinZoom .zoo none) ∧
          layer.paint.lookup "text-halo-width" =
            some (.number (haloWidth (zooSettings zoom width))) := by
  have enabled : (zooSettings zoom width).poiEnabled .zoo = true := rfl
  have inSource : plain (zooSettings zoom width) .zoo "poi_us" zooFilter ∈
      sourceIcons (zooSettings zoom width) "poi_us" := by
    simp [sourceIcons, shown, enabled]
  obtain ⟨layer, member, drawn⟩ := exists_layer compiled (List.mem_append_left _
    (List.mem_append_left _ (List.mem_flatMap.mpr ⟨"poi_us", by decide, inSource⟩)))
  have upper : ¬IsLowerTier .zoo layer.id := by
    rw [drawn.id]
    show ¬IsLowerTier .zoo "poi-zoo-poi_us"
    decide
  exact ⟨layer, member, drawn.layout _ _ rfl, upper, drawn.minZoom, drawn.haloWidth⟩

theorem settings_followed_zoo :
    Returns
      (fun layers => ∃ layer ∈ layers, layer.layout.lookup "icon-image" = some (.text "zoo") ∧
        layer.minZoom = some 13 ∧ layer.paint.lookup "text-halo-width" = some (.number 2))
      (compile (steps (zooSettings 13 2))) := by
  obtain ⟨layers, compiled, followed⟩ := settings_followed_unless_zero (zooSettings 13 2)
  obtain ⟨layer, member, image, upper, _, _⟩ := exists_zooLayer compiled
  obtain ⟨startFollowed, widthFollowed⟩ := followed layer member
  obtain ⟨zoom, starts, follows⟩ := startFollowed .zoo (by decide) image upper
  have isZoom : zoom = 13 := follows.own 13 rfl (by decide)
  have isWidth := widthFollowed _ 2 rfl rfl (by decide)
  exact ⟨layers, compiled, layer, member, image, isZoom ▸ starts, isWidth⟩

/-- Neither a zoom nor a width of zero is followed. -/
theorem zero_not_followed :
    ownMinZoom? (zooSettings 0 0) .zoo = some 0 ∧
      (zooSettings 0 0).colours.label.poi.bind PoiLabelColours.textHaloWidth = some 0 ∧
        Returns
          (fun layers => ∃ layer ∈ layers,
            layer.layout.lookup "icon-image" = some (.text "zoo") ∧ ¬IsLowerTier .zoo layer.id ∧
              layer.minZoom ≠ some 0 ∧
                layer.paint.lookup "text-halo-width" ≠ some (.number 0))
          (compile (steps (zooSettings 0 0))) := by
  refine ⟨rfl, rfl, (succeeds_steps railSized_double).compile.returns ?_⟩
  intro layers compiled
  obtain ⟨layer, member, image, upper, minZoom, width⟩ := exists_zooLayer compiled
  have standardZoom : (zooSettings 0 0).poiMinZoom .zoo none = .int 12 := rfl
  have standardWidth : ∃ value, haloWidth (zooSettings 0 0) = .real value := ⟨_, rfl⟩
  obtain ⟨value, isReal⟩ := standardWidth
  rw [standardZoom] at minZoom
  rw [isReal] at width
  refine ⟨layer, member, image, upper, ?_, ?_⟩
  · rw [minZoom]
    intro same
    cases same
  · rw [width]
    intro same
    cases same

end MapStyle.PoiLabel
