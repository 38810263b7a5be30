import MapStyle.Presets
import MapStyle.Proofs.Theme.Offered

/-!
# Colours that are resolved

A theme that was read resolves a colour for every class of every category, also for a class that
nobody knows. The colour is a colour text and one of the theme's own for the category, and an
override that is switched on goes before all others.
-/

namespace MapStyle

set_option autoImplicit false

variable {F : Type}

/-- The colours that a theme has to name are given: those to which a class without a colour of its
own falls back. -/
structure ThemeColours.Given (colours : ThemeColours F) : Prop where
  land : colours.land.fallback.isSome
  landuse : colours.landuse.fallback.isSome
  waterFill : colours.water.fill.isSome
  waterLine : colours.water.line.isSome
  road : colours.road.other.isSome
  tunnel : ∀ variant ∈ colours.road.tunnel, variant.fallback.isSome
  bridge : ∀ variant ∈ colours.road.bridge, variant.fallback.isSome
  building : colours.building.fill.isSome

/-! ### Palettes -/

/-- A colour that is given and offered. -/
def Colour.GivenIn (colour : Option String) (offered : List (Option String)) : Prop :=
  colour.isSome = true ∧ colour ∈ offered

theorem Colour.GivenIn.or {first second : Option String} {offered : List (Option String)}
    (firstOffered : ∀ text, first = some text → some text ∈ offered)
    (secondOffered : Colour.GivenIn second offered) : Colour.GivenIn (first.or second) offered := by
  cases first with
  | none => exact secondOffered
  | some text => exact ⟨rfl, firstOffered text rfl⟩

/-- The colours of a palette are offered, and neither fallback is left open. -/
structure Palette.DrawnFrom (palette : Palette) (offered : List (Option String)) : Prop where
  table : ∀ entry ∈ palette.table, entry.2 ∈ offered
  classFallback : Colour.GivenIn palette.classFallback offered
  fallback : Colour.GivenIn palette.fallback offered

namespace Palette.DrawnFrom

variable {palette : Palette} {offered : List (Option String)}

theorem own (drawn : palette.DrawnFrom offered) {featureClass colour : String}
    (found : palette.own? featureClass = some colour) : some colour ∈ offered := by
  obtain ⟨entry, inTable, given⟩ := Option.bind_eq_some_iff.mp found
  obtain ⟨front, back, split, _⟩ := List.lookup_eq_some_iff.mp inTable
  rw [← eq_some_of_givenColour? given]
  exact drawn.table (featureClass, entry) (by simp [split])

/-- Whatever the class, a palette has a colour for it. -/
theorem colour (drawn : palette.DrawnFrom offered) (category : Category) (featureClass : String) :
    Colour.GivenIn (Theme.paletteColour category palette featureClass) offered := by
  unfold Theme.paletteColour
  split
  · exact drawn.fallback
  · apply Colour.GivenIn.or
    · intro text found
      obtain own | ⟨_, related⟩ := Option.or_eq_some_iff.mp found
      · exact drawn.own own
      · obtain ⟨relative, _, ownOfRelative⟩ := Option.bind_eq_some_iff.mp related
        exact drawn.own ownOfRelative
    · exact drawn.classFallback

variable {table : ClassTable} {main unknown : Option String}

theorem ofMain (given : main.isSome = true) (inTable : ∀ entry ∈ table, entry.2 ∈ offered) :
    (Palette.mk table main main).DrawnFrom (main :: offered) where
  table _ member := List.mem_cons_of_mem _ (inTable _ member)
  classFallback := ⟨given, List.mem_cons_self⟩
  fallback := ⟨given, List.mem_cons_self⟩

/-- The colour of unknown classes may be left open; then they have the main colour. -/
theorem ofMainOr (given : main.isSome = true) (inTable : ∀ entry ∈ table, entry.2 ∈ offered) :
    (Palette.mk table main ((givenColour? unknown).or main)).DrawnFrom
      (main :: unknown :: offered) where
  table _ member := List.mem_cons_of_mem _ (List.mem_cons_of_mem _ (inTable _ member))
  classFallback := ⟨given, List.mem_cons_self⟩
  fallback := by
    apply Colour.GivenIn.or
    · intro text found
      rw [← eq_some_of_givenColour? found]
      exact List.mem_cons_of_mem _ List.mem_cons_self
    · exact ⟨given, List.mem_cons_self⟩

end Palette.DrawnFrom

namespace Theme

variable {theme : Theme F} {category : Category}

theorem palette_roads (given : theme.colours.Given) :
    (theme.palette .road).DrawnFrom theme.colours.road.offered :=
  .ofMain given.road (by simp [RoadColours.byClass])

/-- A category is coloured with the palette of the category that it inherits from, if it inherits;
either way with colours that stand under the category. -/
theorem palette_drawnFrom (given : theme.colours.Given) (category : Category) :
    (theme.palette (theme.inheriting category)).DrawnFrom (theme.colours.offered category) := by
  have ofClasses {classes : ClassTable} : ∀ entry ∈ classes, entry.2 ∈ classes.map Prod.snd :=
    fun _ member => List.mem_map_of_mem member
  cases category with
  | land => exact .ofMain given.land ofClasses
  | landuse => exact .ofMain given.landuse ofClasses
  | water => exact .ofMainOr given.waterFill ofClasses
  | waterway => exact .ofMainOr given.waterLine ofClasses
  | road => exact palette_roads given
  | tunnel =>
      cases own : theme.colours.road.tunnel with
      | none =>
          simp only [inheriting, roadVariant, own, ThemeColours.offered]
          exact palette_roads given
      | some variant =>
          simp only [inheriting, palette, roadVariant, own, ThemeColours.offered]
          exact .ofMain (given.tunnel variant own) ofClasses
  | bridge =>
      cases own : theme.colours.road.bridge with
      | none =>
          simp only [inheriting, roadVariant, own, ThemeColours.offered]
          exact palette_roads given
      | some variant =>
          simp only [inheriting, palette, roadVariant, own, ThemeColours.offered]
          exact .ofMain (given.bridge variant own) ofClasses
  | building =>
      refine .ofMainOr given.building fun entry member => ?_
      have listed := (List.mem_filter.mp member).1
      simp only [List.mem_cons, List.not_mem_nil, or_false] at listed
      obtain rfl | rfl | rfl | rfl | rfl | rfl := listed <;> simp

/-! ### Overrides -/

/-- Roads have no override that tunnels or bridges could inherit. -/
theorem overrideColour_inheriting (theme : Theme F) (category : Category) :
    theme.overrideColour (theme.inheriting category) = theme.overrideColour category := by
  cases category with
  | tunnel | bridge =>
      simp only [inheriting]
      split <;> rfl
  | _ => rfl

theorem switched_iff {switch : Bool} {colour : Option String} {text : String}
    (isColour : switch = true → colour = some text → Colour.isColour false text = true) :
    (if switch then givenColour? colour else none) = some text ↔
      switch = true ∧ colour = some text := by
  constructor
  · intro found
    split at found
    · rename_i on
      exact ⟨on, eq_some_of_givenColour? found⟩
    · cases found
  · rintro ⟨on, rfl⟩
    rw [if_pos on, givenColour?_of_isColour (isColour on rfl)]

/-- The override that is in force is the one that is switched on with a colour. -/
theorem overrideColour_eq_some_iff (checked : theme.OffersColours) {text : String} :
    theme.overrideColour category = some text ↔ theme.OverriddenBy category text := by
  have offered (overridden : theme.OverriddenBy category text) :
      Colour.isColour false text = true := checked category text (.inl overridden)
  cases category with
  | land | landuse | water | waterway =>
      simp only [overrideColour, Option.bind_eq_some_iff, OverriddenBy]
      exact exists_congr fun config => and_congr_right fun given =>
        switched_iff fun on isText => offered ⟨config, given, on, isText⟩
  | road | tunnel | bridge | building => simp [overrideColour, OverriddenBy]

/-! ### Resolved colours -/

/-- What goes behind an override is resolved to one of the theme's own colours. -/
theorem offers_of_behind_override (checked : theme.OffersColours) {behind : Option String}
    (offered : Colour.GivenIn behind (theme.colours.offered category)) :
    ∃ colour, (theme.overrideColour (theme.inheriting category)).or behind = some colour ∧
      Colour.isColour false colour = true ∧ theme.Offers category colour := by
  rw [overrideColour_inheriting]
  have found : ∃ colour, (theme.overrideColour category).or behind = some colour ∧
      theme.Offers category colour := by
    cases override : theme.overrideColour category with
    | some colour =>
        exact ⟨colour, rfl, .inl ((overrideColour_eq_some_iff checked).mp override)⟩
    | none =>
        obtain ⟨given, member⟩ := offered
        obtain ⟨colour, rfl⟩ := Option.isSome_iff_exists.mp given
        exact ⟨colour, rfl, .inr member⟩
  obtain ⟨colour, resolved, offers⟩ := found
  exact ⟨colour, resolved, checked category colour offers, offers⟩

/-- Every category has a name that is known, and resolves a colour for every class and for unknown
ones: a colour text that is one of the theme's own for the category. An override that is switched
on with a colour is that colour. -/
theorem every_class_resolved {value : Json F} [Arithmetic F] (built : ofJson value = .ok theme)
    (given : theme.colours.Given) (category : Category) (featureClass : String) :
    (categoryNamed category.name : Result F Category) = .ok category ∧
    (∃ colour, theme.resolveColour category featureClass = some colour ∧
      Colour.isColour false colour = true ∧ theme.Offers category colour) ∧
    (∃ colour, theme.resolveFallbackColour category = some colour ∧
      Colour.isColour false colour = true ∧ theme.Offers category colour) ∧
    ∀ colour, theme.OverriddenBy category colour →
      theme.resolveColour category featureClass = some colour ∧
        theme.resolveFallbackColour category = some colour := by
  have checked := offersColours_ofJson built
  have drawn := palette_drawnFrom given category
  refine ⟨by cases category <;> rfl,
    offers_of_behind_override checked (drawn.colour _ featureClass),
    offers_of_behind_override checked drawn.fallback, fun colour overridden => ?_⟩
  have inForce : theme.overrideColour (theme.inheriting category) = some colour := by
    rw [overrideColour_inheriting]
    exact (overrideColour_eq_some_iff checked).mpr overridden
  simp [resolveColour, resolveFallbackColour, inForce]

/-! ### A theme whose land is overridden -/

def overriddenLand : Theme Rat :=
  { Theme.plain "Overridden land" Preset.Parchment.colours with
    land := some { useOverrideColour := true, overrideColour := "#abc" } }

def overriddenLandDescription : Json Rat :=
  .object [
    ("name", .text "Overridden land"),
    ("colors", Preset.Parchment.colours.toJson),
    ("land", .object [("use_override_color", .bool true), ("override_color", "#abc")])]

theorem overriddenLand_read : ofJson overriddenLandDescription = .ok overriddenLand := by
  with_unfolding_all rfl

theorem parchment_given : (Preset.Parchment.colours : ThemeColours Rat).Given where
  land := rfl
  landuse := rfl
  waterFill := rfl
  waterLine := rfl
  road := rfl
  tunnel := by simp [Preset.Parchment.colours]
  bridge := by simp [Preset.Parchment.colours]
  building := rfl

theorem overriddenLand_resolved : ofJson overriddenLandDescription = .ok overriddenLand ∧
    overriddenLand.colours.Given ∧ overriddenLand.OverriddenBy .land "#abc" ∧
    overriddenLand.resolveColour .land "no such class" = some "#abc" ∧
    ∃ colour, overriddenLand.resolveColour .tunnel "no such class" = some colour ∧
      Colour.isColour false colour = true ∧ overriddenLand.Offers .tunnel colour := by
  have overridden : overriddenLand.OverriddenBy .land "#abc" := ⟨_, rfl, rfl, rfl⟩
  obtain ⟨_, _, _, override⟩ :=
    every_class_resolved overriddenLand_read parchment_given .land "no such class"
  obtain ⟨_, tunnel, _, _⟩ :=
    every_class_resolved overriddenLand_read parchment_given .tunnel "no such class"
  exact ⟨overriddenLand_read, parchment_given, overridden, (override "#abc" overridden).1, tunnel⟩

end Theme

end MapStyle
