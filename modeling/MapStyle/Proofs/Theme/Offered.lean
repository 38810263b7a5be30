import MapStyle.Proofs.Theme.Checked
import MapStyle.Theme.Category

/-!
# The colours that a theme offers

Every colour with which a category can be painted stands in the theme itself: as an override that
is switched on, in a table of classes, or as the colour of the classes without one. Whichever of
them is given is a colour text, because the reader of the theme has checked it.
-/

namespace MapStyle

set_option autoImplicit false

variable {F : Type}

namespace Colour

/-- Nothing but colour texts is given. -/
def AllColours (colours : List (Option String)) : Prop :=
  ∀ colour ∈ colours, ∀ text ∈ colour, isColour false text = true

@[simp] theorem allColours_nil : AllColours [] := by
  simp [AllColours]

@[simp] theorem allColours_cons {colour : Option String} {rest : List (Option String)} :
    AllColours (colour :: rest) ↔
      (∀ text ∈ colour, isColour false text = true) ∧ AllColours rest :=
  List.forall_mem_cons

/-- A colour text is not empty. -/
theorem isEmpty_of_isColour {text : String} (colour : isColour false text = true) :
    text.isEmpty = false := by
  cases empty : text.isEmpty with
  | false => rfl
  | true =>
      rw [String.isEmpty_iff.mp empty] at colour
      exact absurd colour (by decide)

theorem isColour_of_hexOnly {text : String} (hexadecimal : isColour true text = true) :
    isColour false text = true := by
  simp_all [isColour]

end Colour

open Colour (AllColours)

theorem givenColour?_of_isColour {text : String} (colour : Colour.isColour false text = true) :
    givenColour? (some text) = some text := by
  simp [givenColour?, Option.filter, Colour.isEmpty_of_isColour colour]

theorem eq_some_of_givenColour? {colour : Option String} {text : String}
    (given : givenColour? colour = some text) : colour = some text :=
  (Option.filter_eq_some_iff.mp given).1

/-! ### What is offered -/

def ClassColours.offered (colours : ClassColours) : List (Option String) :=
  colours.fallback :: colours.classes.map Prod.snd

def RoadVariantColours.offered (colours : RoadVariantColours) : List (Option String) :=
  colours.fallback :: colours.classes.map Prod.snd

def RoadColours.offered (colours : RoadColours) : List (Option String) :=
  [colours.other, colours.motorway, colours.trunk, colours.primary, colours.secondary,
    colours.tertiary, colours.residential, colours.service]

def BuildingColours.offered (colours : BuildingColours) : List (Option String) :=
  [colours.fill, colours.fallback, colours.short, colours.medium, colours.tall,
    colours.skyscraper, colours.supertall, colours.megatall]

/-- The colours that stand under a category. Tunnels and bridges without colours of their own have
those of roads on the surface. -/
def ThemeColours.offered (colours : ThemeColours F) : Category → List (Option String)
  | .land => colours.land.offered
  | .landuse => colours.landuse.offered
  | .water => colours.water.fill :: colours.water.fallback :: colours.water.classes.map Prod.snd
  | .waterway => colours.water.line :: colours.water.fallback :: colours.water.classes.map Prod.snd
  | .road => colours.road.offered
  | .tunnel => (colours.road.tunnel.map RoadVariantColours.offered).getD colours.road.offered
  | .bridge => (colours.road.bridge.map RoadVariantColours.offered).getD colours.road.offered
  | .building => colours.building.offered

namespace Theme

/-- An override of a category is switched on, and it has a colour. -/
def OverriddenBy (theme : Theme F) (category : Category) (colour : String) : Prop :=
  match category with
  | .land => ∃ config ∈ theme.land,
      config.useOverrideColour = true ∧ config.overrideColour = some colour
  | .landuse => ∃ config ∈ theme.landuse,
      config.useOverrideColour = true ∧ config.overrideColour = some colour
  | .water => ∃ config ∈ theme.water,
      config.useOverrideColour = true ∧ config.overrideColour = some colour
  | .waterway => ∃ config ∈ theme.water,
      config.useOverrideColourWaterway = true ∧ config.overrideColourWaterway = some colour
  | _ => False

/-- A colour of the theme's own for a category. -/
def Offers (theme : Theme F) (category : Category) (colour : String) : Prop :=
  theme.OverriddenBy category colour ∨ some colour ∈ theme.colours.offered category

end Theme

/-! ### What the reader has checked -/

namespace Description

variable {description : Description F} {key setting area : String}

theorem ensures_colour : Ensures (fun found => ∀ text ∈ found, Colour.isColour false text = true)
    (description.colour key setting false) := by
  unfold colour
  exact ensures_setting (by simp) Colour.ensures_check

theorem ensures_mandatoryColour :
    Ensures (fun found => ∀ text ∈ found, Colour.isColour false text = true)
      (description.mandatoryColour key setting false) := by
  unfold mandatoryColour
  exact ensures_mandatory Colour.ensures_check

theorem ensures_classColours : Ensures (fun table => AllColours (table.map Prod.snd))
    (description.classColours key area) := by
  unfold classColours
  refine ensures_setting (by simp) fun value => ?_
  simp only [AllColours, List.forall_mem_map]
  exact ensures_readTable (fun _ => Colour.ensures_check) value

end Description

open Description

theorem ClassColours.ensures_read (description : Description F) :
    Ensures (fun colours : ClassColours => AllColours colours.offered)
      (ClassColours.read description) := by
  unfold ClassColours.read
  refine Ensures.andThen ensures_mandatoryColour fun _ fallback => ?_
  refine Ensures.andThen ensures_classColours fun _ classes => ?_
  exact Ensures.pure_iff.mpr (Colour.allColours_cons.mpr ⟨fallback, classes⟩)

theorem RoadVariantColours.ensures_read (description : Description F) :
    Ensures (fun colours : RoadVariantColours => AllColours colours.offered)
      (RoadVariantColours.read description) := by
  unfold RoadVariantColours.read
  refine Ensures.andThen ensures_mandatoryColour fun _ fallback => ?_
  apply Ensures.bind
  intro _ _
  refine Ensures.andThen ensures_classColours fun _ classes => ?_
  exact Ensures.pure_iff.mpr (Colour.allColours_cons.mpr ⟨fallback, classes⟩)

theorem WaterColours.ensures_read (description : Description F) :
    Ensures (fun colours : WaterColours => AllColours
      (colours.fill :: colours.line :: colours.fallback :: colours.classes.map Prod.snd))
      (WaterColours.read description) := by
  unfold WaterColours.read
  have hexadecimal : Ensures (fun found => ∀ text ∈ found, Colour.isColour false text = true)
      (description.mandatoryColour "fill" "water.fill" true) := by
    unfold mandatoryColour
    exact (ensures_mandatory Colour.ensures_check).mono fun _ checked text given =>
      Colour.isColour_of_hexOnly (checked text given)
  refine Ensures.andThen hexadecimal fun _ fill => ?_
  refine Ensures.andThen ensures_mandatoryColour fun _ line => ?_
  refine Ensures.andThen ensures_colour fun _ fallback => ?_
  refine Ensures.andThen ensures_classColours fun _ classes => ?_
  refine Ensures.pure_iff.mpr ?_
  simp only [Colour.allColours_cons]
  exact ⟨fill, line, fallback, classes⟩

theorem BuildingColours.ensures_read (description : Description F) :
    Ensures (fun colours : BuildingColours => AllColours colours.offered)
      (BuildingColours.read description) := by
  unfold BuildingColours.read
  refine Ensures.andThen ensures_mandatoryColour fun _ fill => ?_
  apply Ensures.bind
  intro _ _
  refine Ensures.andThen ensures_colour fun _ short => ?_
  refine Ensures.andThen ensures_colour fun _ medium => ?_
  refine Ensures.andThen ensures_colour fun _ tall => ?_
  refine Ensures.andThen ensures_colour fun _ skyscraper => ?_
  refine Ensures.andThen ensures_colour fun _ supertall => ?_
  refine Ensures.andThen ensures_colour fun _ megatall => ?_
  refine Ensures.andThen ensures_colour fun _ fallback => ?_
  refine Ensures.pure_iff.mpr ?_
  simp only [BuildingColours.offered, Colour.allColours_cons, Colour.allColours_nil, and_true]
  exact ⟨fill, fallback, short, medium, tall, skyscraper, supertall, megatall⟩

/-- The colours of roads on the surface, of tunnels and of bridges. -/
structure RoadColours.Checked (colours : RoadColours) : Prop where
  surface : AllColours colours.offered
  tunnel : ∀ variant ∈ colours.tunnel, AllColours variant.offered
  bridge : ∀ variant ∈ colours.bridge, AllColours variant.offered

theorem RoadColours.ensures_read (description : Description F) :
    Ensures RoadColours.Checked (RoadColours.read description) := by
  unfold RoadColours.read
  refine Ensures.andThen (ensures_partOrOpen RoadVariantColours.ensures_read) fun _ tunnel => ?_
  refine Ensures.andThen (ensures_partOrOpen RoadVariantColours.ensures_read) fun _ bridge => ?_
  refine Ensures.andThen ensures_mandatoryColour fun _ motorway => ?_
  refine Ensures.andThen ensures_mandatoryColour fun _ trunk => ?_
  refine Ensures.andThen ensures_mandatoryColour fun _ primary => ?_
  refine Ensures.andThen ensures_mandatoryColour fun _ secondary => ?_
  refine Ensures.andThen ensures_mandatoryColour fun _ tertiary => ?_
  refine Ensures.andThen ensures_mandatoryColour fun _ residential => ?_
  refine Ensures.andThen ensures_mandatoryColour fun _ service => ?_
  refine Ensures.andThen ensures_mandatoryColour fun _ other => ?_
  iterate 3 refine Ensures.bind fun _ _ => ?_
  refine Ensures.pure_iff.mpr ⟨?_, tunnel, bridge⟩
  simp only [RoadColours.offered, Colour.allColours_cons, Colour.allColours_nil, and_true]
  exact ⟨other, motorway, trunk, primary, secondary, tertiary, residential, service⟩

theorem RoadColours.Checked.variant {colours : RoadColours} {own : Option RoadVariantColours}
    (checked : colours.Checked) (ownChecked : ∀ variant ∈ own, AllColours variant.offered) :
    AllColours ((own.map RoadVariantColours.offered).getD colours.offered) := by
  cases own with
  | none => exact checked.surface
  | some variant => exact ownChecked variant rfl

variable [Arithmetic F]

theorem ThemeColours.ensures_read (description : Description F) :
    Ensures (fun colours : ThemeColours F => ∀ category, AllColours (colours.offered category))
      (ThemeColours.read description) := by
  unfold ThemeColours.read
  refine Ensures.andThen (ensures_mandatoryPart ClassColours.ensures_read) fun _ land => ?_
  refine Ensures.andThen (ensures_mandatoryPart ClassColours.ensures_read) fun _ landuse => ?_
  refine Ensures.andThen (ensures_mandatoryPart WaterColours.ensures_read) fun _ water => ?_
  apply Ensures.bind
  intro _ _
  refine Ensures.andThen (ensures_mandatoryPart RoadColours.ensures_read) fun _ road => ?_
  refine Ensures.andThen (ensures_mandatoryPart BuildingColours.ensures_read) fun _ building => ?_
  iterate 4 refine Ensures.bind fun _ _ => ?_
  refine Ensures.pure_iff.mpr ?_
  simp only [Colour.allColours_cons] at water
  obtain ⟨fill, line, fallback, classes⟩ := water
  intro category
  cases category with
  | land => exact land
  | landuse => exact landuse
  | water => exact Colour.allColours_cons.mpr ⟨fill, Colour.allColours_cons.mpr ⟨fallback, classes⟩⟩
  | waterway =>
      exact Colour.allColours_cons.mpr ⟨line, Colour.allColours_cons.mpr ⟨fallback, classes⟩⟩
  | road => exact road.surface
  | tunnel => exact road.variant road.tunnel
  | bridge => exact road.variant road.bridge
  | building => exact building

theorem LandConfig.ensures_read (description : Description F) :
    Ensures (fun config : LandConfig =>
      ∀ text ∈ config.overrideColour, Colour.isColour false text = true)
      (LandConfig.read description) := by
  unfold LandConfig.read
  iterate 2 refine Ensures.bind fun _ _ => ?_
  exact Ensures.andThen ensures_colour fun _ override => Ensures.pure_iff.mpr override

theorem WaterConfig.ensures_read (description : Description F) :
    Ensures (fun config : WaterConfig => AllColours
      [config.overrideColour, config.overrideColourWaterway])
      (WaterConfig.read description) := by
  unfold WaterConfig.read
  iterate 4 refine Ensures.bind fun _ _ => ?_
  refine Ensures.andThen ensures_colour fun _ area => ?_
  refine Ensures.andThen ensures_colour fun _ waterway => ?_
  refine Ensures.pure_iff.mpr ?_
  simp only [Colour.allColours_cons, Colour.allColours_nil, and_true]
  exact ⟨area, waterway⟩

namespace Theme

/-- Every colour that a theme offers is a colour text. -/
def OffersColours (theme : Theme F) : Prop :=
  ∀ category colour, theme.Offers category colour → Colour.isColour false colour = true

theorem ensures_offersColours (description : Description F) :
    Ensures OffersColours (read description) := by
  unfold read
  refine Ensures.andThen (ensures_mandatoryPart ThemeColours.ensures_read) fun _ offered => ?_
  iterate 18 refine Ensures.bind fun _ _ => ?_
  refine Ensures.andThen (ensures_partOrOpen LandConfig.ensures_read) fun _ land => ?_
  refine Ensures.andThen (ensures_partOrOpen LandConfig.ensures_read) fun _ landuse => ?_
  refine Ensures.andThen (ensures_partOrOpen WaterConfig.ensures_read) fun _ water => ?_
  apply Ensures.bind
  intro _ _
  refine Ensures.pure_iff.mpr ?_
  rintro category colour (overridden | member)
  · cases category with
    | land =>
        obtain ⟨config, given, _, isColour⟩ := overridden
        exact land config given colour isColour
    | landuse =>
        obtain ⟨config, given, _, isColour⟩ := overridden
        exact landuse config given colour isColour
    | water =>
        obtain ⟨config, given, _, isColour⟩ := overridden
        exact water config given _ (by simp) colour isColour
    | waterway =>
        obtain ⟨config, given, _, isColour⟩ := overridden
        exact water config given _ (List.mem_cons_of_mem _ List.mem_cons_self) colour isColour
    | road | tunnel | bridge | building => exact overridden.elim
  · exact offered category _ member colour rfl

theorem offersColours_ofJson {value : Json F} {theme : Theme F}
    (built : ofJson value = .ok theme) : theme.OffersColours :=
  Ensures.bind (fun description _ => ensures_offersColours description) theme built

end Theme

end MapStyle
