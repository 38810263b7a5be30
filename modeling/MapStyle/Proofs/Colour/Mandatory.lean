import MapStyle.Proofs.Colour.Resolved
import MapStyle.Proofs.Theme.Checked
import MapStyle.Theme.Places

/-!
# Colours without a standard value

A part of a theme is refused if one of its mandatory colours is missing or is no colour. A colour
that is left open passes the check, however: it is `null` in the part that was read exactly if it was
given so. A theme that leaves none of them open resolves a colour for every class.
-/

namespace MapStyle

set_option autoImplicit false

variable {F : Type}

/-! ### Parts of a description -/

/-- What a value has under one key after the other. -/
def Json.at? : Json F → List String → Option (Json F)
  | value, [] => some value
  | .object entries, key :: rest => (entries.lookup key).bind fun value => value.at? rest
  | _, _ :: _ => none

theorem Json.at?_append (value : Json F) (path rest : List String) :
    value.at? (path ++ rest) = (value.at? path).bind fun found => found.at? rest := by
  induction path generalizing value with
  | nil => cases value <;> rfl
  | cons key path ih =>
      cases value with
      | object entries =>
          simp only [List.cons_append, Json.at?]
          cases entries.lookup key with
          | none => rfl
          | some value => exact ih value
      | _ => rfl

namespace Description

variable {α : Type} {description : Description F} {key : String} {read : Description F → Result F α}

/-- A part was described by an object under its key. -/
def ReadUnder (description : Description F) (key : String) (read : Description F → Result F α)
    (part : α) : Prop :=
  ∃ entries, description.get? key = some (.object entries) ∧ read ⟨entries⟩ = .ok part

/-- A part was described by an object that stands somewhere inside a value. -/
def ReadAt (value : Json F) (path : List String) (read : Description F → Result F α) (part : α) :
    Prop :=
  ∃ entries, value.at? path = some (.object entries) ∧ read ⟨entries⟩ = .ok part

/-- The parts of a part stand one key further inside. -/
theorem ReadAt.under {value : Json F} {path : List String} {whole : α}
    (found : ReadAt value path read whole) {β : Type} {readPart : Description F → Result F β}
    {part : β} (under : ∀ description, read description = .ok whole →
      description.ReadUnder key readPart part) :
    ReadAt value (path ++ [key]) readPart part := by
  obtain ⟨entries, atPath, wholeRead⟩ := found
  obtain ⟨partEntries, atKey, partRead⟩ := under ⟨entries⟩ wholeRead
  refine ⟨partEntries, ?_, partRead⟩
  have inside : entries.lookup key = some (.object partEntries) := atKey
  rw [Json.at?_append, atPath, Option.bind_some, Json.at?, inside]
  rfl

/-- Only an object describes a part. -/
theorem eq_object_of_ofJson {part : String} {value : Json F}
    (built : ofJson part value = .ok description) : value = .object description.entries := by
  unfold ofJson at built
  split at built
  · cases built
    rfl
  · cases built

theorem ensures_readUnder {value : Json F} (given : description.get? key = some value) :
    Ensures (description.ReadUnder key read) (do read (← ofJson key value)) := by
  intro part found
  obtain ⟨described, isObject, partFound⟩ := bind_eq_ok.mp found
  rw [eq_object_of_ofJson isObject] at given
  exact ⟨_, given, partFound⟩

theorem ensures_mandatoryPart_readUnder :
    Ensures (description.ReadUnder key read) (description.mandatoryPart key read) := by
  unfold mandatoryPart mandatory
  split
  · rename_i value given
    exact ensures_readUnder given
  · exact Ensures.error

theorem ensures_partOrOpen_readUnder :
    Ensures (fun found => ∀ part ∈ found, description.ReadUnder key read part)
      (description.partOrOpen key none read) := by
  unfold partOrOpen setting
  split
  · rename_i value given
    unfold orOpen
    split
    · simp
    · intro found same
      obtain ⟨part, partFound, rfl⟩ := map_eq_ok.mp same
      simpa using ensures_readUnder given part partFound
  · simp

end Description

/-! ### Parts with mandatory colours -/

open Colour (ReadAs ensures_readAs)

theorem Description.ensures_given (description : Description F) (key setting : String)
    (hexOnly : Bool) :
    Ensures (ReadAs hexOnly (description.get? key))
      (description.mandatoryColour key setting hexOnly) := by
  unfold mandatoryColour mandatory
  split
  · rename_i value given
    rw [given]
    exact ensures_readAs value
  · exact Ensures.error

/-- The mandatory colours of roads. -/
def RoadColours.mandatory (colours : RoadColours) : List (Option String) :=
  [colours.motorway, colours.trunk, colours.primary, colours.secondary, colours.tertiary,
    colours.residential, colours.service, colours.other, colours.casing]

/-- The parts of a theme that have mandatory colours. -/
inductive ColourPart where
  | classes
  | water
  | roadVariant
  | roads
  | buildings
  | theme
  | densityRange
  | densities

namespace ColourPart

/-- The keys of the mandatory colours, each with whether it takes only a hexadecimal colour. -/
def mandatory : ColourPart → List (String × Bool)
  | .classes | .roadVariant => [("default", false)]
  | .water => [("fill", true), ("line", false)]
  | .roads => ["motorway", "trunk", "primary", "secondary", "tertiary", "residential", "service",
      "other", "casing"].map fun key => (key, false)
  | .buildings => [("fill", false), ("outline", false)]
  | .theme => [("background", false), ("path", false), ("railway", false)]
  | .densityRange => [("fill_color", true)]
  | .densities => [("default_fill_color", true)]

variable [Arithmetic F]

/-- The mandatory colours of the part that a description is read as, in the same order. -/
def read (part : ColourPart) (description : Description F) : Result F (List (Option String)) :=
  match part with
  | .classes => (ClassColours.read description).map fun colours => [colours.fallback]
  | .water => (WaterColours.read description).map fun colours => [colours.fill, colours.line]
  | .roadVariant => (RoadVariantColours.read description).map fun colours => [colours.fallback]
  | .roads => (RoadColours.read description).map RoadColours.mandatory
  | .buildings => (BuildingColours.read description).map fun colours =>
      [colours.fill, colours.outline]
  | .theme => (ThemeColours.read description).map fun colours =>
      [colours.background, colours.path, colours.railway]
  | .densityRange => (DensityRange.read description).map fun range => [range.fillColour]
  | .densities => (DensityColours.read description).map fun colours => [colours.fallbackFill]

/-- The colours were read as the description gives them. -/
def ReadFrom (description : Description F) (part : ColourPart) (colours : List (Option String)) :
    Prop :=
  List.Forall₂ (fun entry => ReadAs entry.2 (description.get? entry.1)) part.mandatory colours

/-- Every part that is read has its mandatory colours as they were given. -/
theorem ensures_read (part : ColourPart) (description : Description F) :
    Ensures (part.ReadFrom description) (part.read description) := by
  have colour := description.ensures_given
  cases part with
  | classes =>
      apply Ensures.map
      refine Ensures.andThen (colour _ _ _) fun _ fallback => ?_
      refine Ensures.bind fun _ _ => ?_
      exact Ensures.pure_iff.mpr (.cons fallback .nil)
  | water =>
      apply Ensures.map
      refine Ensures.andThen (colour _ _ _) fun _ fill => ?_
      refine Ensures.andThen (colour _ _ _) fun _ line => ?_
      iterate 2 refine Ensures.bind fun _ _ => ?_
      exact Ensures.pure_iff.mpr (.cons fill (.cons line .nil))
  | roadVariant =>
      apply Ensures.map
      refine Ensures.andThen (colour _ _ _) fun _ fallback => ?_
      iterate 2 refine Ensures.bind fun _ _ => ?_
      exact Ensures.pure_iff.mpr (.cons fallback .nil)
  | roads =>
      apply Ensures.map
      iterate 2 refine Ensures.bind fun _ _ => ?_
      refine Ensures.andThen (colour _ _ _) fun _ motorway => ?_
      refine Ensures.andThen (colour _ _ _) fun _ trunk => ?_
      refine Ensures.andThen (colour _ _ _) fun _ primary => ?_
      refine Ensures.andThen (colour _ _ _) fun _ secondary => ?_
      refine Ensures.andThen (colour _ _ _) fun _ tertiary => ?_
      refine Ensures.andThen (colour _ _ _) fun _ residential => ?_
      refine Ensures.andThen (colour _ _ _) fun _ service => ?_
      refine Ensures.andThen (colour _ _ _) fun _ other => ?_
      refine Ensures.andThen (colour _ _ _) fun _ casing => ?_
      iterate 2 refine Ensures.bind fun _ _ => ?_
      exact Ensures.pure_iff.mpr (.cons motorway (.cons trunk (.cons primary (.cons secondary
        (.cons tertiary (.cons residential (.cons service (.cons other (.cons casing .nil)))))))))
  | buildings =>
      apply Ensures.map
      refine Ensures.andThen (colour _ _ _) fun _ fill => ?_
      refine Ensures.andThen (colour _ _ _) fun _ outline => ?_
      iterate 7 refine Ensures.bind fun _ _ => ?_
      exact Ensures.pure_iff.mpr (.cons fill (.cons outline .nil))
  | theme =>
      apply Ensures.map
      iterate 7 refine Ensures.bind fun _ _ => ?_
      refine Ensures.andThen (colour _ _ _) fun _ background => ?_
      refine Ensures.andThen (colour _ _ _) fun _ path => ?_
      refine Ensures.andThen (colour _ _ _) fun _ railway => ?_
      exact Ensures.pure_iff.mpr (.cons background (.cons path (.cons railway .nil)))
  | densityRange =>
      apply Ensures.map
      refine Ensures.bind fun _ _ => ?_
      refine Ensures.andThen (colour _ _ _) fun _ fill => ?_
      refine Ensures.bind fun _ _ => ?_
      exact Ensures.pure_iff.mpr (.cons fill .nil)
  | densities =>
      apply Ensures.map
      refine Ensures.bind fun _ _ => ?_
      refine Ensures.andThen (colour _ _ _) fun _ fill => ?_
      refine Ensures.bind fun _ _ => ?_
      exact Ensures.pure_iff.mpr (.cons fill .nil)

end ColourPart

/-! ### The parts of a whole theme -/

/-- A part of a theme: where it is described, and its mandatory colours. -/
structure ColourPlace where
  path : List String
  part : ColourPart
  colours : List (Option String)

/-- The parts that a theme can have. -/
def ColourPart.paths : List (List String × ColourPart) :=
  [
    (["colors"], .theme), (["colors", "land"], .classes), (["colors", "landuse"], .classes),
    (["colors", "water"], .water), (["colors", "road"], .roads),
    (["colors", "building"], .buildings), (["colors", "road", "tunnel"], .roadVariant),
    (["colors", "road", "bridge"], .roadVariant)
  ]

/-- The parts that a theme has. Tunnels and bridges need none of their own. -/
def ThemeColours.places (colours : ThemeColours F) : List ColourPlace :=
  [
    ⟨["colors"], .theme, [colours.background, colours.path, colours.railway]⟩,
    ⟨["colors", "land"], .classes, [colours.land.fallback]⟩,
    ⟨["colors", "landuse"], .classes, [colours.landuse.fallback]⟩,
    ⟨["colors", "water"], .water, [colours.water.fill, colours.water.line]⟩,
    ⟨["colors", "road"], .roads, colours.road.mandatory⟩,
    ⟨["colors", "building"], .buildings, [colours.building.fill, colours.building.outline]⟩
  ] ++
  (colours.road.tunnel.toList.map fun variant =>
    ⟨["colors", "road", "tunnel"], .roadVariant, [variant.fallback]⟩) ++
  (colours.road.bridge.toList.map fun variant =>
    ⟨["colors", "road", "bridge"], .roadVariant, [variant.fallback]⟩)

section Themes

open Description (ReadAt ensures_mandatoryPart_readUnder ensures_partOrOpen_readUnder)

variable [Arithmetic F] {value : Json F} {theme : Theme F}

omit [Arithmetic F] in
theorem RoadColours.ensures_variants (description : Description F) :
    Ensures (fun colours : RoadColours =>
      (∀ variant ∈ colours.tunnel, description.ReadUnder "tunnel" RoadVariantColours.read variant) ∧
      ∀ variant ∈ colours.bridge, description.ReadUnder "bridge" RoadVariantColours.read variant)
      (RoadColours.read description) := by
  refine Ensures.andThen ensures_partOrOpen_readUnder fun _ tunnel => ?_
  refine Ensures.andThen ensures_partOrOpen_readUnder fun _ bridge => ?_
  iterate 11 refine Ensures.bind fun _ _ => ?_
  exact Ensures.pure_iff.mpr ⟨tunnel, bridge⟩

/-- The parts of the colours of a theme were read from their own descriptions. -/
structure ThemeColours.PartsRead (description : Description F) (colours : ThemeColours F) :
    Prop where
  land : description.ReadUnder "land" ClassColours.read colours.land
  landuse : description.ReadUnder "landuse" ClassColours.read colours.landuse
  water : description.ReadUnder "water" WaterColours.read colours.water
  road : description.ReadUnder "road" RoadColours.read colours.road
  building : description.ReadUnder "building" BuildingColours.read colours.building

theorem ThemeColours.ensures_partsRead (description : Description F) :
    Ensures (ThemeColours.PartsRead description) (ThemeColours.read description) := by
  refine Ensures.andThen ensures_mandatoryPart_readUnder fun _ land => ?_
  refine Ensures.andThen ensures_mandatoryPart_readUnder fun _ landuse => ?_
  refine Ensures.andThen ensures_mandatoryPart_readUnder fun _ water => ?_
  refine Ensures.bind fun _ _ => ?_
  refine Ensures.andThen ensures_mandatoryPart_readUnder fun _ road => ?_
  refine Ensures.andThen ensures_mandatoryPart_readUnder fun _ building => ?_
  iterate 4 refine Ensures.bind fun _ _ => ?_
  exact Ensures.pure_iff.mpr { land, landuse, water, road, building }

namespace Theme

theorem colours_readAt (built : ofJson value = .ok theme) :
    ReadAt value ["colors"] ThemeColours.read theme.colours := by
  have ensured : ∀ description : Description F,
      Ensures (fun theme => description.ReadUnder "colors" ThemeColours.read theme.colours)
        (read description) := by
    intro description
    refine Ensures.andThen ensures_mandatoryPart_readUnder fun _ colours => ?_
    iterate 22 refine Ensures.bind fun _ _ => ?_
    exact Ensures.pure_iff.mpr colours
  obtain ⟨description, isObject, themeRead⟩ := bind_eq_ok.mp built
  have whole : ReadAt value [] read theme :=
    ⟨_, congrArg some (Description.eq_object_of_ofJson isObject), themeRead⟩
  exact whole.under fun description found => ensured description theme found

/-- Every part that a theme has was read from the object under its keys. -/
theorem places_readAt (built : ofJson value = .ok theme) :
    ∀ place ∈ theme.colours.places, ReadAt value place.path place.part.read place.colours := by
  have colours := colours_readAt built
  have parts {description : Description F}
      (found : ThemeColours.read description = .ok theme.colours) :=
    ThemeColours.ensures_partsRead description theme.colours found
  have road := colours.under fun _ found => (parts found).road
  have readMap {path : List String} {α : Type} {read : Description F → Result F α} {part : α}
      (change : α → List (Option String)) (found : ReadAt value path read part) :
      ReadAt value path (fun description => (read description).map change) (change part) := by
    obtain ⟨entries, atPath, partRead⟩ := found
    exact ⟨entries, atPath, map_eq_ok.mpr ⟨part, partRead, rfl⟩⟩
  simp only [ThemeColours.places, List.cons_append, List.nil_append, List.forall_mem_cons,
    List.forall_mem_append, List.forall_mem_map, Option.mem_toList]
  refine ⟨readMap _ colours, ?_, ?_, ?_, readMap _ road, ?_, ?_, ?_⟩
  · exact readMap _ (colours.under fun _ found => (parts found).land)
  · exact readMap _ (colours.under fun _ found => (parts found).landuse)
  · exact readMap _ (colours.under fun _ found => (parts found).water)
  · exact readMap _ (colours.under fun _ found => (parts found).building)
  · intro variant given
    exact readMap _ (road.under fun description found =>
      (RoadColours.ensures_variants description _ found).1 variant given)
  · intro variant given
    exact readMap _ (road.under fun description found =>
      (RoadColours.ensures_variants description _ found).2 variant given)

/-- A description leaves none of the mandatory colours of a theme open. -/
def NoneOpen (value : Json F) : Prop :=
  ∀ place ∈ ColourPart.paths, ∀ colour ∈ place.2.mandatory,
    value.at? (place.1 ++ [colour.1]) ≠ some .null

instance (found : Option (Json F)) : Decidable (found = some .null) :=
  match found with
  | some .null => isTrue rfl
  | none | some (.number _) | some (.text _) | some (.list _) | some (.object _) => isFalse nofun

instance (value : Json F) : Decidable (NoneOpen value) :=
  inferInstanceAs (Decidable (∀ place ∈ ColourPart.paths, _))

/-- Mandatory colours that are not left open are colours. -/
theorem places_held (built : ofJson value = .ok theme) (noneOpen : NoneOpen value) :
    ∀ place ∈ theme.colours.places,
      List.Forall₂ (fun entry colour => ∃ text, colour = some text ∧
        Colour.isColour entry.2 text = true) place.part.mandatory place.colours := by
  intro place member
  have known : (place.path, place.part) ∈ ColourPart.paths := by
    simp only [ThemeColours.places, List.mem_append, List.mem_map, List.mem_cons,
      List.not_mem_nil, or_false] at member
    obtain ((rfl | rfl | rfl | rfl | rfl | rfl) | ⟨_, _, rfl⟩) | ⟨_, _, rfl⟩ := member <;>
      simp [ColourPart.paths]
  obtain ⟨entries, atPath, partRead⟩ := places_readAt built place member
  have readFrom := place.part.ensures_read ⟨entries⟩ place.colours partRead
  have closed : ∀ colour ∈ place.part.mandatory,
      (Description.mk entries).get? colour.1 ≠ some .null := by
    intro colour inPart isNull
    apply noneOpen _ known colour inPart
    rw [Json.at?_append, atPath]
    show (entries.lookup colour.1).bind _ = _
    rw [show entries.lookup colour.1 = some .null from isNull]
    rfl
  refine List.Forall₂.imp ?_ ((List.forall₂_and_left _ _).mpr ⟨closed, readFrom⟩)
  rintro entry colour ⟨notNull, readAs⟩
  exact readAs.held notNull

theorem given_of_noneOpen (built : ofJson value = .ok theme) (noneOpen : NoneOpen value) :
    theme.colours.Given := by
  have held : ∀ place ∈ theme.colours.places, ∀ colour ∈ place.colours, colour.isSome := by
    intro place member
    have related := places_held built noneOpen place member
    generalize place.part.mandatory = entries, place.colours = colours at related ⊢
    induction related with
    | nil => simp
    | cons first _ ih =>
        obtain ⟨text, rfl, _⟩ := first
        exact List.forall_mem_cons.mpr ⟨rfl, ih⟩
  simp only [ThemeColours.places, RoadColours.mandatory, List.cons_append, List.nil_append,
    List.forall_mem_cons, List.forall_mem_append, List.forall_mem_map, Option.mem_toList] at held
  obtain ⟨_, ⟨land, _⟩, ⟨landuse, _⟩, ⟨waterFill, waterLine, _⟩, ⟨_, _, _, _, _, _, _, road, _⟩,
    ⟨building, _⟩, tunnel, bridge⟩ := held
  exact { land, landuse, waterFill, waterLine, road, building
          tunnel := fun variant own => (tunnel variant own).1
          bridge := fun variant own => (bridge variant own).1 }

/-- The check of mandatory colours: in every part that is read each of them is what it was given as,
a colour text that the check accepts, or `null`. If the description of a theme leaves none of them
open, all of them are colours, and a colour is resolved for every class of every category and for
unknown ones. -/
theorem mandatory_held_unless_null :
    (∀ (part : ColourPart) (description : Description F),
      Ensures (part.ReadFrom description) (part.read description)) ∧
    ∀ (value : Json F) (theme : Theme F), ofJson value = .ok theme → NoneOpen value →
      (∀ place ∈ theme.colours.places,
        List.Forall₂ (fun entry colour => ∃ text, colour = some text ∧
          Colour.isColour entry.2 text = true) place.part.mandatory place.colours) ∧
      ∀ category featureClass, (theme.resolveColour category featureClass).isSome ∧
        (theme.resolveFallbackColour category).isSome := by
  refine ⟨ColourPart.ensures_read, ?_⟩
  intro value theme built noneOpen
  refine ⟨places_held built noneOpen, ?_⟩
  intro category featureClass
  have drawn := palette_drawnFrom (given_of_noneOpen built noneOpen) category
  unfold resolveColour resolveFallbackColour
  rw [Option.isSome_or, Option.isSome_or, (drawn.colour _ featureClass).1, drawn.fallback.1,
    Bool.or_true]
  exact ⟨rfl, rfl⟩

theorem overriddenLand_held : ofJson overriddenLandDescription = .ok overriddenLand ∧
    NoneOpen overriddenLandDescription ∧
    (overriddenLand.resolveColour .water "spaceport").isSome := by
  have noneOpen : NoneOpen overriddenLandDescription := by decide +kernel
  obtain ⟨_, each⟩ := mandatory_held_unless_null (F := Rat)
  obtain ⟨_, resolved⟩ := each _ _ overriddenLand_read noneOpen
  exact ⟨overriddenLand_read, noneOpen, (resolved .water "spaceport").1⟩

/-! ### A theme that leaves a mandatory colour open -/

def nullLandColours : ThemeColours Rat :=
  { Preset.Parchment.colours with land := ⟨none, []⟩ }

def nullLandDescription : Json Rat :=
  .object [("name", .text "Null land"), ("colors", nullLandColours.toJson)]

/-- The theme is accepted, and nothing is resolved for its land. -/
theorem nullLand_unresolved :
    nullLandDescription.at? ["colors", "land", "default"] = some .null ∧
    ofJson nullLandDescription = .ok (.plain "Null land" nullLandColours) ∧
    (Theme.plain "Null land" nullLandColours).resolveColour .land "spaceport" = none ∧
    (Theme.plain "Null land" nullLandColours).resolveFallbackColour .land = none :=
  ⟨rfl, by with_unfolding_all rfl, rfl, rfl⟩

end Theme

end Themes

end MapStyle
