import MapStyle.Presets
import MapStyle.Proofs.Number.Decimals
import MapStyle.Proofs.Theme.Checked
import MapStyle.Proofs.Zoom.Normalized

/-!
# Opacities that were read

An opacity that has passed the check of its setting is a number from zero to one, and so are the
standard ones. Of the opacities of a theme that was read, those of areas, tunnels, boundaries,
labels, ocean depth, hill shading and places have passed it; those of contours, ice, the grid and
airports have not, and neither have those of country boundaries at single zooms.
-/

namespace MapStyle

set_option autoImplicit false

variable {F : Type} [Arithmetic F]

/-! ### Numbers from zero to one -/

namespace Number

/-- A number from zero to one. -/
def WithinUnit (number : Number F) : Prop :=
  ∃ value : Rat, number.rational? = some value ∧ 0 ≤ value ∧ value ≤ 1

variable [OrderedArithmetic F] [DecimalArithmetic F]

/-- A decimal from zero to one is read as a number from zero to one. -/
theorem withinUnit_ofScientific {mantissa places : Nat} (notAbove : mantissa ≤ 10 ^ places) :
    (OfScientific.ofScientific mantissa true places : Number F).WithinUnit := by
  obtain ⟨value, isPlace, below⟩ := DecimalArithmetic.notAbove (F := F) mantissa places 0
    (Nat.zero_le _) (by simpa using notAbove)
  obtain ⟨place, alsoPlace, above⟩ := DecimalArithmetic.notBelow (F := F) mantissa places
  cases isPlace.symm.trans alsoPlace
  refine ⟨value, ?_, Place.ofRat_le_ofRat.mp above, by simpa using below⟩
  exact (OrderedArithmetic.rational?_eq_some_iff _ value).mpr isPlace

/-- A number between the numbers zero and one has a value between their values. -/
theorem withinUnit_of_le {number : Number F} (above : (0.0 : Number F).le number = true)
    (below : number.le 1.0 = true) : number.WithinUnit := by
  obtain ⟨zero, zeroFinite, notNegative, _⟩ :=
    withinUnit_ofScientific (F := F) (show 0 ≤ 10 ^ 1 by decide)
  obtain ⟨one, oneFinite, _, notMore⟩ :=
    withinUnit_ofScientific (F := F) (show 10 ≤ 10 ^ 1 by decide)
  obtain ⟨_, place, isZero, isPlace, notBelow⟩ := le_iff_places.mp above
  obtain ⟨_, _, alsoPlace, isOne, notAbove⟩ := le_iff_places.mp below
  cases isPlace.symm.trans alsoPlace
  cases isZero.symm.trans (place?_of_rational? zeroFinite)
  cases isOne.symm.trans (place?_of_rational? oneFinite)
  have negativeBelow : Place.ofRat (-1) < place :=
    (Place.ofRat_lt_ofRat.mpr (by linarith)).trans_le notBelow
  obtain ⟨value, rfl⟩ := Place.exists_rat negativeBelow notAbove
  exact ⟨value, rational?_of_place? isPlace,
    notNegative.trans (Place.ofRat_le_ofRat.mp notBelow),
    (Place.ofRat_le_ofRat.mp notAbove).trans notMore⟩

end Number

section Checked

variable [OrderedArithmetic F] [DecimalArithmetic F] {setting : String}

/-- An opacity that is set is a number from zero to one. -/
def OpacityWithin (opacity : Option (Number F)) : Prop :=
  ∀ number ∈ opacity, number.WithinUnit

theorem opacityWithin_ofScientific {mantissa places : Nat} (notAbove : mantissa ≤ 10 ^ places) :
    OpacityWithin (some (OfScientific.ofScientific mantissa true places : Number F)) := by
  rintro number ⟨⟩
  exact Number.withinUnit_ofScientific notAbove

/-- An opacity that has passed the check of its setting lies between zero and one. -/
theorem opacityWithin_of_check {opacity : Option (Number F)} {result : Unit}
    (checked : checkOpacity setting opacity = .ok result) : OpacityWithin opacity := by
  intro number given
  rw [given, checkOpacity] at checked
  split_ifs at checked with between
  · rw [Bool.and_eq_true] at between
    exact Number.withinUnit_of_le between.1 between.2
  · cases checked

/-! ### Areas, boundaries and labels -/

/-- The opacity of country boundaries is checked where it is one number with a value. -/
structure BoundaryOpacities.WithinUnit (opacities : BoundaryOpacities F) : Prop where
  country : ∀ number value, opacities.country = .fixed number → number.rational? = some value →
    number.WithinUnit
  state : OpacityWithin opacities.state
  maritime : OpacityWithin opacities.maritime

namespace BoundaryOpacities

theorem withinUnit_of_checkCountry {country : CountryOpacity F} {result : Unit}
    (checked : country.check = .ok result) {number : Number F} {value : Rat}
    (isFixed : country = .fixed number) (isValue : number.rational? = some value) :
    number.WithinUnit := by
  subst isFixed
  obtain ⟨quantity, isQuantity, rest⟩ := bind_eq_ok.mp checked
  cases isFlag : number.isFlag with
  | true =>
      cases number with
      | flag isSet => cases isSet <;> exact ⟨_, rfl, by norm_num⟩
      | int value => cases isFlag
      | real value => cases isFlag
  | false =>
      have fits : (Json.number number).Fits :=
        Zoom.succeeds_quantity?_iff.mp (succeeds_iff.mpr ⟨quantity, lift_eq_ok.mp isQuantity⟩)
      have found : Zoom.quantity? (Json.number number) = .ok (some number) :=
        (Zoom.quantity?_eq_some_iff fits).mpr ⟨rfl, isFlag, value, isValue⟩
      cases found.symm.trans (lift_eq_ok.mp isQuantity)
      rw [if_pos Option.isSome_some] at rest
      exact opacityWithin_of_check rest number rfl

theorem withinUnit_standard : (standard : BoundaryOpacities F).WithinUnit where
  country := by
    rintro number value ⟨⟩ _
    exact Number.withinUnit_ofScientific (by decide)
  state := opacityWithin_ofScientific (by decide)
  maritime := opacityWithin_ofScientific (by decide)

theorem ensures_withinUnit (description : Description F) :
    Ensures WithinUnit (read description) := by
  unfold read
  iterate 3 refine Ensures.bind fun _ _ => ?_
  refine Ensures.bind fun _ country => Ensures.bind fun _ state => Ensures.bind fun _ maritime => ?_
  exact Ensures.pure_iff.mpr
    { country := fun _ _ => withinUnit_of_checkCountry country
      state := opacityWithin_of_check state
      maritime := opacityWithin_of_check maritime }

end BoundaryOpacities

structure LabelOpacities.WithinUnit (opacities : LabelOpacities F) : Prop where
  place : OpacityWithin opacities.place
  water : OpacityWithin opacities.water
  waterway : OpacityWithin opacities.waterway

structure ThemeOpacities.WithinUnit (opacities : ThemeOpacities F) : Prop where
  landcover : OpacityWithin opacities.landcover
  landuse : OpacityWithin opacities.landuse
  building : OpacityWithin opacities.building
  boundary : opacities.boundary.WithinUnit
  tunnel : OpacityWithin opacities.tunnel
  label : opacities.label.WithinUnit

namespace ThemeOpacities

theorem withinUnit_standard : (standard : ThemeOpacities F).WithinUnit where
  landcover := opacityWithin_ofScientific (by decide)
  landuse := opacityWithin_ofScientific (by decide)
  building := opacityWithin_ofScientific (by decide)
  boundary := BoundaryOpacities.withinUnit_standard
  tunnel := opacityWithin_ofScientific (by decide)
  label :=
    { place := opacityWithin_ofScientific (by decide)
      water := opacityWithin_ofScientific (by decide)
      waterway := opacityWithin_ofScientific (by decide) }

theorem ensures_withinUnit (description : Description F) :
    Ensures WithinUnit (read description) := by
  unfold read
  iterate 3 refine Ensures.bind fun _ _ => ?_
  refine Ensures.andThen (Description.ensures_part BoundaryOpacities.withinUnit_standard
    BoundaryOpacities.ensures_withinUnit) fun _ boundary => ?_
  iterate 2 refine Ensures.bind fun _ _ => ?_
  refine Ensures.bind fun _ landcover => Ensures.bind fun _ landuse =>
    Ensures.bind fun _ building => Ensures.bind fun _ tunnel => ?_
  refine Ensures.bind fun _ place => Ensures.bind fun _ water => Ensures.bind fun _ waterway => ?_
  exact Ensures.pure_iff.mpr
    { boundary
      landcover := opacityWithin_of_check landcover
      landuse := opacityWithin_of_check landuse
      building := opacityWithin_of_check building
      tunnel := opacityWithin_of_check tunnel
      label :=
        { place := opacityWithin_of_check place
          water := opacityWithin_of_check water
          waterway := opacityWithin_of_check waterway } }

end ThemeOpacities

structure RoadLabelColours.WithinUnit (colours : RoadLabelColours F) : Prop where
  major : OpacityWithin colours.major.opacity
  secondary : OpacityWithin colours.secondary.opacity
  tertiary : OpacityWithin colours.tertiary.opacity
  other : OpacityWithin colours.other.opacity

theorem RoadLabelTone.ensures_opacity (description : Description F) :
    Ensures (fun tone : RoadLabelTone F => OpacityWithin tone.opacity) (read description) := by
  unfold read
  iterate 2 refine Ensures.bind fun _ _ => ?_
  exact Ensures.bind fun _ checked => Ensures.pure_iff.mpr (opacityWithin_of_check checked)

theorem RoadLabelColours.ensures_withinUnit (description : Description F) :
    Ensures WithinUnit (read description) := by
  have tone (key : String) :
      Ensures (fun tone : RoadLabelTone F => OpacityWithin tone.opacity)
        (description.mandatoryPart key RoadLabelTone.read) :=
    Description.ensures_mandatoryPart RoadLabelTone.ensures_opacity
  unfold read
  refine (tone "major").andThen fun _ major => ?_
  refine (tone "secondary").andThen fun _ secondary => ?_
  refine (tone "tertiary").andThen fun _ tertiary => ?_
  refine (tone "other").andThen fun _ other => ?_
  exact Ensures.bind fun _ _ => Ensures.pure_iff.mpr ⟨major, secondary, tertiary, other⟩

theorem ThemeColours.ensures_withinUnit (description : Description F) :
    Ensures (fun colours : ThemeColours F => colours.label.road.WithinUnit) (read description) := by
  have label : Ensures (fun colours : LabelColours F => colours.road.WithinUnit)
      (description.mandatoryPart "label" LabelColours.read) := by
    apply Description.ensures_mandatoryPart
    intro given
    unfold LabelColours.read
    refine Ensures.bind fun _ _ => ?_
    refine Ensures.andThen (Description.ensures_mandatoryPart RoadLabelColours.ensures_withinUnit)
      fun _ road => ?_
    iterate 2 refine Ensures.bind fun _ _ => ?_
    exact Ensures.pure_iff.mpr road
  unfold read
  iterate 6 refine Ensures.bind fun _ _ => ?_
  refine label.andThen fun _ road => ?_
  iterate 3 refine Ensures.bind fun _ _ => ?_
  exact Ensures.pure_iff.mpr road

/-! ### Optional domains -/

structure BathymetryConfig.WithinUnit (config : BathymetryConfig F) : Prop where
  atMin : OpacityWithin config.opacity.atMin
  atMax : OpacityWithin config.opacity.atMax
  bands : ∀ table ∈ config.depthOpacities, ∀ entry ∈ table, OpacityWithin entry.2

theorem BathymetryConfig.ensures_withinUnit (description : Description F) :
    Ensures WithinUnit (read description) := by
  have band (name : String) (value : Json F) : Ensures OpacityWithin (do
      let found ← Description.orOpen (Description.readNumber "depth_opacities") value
      checkOpacity ("bathymetry.depth_opacities." ++ name) found
      return found) := by
    refine Ensures.bind fun _ _ => Ensures.bind fun _ checked => ?_
    exact Ensures.pure_iff.mpr (opacityWithin_of_check checked)
  unfold read
  iterate 5 refine Ensures.bind fun _ _ => ?_
  refine Ensures.bind fun _ atMin => Ensures.bind fun _ atMax => ?_
  iterate 2 refine Ensures.bind fun _ _ => ?_
  refine Ensures.andThen (Description.ensures_setting (by simp)
    (Description.ensures_orOpen (Description.ensures_readTable band))) fun _ bands => ?_
  exact Ensures.pure_iff.mpr
    { atMin := opacityWithin_of_check atMin
      atMax := opacityWithin_of_check atMax
      bands }

theorem HillshadeConfig.ensures_opacity (description : Description F) :
    Ensures (fun config : HillshadeConfig F => OpacityWithin config.opacity)
      (read description) := by
  unfold read
  iterate 11 refine Ensures.bind fun _ _ => ?_
  exact Ensures.bind fun _ checked => Ensures.pure_iff.mpr (opacityWithin_of_check checked)

structure PlacesConfig.WithinUnit (config : PlacesConfig F) : Prop where
  fill : OpacityWithin config.fill.opacity
  outline : OpacityWithin config.outline.opacity

theorem PlacesConfig.ensures_withinUnit (description : Description F) :
    Ensures WithinUnit (read description) := by
  unfold read
  iterate 6 refine Ensures.bind fun _ _ => ?_
  refine Ensures.bind fun _ fill => Ensures.bind fun _ outline => ?_
  exact Ensures.pure_iff.mpr ⟨opacityWithin_of_check fill, opacityWithin_of_check outline⟩

/-! ### Themes -/

namespace Theme

/-- The opacities of a theme that its reader checks. -/
structure WithinUnit (theme : Theme F) : Prop where
  opacities : theme.opacities.WithinUnit
  roadLabels : theme.colours.label.road.WithinUnit
  bathymetry : ∀ config ∈ theme.bathymetry, config.WithinUnit
  hillshade : ∀ config ∈ theme.hillshade, OpacityWithin config.opacity
  places : ∀ config ∈ theme.places, config.WithinUnit

/-- The opacities of a theme that its reader does not check: those of contours, ice, the grid and
airports, and of country boundaries at single zooms. -/
def uncheckedOpacities (theme : Theme F) : List (Number F) :=
  let contours := theme.contours.toList.flatMap fun config =>
    [config.major.opacity, config.minor.opacity]
  let ice := theme.ice.toList.flatMap fun config =>
    [config.opacity.atMin, config.opacity.atMax, config.glaciated.opacity,
      config.iceShelves.opacity, config.iceEdge.bind IceEdge.opacity]
  let grid := theme.grid.toList.flatMap fun config =>
    [config.latitude, config.longitude].flatMap fun line =>
      [line.bind GridLine.opacity, (line.bind GridLine.label).bind GridLabel.opacity]
  let airports := theme.aeroway.toList.flatMap fun config =>
    [config.runway.opacity, config.apron.fillOpacity, config.taxiway.opacity,
      config.helipad.fillOpacity, config.label.opacity]
  let country := match theme.opacities.boundary.country with
    | .stops (some mapping) => (mapping.filterMap Zoom.ownStop?).map fun stop => some stop.2
    | _ => []
  (contours ++ ice ++ grid ++ airports ++ country).reduceOption

/-- Every theme that is read has opacities from zero to one wherever its reader checks them. -/
theorem checked_opacities_within {value : Json F} {theme : Theme F}
    (built : ofJson value = .ok theme) : theme.WithinUnit := by
  have read : Ensures WithinUnit (ofJson value) := by
    refine Ensures.bind fun description _ => ?_
    unfold Theme.read
    refine Ensures.andThen (Description.ensures_mandatoryPart ThemeColours.ensures_withinUnit)
      fun _ roadLabels => ?_
    iterate 3 refine Ensures.bind fun _ _ => ?_
    refine Ensures.andThen (Description.ensures_part ThemeOpacities.withinUnit_standard
      ThemeOpacities.ensures_withinUnit) fun _ opacities => ?_
    iterate 4 refine Ensures.bind fun _ _ => ?_
    refine Ensures.andThen (Description.ensures_partOrOpen BathymetryConfig.ensures_withinUnit)
      fun _ bathymetry => ?_
    iterate 2 refine Ensures.bind fun _ _ => ?_
    refine Ensures.andThen (Description.ensures_partOrOpen HillshadeConfig.ensures_opacity)
      fun _ hillshade => ?_
    iterate 2 refine Ensures.bind fun _ _ => ?_
    refine Ensures.andThen (Description.ensures_partOrOpen PlacesConfig.ensures_withinUnit)
      fun _ places => ?_
    iterate 7 refine Ensures.bind fun _ _ => ?_
    exact Ensures.pure_iff.mpr { opacities, roadLabels, bathymetry, hillshade, places }
  exact read theme built

end Theme

end Checked

/-! ### Exact arithmetic -/

/-- An opacity is a number from zero to one. -/
def Number.IsOpacity (number : Number Rat) : Prop :=
  number.exact ∈ Set.Icc 0 1

instance (number : Number Rat) : Decidable number.IsOpacity :=
  inferInstanceAs (Decidable (0 ≤ number.exact ∧ number.exact ≤ 1))

theorem OpacityWithin.isOpacity {opacity : Option (Number Rat)} (within : OpacityWithin opacity) :
    ∀ number ∈ opacity, number.IsOpacity := by
  intro number given
  obtain ⟨value, isValue, bounds⟩ := within number given
  have same : number.exact = value := by
    cases number <;> exact Option.some_inj.mp isValue
  rw [Number.IsOpacity, same]
  exact bounds

theorem PlacesConfig.ensures_opacity (description : Description Rat) :
    Ensures (fun config : PlacesConfig Rat => ∀ opacity ∈ config.fill.opacity, opacity.IsOpacity)
      (PlacesConfig.read description) :=
  (ensures_withinUnit description).mono fun _ within => within.fill.isOpacity

/-- Both ends of the range of opacities and the opacities of single bands are checked. -/
structure BathymetryConfig.LegalOpacities (config : BathymetryConfig Rat) : Prop where
  atMin : ∀ least ∈ config.opacity.atMin, least.IsOpacity
  atMax : ∀ largest ∈ config.opacity.atMax, largest.IsOpacity
  bands : ∀ table ∈ config.depthOpacities, ∀ entry ∈ table, ∀ own ∈ entry.2, own.IsOpacity

theorem BathymetryConfig.ensures_opacities (description : Description Rat) :
    Ensures LegalOpacities (BathymetryConfig.read description) :=
  (ensures_withinUnit description).mono fun _ within =>
    { atMin := within.atMin.isOpacity
      atMax := within.atMax.isOpacity
      bands := fun table isTable entry inTable =>
        (within.bands table isTable entry inTable).isOpacity }

/-! ### A theme whose unchecked opacities are too large -/

namespace Theme

/-- Sets every opacity that is not checked to two, and some that are to their bounds. -/
def overdrawnDescription : Json Float :=
  let contour : Json Float := .object [
    ("color", .text "#4a5568"), ("width", .object [("min", 1), ("max", 2)]), ("opacity", 2)]
  let ice : Json Float := .object [("color", .text "#e8f4f8"), ("opacity", 2)]
  let line : Json Float := .object [("opacity", 2), ("label", .object [("opacity", 2)])]
  let stroke : Json Float := .object [("opacity", 2)]
  let area : Json Float := .object [("fill_opacity", 2)]
  .object [
    ("name", .text "Overdrawn"),
    ("colors", Preset.Parchment.colours.toJson),
    ("opacities", .object [
      ("landcover", 1), ("tunnel", 0),
      ("boundary", .object [("country", .object [("z4", 2)])])]),
    ("bathymetry", .object [("depth_opacities", .object [("abyss", 1)])]),
    ("places", .object []),
    ("contours", .object [("major", contour), ("minor", contour)]),
    ("ice", .object [
      ("opacity", .object [("min", 2), ("max", 2)]), ("glaciated", ice), ("ice_shelves", ice),
      ("ice_edge", stroke)]),
    ("grid", .object [("latitude", line), ("longitude", line)]),
    ("aeroway", .object [
      ("runway", stroke), ("apron", area), ("taxiway", stroke), ("helipad", area),
      ("label", stroke)])]

theorem overdrawn_checked_within :
    Returns WithinUnit (ofJson overdrawnDescription) := by
  have succeeds : Succeeds (ofJson overdrawnDescription) :=
    succeeds_of_isOk (by decide +kernel)
  obtain ⟨theme, built⟩ := succeeds_iff.mp succeeds
  exact ⟨theme, built, checked_opacities_within built⟩

/-- None of the seventeen opacities that are not checked lies between zero and one. -/
theorem overdrawn_unchecked_outside :
    Returns (fun theme => theme.uncheckedOpacities.length = 17 ∧
      ∀ opacity ∈ theme.uncheckedOpacities, ¬opacity.WithinUnit)
      (ofJson overdrawnDescription) := by
  have all : ((ofJson overdrawnDescription).toOption.any fun theme =>
      theme.uncheckedOpacities.map Number.whole? = List.replicate 17 (some 2)) = true := by
    decide +kernel
  cases built : ofJson overdrawnDescription with
  | error fault =>
      rw [built] at all
      cases all
  | ok theme =>
      rw [built] at all
      have wholes : theme.uncheckedOpacities.map Number.whole? = List.replicate 17 (some 2) :=
        of_decide_eq_true all
      refine Returns.ok_iff.mpr ⟨by simpa using congrArg List.length wholes, ?_⟩
      rintro opacity member ⟨value, isValue, _, notAbove⟩
      have isTwo : opacity.whole? = some 2 := by
        have isWhole := List.mem_map_of_mem (f := Number.whole?) member
        rw [wholes] at isWhole
        exact List.eq_of_mem_replicate isWhole
      cases isValue.symm.trans (Number.rational?_of_whole? isTwo)
      norm_num at notAbove

end Theme

end MapStyle
