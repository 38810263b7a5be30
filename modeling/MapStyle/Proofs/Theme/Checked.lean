import MapStyle.Proofs.Number.Exact
import MapStyle.Theme

/-!
# What the reader of a theme has checked

Limits that hold of every theme that was read, so that no check of them is needed when its layers
are drawn.
-/

namespace MapStyle

set_option autoImplicit false

/-! ### Settings and parts -/

namespace Description

variable {F α : Type} {holds : α → Prop} {description : Description F} {key : String} {standard : α}

theorem ensures_setting {read : Json F → Result F α} (standardHolds : holds standard)
    (each : ∀ value, Ensures holds (read value)) :
    Ensures holds (description.setting key standard read) := by
  unfold setting
  split
  · exact each _
  · exact Ensures.ok_iff.mpr standardHolds

theorem ensures_mandatory {read : Json F → Result F α}
    (each : ∀ value, Ensures holds (read value)) :
    Ensures holds (description.mandatory key read) := by
  unfold mandatory
  split
  · exact each _
  · exact Ensures.error

theorem ensures_orOpen {read : Json F → Result F α} (each : ∀ value, Ensures holds (read value))
    (value : Json F) : Ensures (fun found => ∀ part ∈ found, holds part) (orOpen read value) := by
  unfold orOpen
  split
  · simp
  · intro found same
    obtain ⟨part, partFound, rfl⟩ := map_eq_ok.mp same
    simpa using each value part partFound

theorem ensures_readTable {read : String → Json F → Result F α}
    (each : ∀ name value, Ensures holds (read name value)) (value : Json F) :
    Ensures (fun table => ∀ entry ∈ table, holds entry.2) (readTable key read value) := by
  unfold readTable
  split
  · intro table found
    refine Ensures.forall_mem_mapM (fun described _ => ?_) found
    intro entry entryFound
    obtain ⟨part, partFound, rfl⟩ := map_eq_ok.mp entryFound
    exact each described.1 described.2 part partFound
  · exact Ensures.error

variable {read : Description F → Result F α}

theorem ensures_part (standardHolds : holds standard)
    (each : ∀ given, Ensures holds (read given)) :
    Ensures holds (description.part key standard read) :=
  ensures_setting standardHolds fun _ => Ensures.bind fun given _ => each given

theorem ensures_mandatoryPart (each : ∀ given, Ensures holds (read given)) :
    Ensures holds (description.mandatoryPart key read) :=
  ensures_mandatory fun _ => Ensures.bind fun given _ => each given

theorem ensures_partOrOpen (each : ∀ given, Ensures holds (read given)) :
    Ensures (fun found => ∀ part ∈ found, holds part) (description.partOrOpen key none read) :=
  ensures_setting (by simp) fun value =>
    ensures_orOpen (fun _ => Ensures.bind fun given _ => each given) value

end Description

/-! ### Checked limits -/

/-- Where a least and a largest zoom are both set, the least one is below the largest one. -/
def ZoomsRise (minZoom maxZoom : Option (Number Rat)) : Prop :=
  ∀ least ∈ minZoom, ∀ largest ∈ maxZoom, least.exact < largest.exact

namespace ZoomsRise

variable {minZoom maxZoom : Option (Number Rat)} {least largest : Number Rat}

@[simp] theorem without_least : ZoomsRise none maxZoom := by
  simp [ZoomsRise]

@[simp] theorem without_largest : ZoomsRise minZoom none := by
  simp [ZoomsRise]

@[simp] theorem some_iff : ZoomsRise (some least) (some largest) ↔ least.exact < largest.exact := by
  simp [ZoomsRise]

/-- What is drawn up to a largest zoom and fades out after it is drawn over some zooms. -/
theorem next (rise : ZoomsRise minZoom maxZoom) :
    ZoomsRise minZoom (maxZoom.map Number.next) := by
  intro least leastGiven last lastGiven
  obtain ⟨largest, largestGiven, rfl⟩ := Option.map_eq_some_iff.mp lastGiven
  have below := rise least leastGiven largest largestGiven
  rw [Number.exact_next]
  linarith

end ZoomsRise

theorem checkZoomRange_eq_ok {setting : String} {minZoom maxZoom : Option (Number Rat)}
    {result : Unit} (checked : checkZoomRange setting minZoom maxZoom = .ok result) :
    ZoomsRise minZoom maxZoom := by
  intro least leastGiven largest largestGiven
  rw [leastGiven, largestGiven] at checked
  simp only [checkZoomRange, Number.le_eq_decide, decide_eq_true_eq] at checked
  split at checked
  · cases checked
  · rename_i notOver
    exact not_le.mp notOver

/-- The opacity at the largest zoom is above zero. -/
def ValueRange.Visible (range : ValueRange Rat) : Prop :=
  ∃ largest, range.atMax = some largest ∧ 0 < largest.exact

theorem checkVisible_eq_ok {setting : String} {range : ValueRange Rat} {result : Unit}
    (checked : checkVisible setting range = .ok result) : range.Visible := by
  obtain ⟨largest, found, rest⟩ := bind_eq_ok.mp checked
  have given : range.atMax = some largest := require_eq_ok.mp found
  simp only [Number.le_eq_decide, Number.exact_ofNat, Nat.cast_zero, decide_eq_true_eq] at rest
  split at rest
  · cases rest
  · rename_i above
    exact ⟨largest, given, not_le.mp above⟩

theorem checkScaleStart_eq_ok {start : Option (Number Rat)} {result : Unit}
    (checked : ThemeSettings.checkScaleStart start = .ok result) :
    ∀ zoom ∈ start, zoom.exact < lastScaleZoom := by
  intro zoom given
  rw [given] at checked
  simp only [ThemeSettings.checkScaleStart, Number.le_eq_decide, decide_eq_true_eq] at checked
  split at checked
  · cases checked
  · rename_i notOver
    exact not_le.mp notOver

/-! ### Checked colours -/

namespace Colour

variable {F : Type} {setting : String} {hexOnly : Bool}

/-- How a colour is given and read: as a colour text that is accepted, or as `null`. -/
inductive ReadAs (hexOnly : Bool) : Option (Json F) → Option String → Prop where
  | colour {text : String} (isColour : isColour hexOnly text = true) :
      ReadAs hexOnly (some (.text text)) (some text)
  | null : ReadAs hexOnly (some .null) none

/-- What is not given as `null` is a colour. -/
theorem ReadAs.held {given : Option (Json F)} {colour : Option String}
    (readAs : ReadAs hexOnly given colour) (notNull : given ≠ some .null) :
    ∃ text, colour = some text ∧ isColour hexOnly text = true := by
  cases readAs with
  | colour isColour => exact ⟨_, rfl, isColour⟩
  | null => exact absurd rfl notNull

theorem ensures_readAs (value : Json F) :
    Ensures (ReadAs hexOnly (some value))
      (check setting hexOnly value : Result F (Option String)) := by
  unfold check
  split
  · exact Ensures.ok_iff.mpr .null
  · split
    · rename_i isColour
      exact Ensures.ok_iff.mpr (.colour isColour)
    · exact Ensures.error
  · exact Ensures.error

theorem ensures_check (value : Json F) :
    Ensures (fun found => ∀ text ∈ found, isColour hexOnly text = true)
      (check setting hexOnly value : Result F (Option String)) := by
  refine (ensures_readAs value).mono fun found readAs => ?_
  cases readAs with
  | colour isColour => simpa using isColour
  | null => simp

end Colour

/-! ### Checked themes -/

/-- Labels of the grid, and the grid itself, start below its largest zoom. -/
structure GridConfig.Checked (config : GridConfig Rat) : Prop where
  zooms : ZoomsRise config.minZoom config.maxZoom
  latitude : ∀ label ∈ config.latitude.bind GridLine.label, ZoomsRise label.minZoom config.maxZoom
  longitude : ∀ label ∈ config.longitude.bind GridLine.label,
    ZoomsRise label.minZoom config.maxZoom

theorem GridLine.checkLabel_eq_ok {maxZoom : Option (Number Rat)} {line : Option (GridLine Rat)}
    {result : Unit} (checked : checkLabel maxZoom line = .ok result) :
    ∀ label ∈ line.bind GridLine.label, ZoomsRise label.minZoom maxZoom := by
  intro label given
  unfold checkLabel at checked
  rw [given] at checked
  exact checkZoomRange_eq_ok checked

namespace Theme

/-- The limits that the reader of a theme checks and the drawing of layers relies on. -/
structure Checked (theme : Theme Rat) : Prop where
  waterFill : ∀ fill ∈ theme.colours.water.fill, Colour.isColour true fill = true
  scaleStart : ∀ start ∈ theme.settings.realWorldScaleMinZoom, start.exact < lastScaleZoom
  bathymetry : ∀ config ∈ theme.bathymetry, config.opacity.Visible
  bathymetryZooms : ∀ config ∈ theme.bathymetry, ZoomsRise config.minZoom config.maxZoom
  ice : ∀ config ∈ theme.ice, config.opacity.Visible
  iceZooms : ∀ config ∈ theme.ice, ZoomsRise config.minZoom config.maxZoom
  hillshadeZooms : ∀ config ∈ theme.hillshade, ZoomsRise config.minZoom config.maxZoom
  grid : ∀ config ∈ theme.grid, config.Checked

theorem ensures_waterFill (description : Description Rat) :
    Ensures (fun colours : ThemeColours Rat =>
      ∀ fill ∈ colours.water.fill, Colour.isColour true fill = true)
      (ThemeColours.read description) := by
  unfold ThemeColours.read
  iterate 2 refine Ensures.bind fun _ _ => ?_
  have water : Ensures (fun colours : WaterColours =>
      ∀ fill ∈ colours.fill, Colour.isColour true fill = true)
      (description.mandatoryPart "water" WaterColours.read) := by
    apply Description.ensures_mandatoryPart
    intro given
    unfold WaterColours.read
    refine Ensures.andThen (Description.ensures_mandatory Colour.ensures_check) ?_
    intro fill isColour
    iterate 3 refine Ensures.bind fun _ _ => ?_
    exact Ensures.pure_iff.mpr isColour
  refine Ensures.andThen water fun found isColour => ?_
  iterate 7 refine Ensures.bind fun _ _ => ?_
  exact Ensures.pure_iff.mpr isColour

theorem ensures_scaleStart (description : Description Rat) :
    Ensures (fun settings : ThemeSettings Rat =>
      ∀ start ∈ settings.realWorldScaleMinZoom, start.exact < lastScaleZoom)
      (ThemeSettings.read description) := by
  unfold ThemeSettings.read
  iterate 5 refine Ensures.bind fun _ _ => ?_
  apply Ensures.bind
  intro _ checked
  exact Ensures.pure_iff.mpr (checkScaleStart_eq_ok checked)

theorem ensures_bathymetry (description : Description Rat) :
    Ensures (fun config : BathymetryConfig Rat =>
      ZoomsRise config.minZoom config.maxZoom ∧ config.opacity.Visible)
      (BathymetryConfig.read description) := by
  unfold BathymetryConfig.read
  iterate 4 refine Ensures.bind fun _ _ => ?_
  apply Ensures.bind
  intro _ zooms
  iterate 2 refine Ensures.bind fun _ _ => ?_
  apply Ensures.bind
  intro _ visible
  iterate 2 refine Ensures.bind fun _ _ => ?_
  exact Ensures.pure_iff.mpr ⟨checkZoomRange_eq_ok zooms, checkVisible_eq_ok visible⟩

theorem ensures_ice (description : Description Rat) :
    Ensures (fun config : IceConfig Rat =>
      ZoomsRise config.minZoom config.maxZoom ∧ config.opacity.Visible)
      (IceConfig.read description) := by
  unfold IceConfig.read
  iterate 7 refine Ensures.bind fun _ _ => ?_
  apply Ensures.bind
  intro _ zooms
  apply Ensures.bind
  intro _ visible
  exact Ensures.pure_iff.mpr ⟨checkZoomRange_eq_ok zooms, checkVisible_eq_ok visible⟩

theorem ensures_hillshade (description : Description Rat) :
    Ensures (fun config : HillshadeConfig Rat => ZoomsRise config.minZoom config.maxZoom)
      (HillshadeConfig.read description) := by
  unfold HillshadeConfig.read
  iterate 10 refine Ensures.bind fun _ _ => ?_
  apply Ensures.bind
  intro _ zooms
  refine Ensures.bind fun _ _ => ?_
  exact Ensures.pure_iff.mpr (checkZoomRange_eq_ok zooms)

theorem ensures_grid (description : Description Rat) :
    Ensures GridConfig.Checked (GridConfig.read description) := by
  unfold GridConfig.read
  iterate 5 refine Ensures.bind fun _ _ => ?_
  apply Ensures.bind
  intro _ zooms
  apply Ensures.bind
  intro _ latitude
  apply Ensures.bind
  intro _ longitude
  exact Ensures.pure_iff.mpr ⟨checkZoomRange_eq_ok zooms, GridLine.checkLabel_eq_ok latitude,
    GridLine.checkLabel_eq_ok longitude⟩

theorem ensures_read (description : Description Rat) : Ensures Checked (read description) := by
  unfold read
  refine Ensures.andThen (Description.ensures_mandatoryPart ensures_waterFill) fun _ waterFill => ?_
  iterate 4 refine Ensures.bind fun _ _ => ?_
  refine Ensures.andThen (Description.ensures_part ?_ ensures_scaleStart) fun _ scaleStart => ?_
  · intro start given
    cases given
    decide
  iterate 3 refine Ensures.bind fun _ _ => ?_
  refine Ensures.andThen (Description.ensures_partOrOpen ensures_bathymetry) fun _ bathymetry => ?_
  apply Ensures.bind
  intro _ _
  refine Ensures.andThen (Description.ensures_partOrOpen ensures_ice) fun _ ice => ?_
  refine Ensures.andThen (Description.ensures_partOrOpen ensures_hillshade) fun _ hillshade => ?_
  refine Ensures.andThen (Description.ensures_partOrOpen ensures_grid) fun _ grid => ?_
  iterate 9 refine Ensures.bind fun _ _ => ?_
  exact Ensures.pure_iff.mpr
    { waterFill, scaleStart, grid
      bathymetry := fun config given => (bathymetry config given).2
      bathymetryZooms := fun config given => (bathymetry config given).1
      ice := fun config given => (ice config given).2
      iceZooms := fun config given => (ice config given).1
      hillshadeZooms := hillshade }

theorem checked_ofJson {value : Json Rat} {theme : Theme Rat} (built : ofJson value = .ok theme) :
    theme.Checked :=
  Ensures.bind (fun description _ => ensures_read description) theme built

end Theme

end MapStyle
