import MapStyle.Colour.Density
import MapStyle.Expr.Filter
import MapStyle.Expr.Width
import MapStyle.Proofs.Expr.Choice

/-!
# Accepted shared expressions

The expressions that several layers share: names, filters, colours by class, by height and by
density, and values that change with the zoom.
-/

namespace MapStyle

set_option autoImplicit false

open MapStyle.Expr (Sound SoundStop SoundStops Usable)

variable {F : Type} [Arithmetic F] {zoomed : Bool}

/-- A value without the zoom is a value that a property may have. -/
theorem Ensures.usable {outcome : Result F (Expr F)} (ensured : Ensures (Sound false) outcome) :
    Ensures Usable outcome :=
  ensured.mono fun _ sound => sound.usable

/-! ### Names -/

namespace LabelText

@[simp] theorem sound_name : Sound zoomed (name : Expr F) := by
  simp [name]

@[simp] theorem sound_size (text : String) : Sound zoomed (size text : Expr F) :=
  Expr.sound_number _

/-- A condition and an output that are both sound. -/
def SoundPair (zoomed : Bool) (branch : Expr F × Expr F) : Prop :=
  Sound zoomed branch.1 ∧ Sound zoomed branch.2

theorem sound_directionBranches {text : Expr F} (textSound : Sound zoomed text) :
    ∀ branch ∈ directionBranches text, SoundPair zoomed branch := by
  refine List.forall_mem_append.mpr ⟨?_, ?_⟩
  · rw [List.forall_mem_map]
    rintro ⟨word, short⟩ _
    constructor
    · simp [Expr.sound_slice, textSound]
    · simp [Expr.sound_slice, textSound]
  · rw [List.forall_mem_map]
    rintro ⟨word, short⟩ _
    constructor
    · simp [textSound]
    · simp

theorem sound_streetBranches {text textLength : Expr F} (textSound : Sound zoomed text)
    (lengthSound : Sound zoomed textLength) :
    ∀ branch ∈ streetBranches text textLength, SoundPair zoomed branch := by
  intro branch member
  obtain ⟨gap, _, inGap⟩ := List.mem_flatMap.mp member
  obtain ⟨⟨word, short⟩, _, rfl⟩ := List.mem_map.mp inGap
  constructor
  · simp [Expr.sound_slice, textSound, lengthSound]
  · simp [Expr.sound_slice, textSound, lengthSound]

@[simp] theorem sound_abbreviated : Sound zoomed (abbreviated : Expr F) := by
  have directions : Sound zoomed (Expr.caseNode
      (directionBranches (Expr.variableNamed "name")) (Expr.variableNamed "name" : Expr F)) := by
    rw [Expr.sound_caseNode (by simp [directionBranches, LabelText.directions])]
    exact ⟨sound_directionBranches (by simp), by simp⟩
  have streets : Sound zoomed (Expr.caseNode
      (streetBranches (Expr.variableNamed "dirReplaced") (Expr.variableNamed "len"))
      (Expr.variableNamed "dirReplaced" : Expr F)) := by
    rw [Expr.sound_caseNode (by simp [streetBranches, streetWords])]
    exact ⟨sound_streetBranches (by simp) (by simp), by simp⟩
  simp [abbreviated, directions, streets]

end LabelText

/-! ### Filters -/

namespace Filter

/-- Conditions behind those that keep tunnels and bridges out. -/
theorem sound_allAtGrade {conditions : List (Expr F)} :
    Sound zoomed (Expr.allOf (atGrade ++ conditions)) ↔
      ∀ condition ∈ conditions, Sound zoomed condition := by
  simp [atGrade]

@[simp] theorem sound_hasName : Sound zoomed (hasName : Expr F) := by
  simp [hasName]

@[simp] theorem sound_majorRoad : Sound zoomed (majorRoad : Expr F) := by
  have classes : Sound zoomed (Expr.isOneOf "class" majorRoadClasses : Expr F) :=
    Expr.sound_isOneOf (by decide) (by decide)
  rw [majorRoad, sound_allAtGrade]
  simpa using classes

theorem sound_normalClasses :
    Sound zoomed (Expr.isOneOf "class" normalRoadClasses : Expr F) :=
  Expr.sound_isOneOf (by decide) (by decide)

@[simp] theorem sound_normalRoad : Sound zoomed (normalRoad : Expr F) := by
  rw [normalRoad, sound_allAtGrade]
  simp [sound_normalClasses]

@[simp] theorem sound_serviceRoad (service : String) :
    Sound zoomed (serviceRoad service : Expr F) := by
  rw [serviceRoad, sound_allAtGrade]
  simp

@[simp] theorem sound_tunnel : Sound zoomed (tunnel : Expr F) := by
  simp [tunnel]

@[simp] theorem sound_bridge : Sound zoomed (bridge : Expr F) := by
  simp [bridge]

@[simp] theorem sound_path : Sound zoomed (path : Expr F) :=
  Expr.sound_isOneOf (by decide) (by decide)

@[simp] theorem sound_railway : Sound zoomed (railway : Expr F) := by
  simp [railway]

@[simp] theorem sound_countryBoundary : Sound zoomed (countryBoundary : Expr F) := by
  simp [countryBoundary]

@[simp] theorem sound_maritimeBoundary : Sound zoomed (maritimeBoundary : Expr F) := by
  simp [maritimeBoundary]

@[simp] theorem sound_stateBoundary : Sound zoomed (stateBoundary : Expr F) := by
  simp [stateBoundary]

@[simp] theorem sound_marineClass : Sound zoomed (marineClass : Expr F) := by
  have classes : Sound zoomed (Expr.isOneOf "class" ["ocean", "sea", "gulf", "bay"] : Expr F) :=
    Expr.sound_isOneOf (by decide) (by decide)
  simp [marineClass, classes]

end Filter

/-! ### Values that change with the zoom -/

namespace Expr

theorem soundStops_stopPairs (stops : Stops F) : SoundStops zoomed (stopPairs stops) := by
  refine List.forall_mem_map.mpr ?_
  intro stop _
  exact ⟨isNumber_number stop.1, sound_number stop.2⟩

theorem usable_zoomWidth {stops : Option (ZoomStops F)} {fallback : Expr F}
    (fallbackSound : Sound false fallback) : Ensures Usable (zoomWidth stops fallback) := by
  apply Ensures.bind
  intro found _
  split
  · exact Ensures.pure_iff.mpr fallbackSound.usable
  · exact ensures_zoomLinear (soundStops_stopPairs found)

/-- The value for a zoom is a number of the theme or the default. -/
theorem sound_valueOr {stops : ZoomStops F} {zoomLevel : Number F} {fallback : Expr F}
    (fallbackSound : Sound zoomed fallback) :
    Ensures (Sound zoomed) (Zoom.valueOr Expr.number stops zoomLevel fallback) := by
  apply Ensures.bind
  intro found _
  rw [Ensures.pure_iff]
  cases Zoom.at? zoomLevel found with
  | none => exact fallbackSound
  | some value => exact sound_number value

theorem usable_zoomStops {stops : Option (ZoomStops F)} {defaults : List (Number F × Expr F)}
    (defaultsSound : ∀ fallback ∈ defaults, Sound false fallback.2) :
    Ensures Usable (zoomStops stops defaults) := by
  unfold zoomStops
  apply Ensures.bind
  intro pairs found
  apply ensures_zoomLinear
  refine Ensures.forall_mem_mapM ?_ found
  rintro ⟨zoomLevel, fallback⟩ member
  refine Ensures.andThen (ensures_lift.mpr (sound_valueOr (defaultsSound _ member))) ?_
  intro value valueSound
  exact Ensures.pure_iff.mpr ⟨isNumber_number zoomLevel, valueSound⟩

theorem usable_zoomFade {minZoom maxZoom : Number F} {start full : Expr F}
    (startSound : Sound false start) (fullSound : Sound false full) :
    Ensures Usable (zoomFade minZoom maxZoom start full) := by
  apply ensures_zoomLinear
  rw [soundStops_append]
  constructor
  · split <;> simp [startSound]
  · simp [fullSound]

theorem usable_rangeCurve {range : ValueRange F} {minZoom maxZoom : Number F} :
    Ensures Usable (rangeCurve range minZoom maxZoom) := by
  apply ensures_zoomLinear
  simp

theorem usable_rangeValue {setting : RangeSetting F} {minZoom maxZoom : Number F}
    {fallback : ValueRange F} : Ensures Usable (rangeValue setting minZoom maxZoom fallback) := by
  cases setting with
  | unset => exact usable_rangeCurve
  | fixed value => exact Ensures.ok_iff.mpr (sound_number value).usable
  | range range => exact usable_rangeCurve

end Expr

namespace RoadWidths

variable {widths : RoadWidths F}

theorem sound_matchLabel (roadClass : RoadClass) :
    ∀ label ∈ Expr.caseLabels (matchLabel roadClass : Expr F), Sound zoomed label := by
  cases roadClass with
  | residential =>
      refine List.forall_mem_map.mpr ?_
      intro name _
      exact Expr.sound_text name
  | _ => exact List.forall_mem_singleton.mpr (Expr.sound_text _)

theorem sound_widthMatch {zoom scale : Number F} :
    Ensures (Sound false) (widths.widthMatch zoom scale) := by
  unfold widthMatch
  -- The value of each class is a number, whatever its stops are.
  extract_lets scaled
  have scaledSound (featureClass : String) :
      Ensures (Sound false) (liftM (scaled featureClass) : Result F (Expr F)) := by
    rw [ensures_lift]
    apply Ensures.bind
    intro width _
    apply Ensures.bind
    intro value _
    exact Ensures.pure_iff.mpr (Expr.sound_number value)
  apply Ensures.bind
  intro branches branchesFound
  refine Ensures.andThen (scaledSound "") ?_
  intro fallback fallbackSound
  apply Expr.ensures_matching (Expr.sound_get "class") fallbackSound
  refine Ensures.forall_mem_mapM ?_ branchesFound
  intro roadClass _
  refine Ensures.andThen (scaledSound roadClass.name) ?_
  intro width widthSound
  exact Ensures.pure_iff.mpr ⟨sound_matchLabel roadClass, widthSound⟩

/-- The width by class at one zoom is a stop of the curve over the zoom. -/
theorem soundStop_widthMatch {zoom : Number F} :
    Ensures (SoundStop false)
      (do return (.number zoom, ← widths.widthMatch zoom 1) : Result F (Expr F × Expr F)) := by
  refine Ensures.andThen sound_widthMatch ?_
  intro width widthSound
  exact Ensures.pure_iff.mpr ⟨Expr.isNumber_number zoom, widthSound⟩

theorem usable_linearWidth : Ensures Usable widths.linearWidth := by
  unfold linearWidth
  apply Ensures.bind
  intro stops found
  apply Expr.ensures_zoomLinear
  exact Ensures.forall_mem_mapM (fun _ _ => soundStop_widthMatch) found

theorem usable_realWorldWidth {start : Number F} :
    Ensures Usable (widths.realWorldWidth start) := by
  unfold realWorldWidth
  simp only
  split
  · apply Ensures.bind
    intro _ impossible
    cases impossible
  · apply Ensures.bind
    intro before beforeFound
    refine Ensures.andThen sound_widthMatch ?_
    intro atStart startSound
    apply Ensures.bind
    intro distance _
    apply Ensures.bind
    intro scale _
    refine Ensures.andThen sound_widthMatch ?_
    intro atLast lastSound
    apply Expr.ensures_zoomExponential (Expr.sound_ofNat 2)
    rw [Expr.soundStops_append]
    constructor
    · exact Ensures.forall_mem_mapM (fun _ _ => soundStop_widthMatch) beforeFound
    · simp [startSound, lastSound]

theorem usable_widthFor {settings : ThemeSettings F} :
    Ensures Usable (widths.widthFor settings) := by
  unfold widthFor
  split
  · apply Ensures.bind
    intro start _
    exact usable_realWorldWidth
  · exact usable_linearWidth

end RoadWidths

/-! ### Colours by class, height and density -/

namespace Theme

variable {theme : Theme F}

theorem sound_colourMatch {category : Category} {classes : List String} {property : String}
    {fallback : Option String} :
    Ensures (Sound false) (theme.colourMatch category classes property fallback) := by
  apply Expr.ensures_matching (Expr.sound_get property) (Expr.sound_ofText? fallback)
  rw [List.forall_mem_map]
  intro featureClass _
  constructor
  · exact List.forall_mem_singleton.mpr (Expr.sound_text featureClass)
  · exact Expr.sound_ofText? _

theorem sound_classColour {category : Category} {property : String} :
    Ensures (Sound false) (theme.classColour category property) := by
  unfold classColour
  split
  · exact Ensures.ok_iff.mpr (Expr.sound_text _)
  · exact sound_colourMatch

theorem usable_buildingFill {heightsFrom : Option (Number F)} :
    Ensures Usable (theme.buildingFill heightsFrom) := by
  unfold buildingFill
  refine Ensures.andThen (Expr.ensures_linear ?_ ?_ : Ensures (Sound false) _) ?_
  · simp
  · refine List.forall_mem_map.mpr ?_
    intro tier _
    exact ⟨Expr.isNumber_number _, Expr.sound_ofText? _⟩
  · intro heights heightsSound
    cases heightsFrom with
    | none => exact Ensures.pure_iff.mpr heightsSound.usable
    | some zoom =>
        apply Ensures.bind
        intro breakpoint _
        apply Expr.ensures_zoomStep (Expr.sound_ofText? _)
        simp [heightsSound]

end Theme

namespace DensityColours

variable {colours : DensityColours F} {outline : Bool}

theorem sound_stepExpr : Ensures (Sound false) (colours.stepExpr outline) := by
  unfold stepExpr
  apply Ensures.bind
  intro found _
  split
  · exact Ensures.pure_iff.mpr (Expr.sound_ofText? _)
  · apply Expr.ensures_step (Expr.sound_featureState _) (Expr.sound_ofText? _)
    rw [List.forall_mem_map]
    intro pair _
    exact ⟨Expr.sound_ofJson pair.1, Expr.sound_ofText? pair.2⟩

theorem sound_colourExpr {flat : Expr F} (flatSound : Sound false flat) :
    Ensures (Sound false) (colours.colourExpr flat outline) := by
  refine Ensures.andThen sound_stepExpr ?_
  intro byDensity byDensitySound
  simp [byDensitySound, flatSound]

end DensityColours

end MapStyle
