import MapStyle.Presets
import MapStyle.Proofs.Layer.CompleteSurface
import MapStyle.Proofs.Layer.CompleteTexts
import MapStyle.Proofs.Layer.Refused

/-!
# Styles that are refused

A theme that was read, with settings of the declared types, has layers unless it sets the zooms of
contour lines or of the text of a shield in the wrong order. Nothing else in it, however sparse or
odd, keeps a style from being compiled.
-/

namespace MapStyle

set_option autoImplicit false

open DrawStep (AllSucceed)

variable {theme : Theme Rat}

namespace Stack

/-- What ends a style, if anything does: a mistake in the order of zooms. -/
theorem faults_steps (built : theme.Checked) (typed : theme.WellTyped) : ∀ step ∈ steps theme,
    Faults (fun fault => theme.ZoomMistake ∧ fault.Invalid) step.outcome := by
  have succeeding {steps : List (DrawStep Rat)} (all : AllSucceed steps) : ∀ step ∈ steps,
      Faults (fun fault => theme.ZoomMistake ∧ fault.Invalid) step.outcome :=
    fun step member => (all step member).faults
  refine forall_mem_steps ?ground (succeeding (Boundary.succeeds_world typed))
    (succeeding (Boundary.succeeds_regional typed)) ?water ?surface ?overlay ?texts
  case ground =>
    apply succeeding
    simp [ground, Ground.succeeds_background, Hillshade.succeeds_steps typed,
      Ground.succeeds_world]
  case water =>
    simp only [water, List.forall_mem_append]
    exact ⟨⟨⟨succeeding (Water.succeeds_world typed.widths),
      succeeding (Water.succeeds_regional typed.widths)⟩,
      succeeding (Depth.succeeds_steps built typed)⟩, Contour.faults_steps typed⟩
  case surface =>
    apply succeeding
    simp [surface, Ice.succeeds_steps built typed, Graticule.succeeds_steps built typed,
      Road.succeeds_world, Road.succeeds_regional built typed, Ground.succeeds_regional]
  case overlay =>
    apply succeeding
    simp [overlay, Road.succeeds_overlay built typed, Airport.succeeds_steps]
  case texts =>
    simp only [texts, List.forall_mem_append]
    exact ⟨⟨⟨⟨⟨⟨succeeding RoadLabel.succeeds_steps, Shield.faults_steps typed⟩,
      succeeding WaterLabel.succeeds_global⟩, succeeding WaterLabel.succeeds_basemap⟩,
      succeeding WaterLabel.succeeds_waterways⟩, succeeding Settlement.succeeds_steps⟩,
      succeeding (PoiLabel.succeeds_steps PoiLabel.railSized_rat)⟩

theorem contours_succeed (all : AllSucceed (steps theme)) : AllSucceed (Contour.steps theme) := by
  simp only [steps, water, DrawStep.allSucceed_append] at all
  obtain ⟨⟨⟨⟨⟨⟨_, ⟨_, contours⟩⟩, _⟩, _⟩, _⟩, _⟩, _⟩ := all
  exact contours

theorem shields_succeed (all : AllSucceed (steps theme)) : AllSucceed (Shield.steps theme) := by
  simp only [steps, texts, DrawStep.allSucceed_append] at all
  obtain ⟨_, ⟨⟨⟨⟨⟨_, shields⟩, _⟩, _⟩, _⟩, _⟩, _⟩ := all
  exact shields

end Stack

namespace Theme

theorem no_mistake_of_layers {layers : List (Layer Rat)} (typed : theme.WellTyped)
    (compiled : theme.layers = .ok layers) : ¬ theme.ZoomMistake := by
  have all : AllSucceed (Stack.steps theme) := DrawStep.succeeds_of_compile compiled
  intro mistake
  cases mistake with
  | @contours config given enabled inverted =>
      have drawn := Stack.contours_succeed all
      rw [Contour.steps, DrawStep.ofDomain_of_enabled given enabled] at drawn
      exact (Contour.succeeds_draw_iff (typed.contours config given)).mp drawn inverted
  | @shields config kind given enabled kindEnabled inverted =>
      have drawn := Stack.shields_succeed all
      rw [Shield.steps, DrawStep.ofDomain_of_enabled given enabled] at drawn
      have kindDrawn : AllSucceed (Shield.kindSteps theme config kind) := by
        intro step member
        have kindMember : kind ∈ ShieldKind.all := by cases kind <;> decide
        exact drawn step (List.mem_flatMap.mpr ⟨kind, kindMember, member⟩)
      have ordered := (Shield.succeeds_kindSteps_iff (typed.shields config given)).mp kindDrawn
      exact ordered ⟨kindEnabled, inverted⟩

/-- Layers are refused exactly for a mistake in the order of zooms, and then as invalid. -/
theorem layers_refused_iff {value : Json Rat} (built : Theme.ofJson value = .ok theme)
    (typed : theme.WellTyped) :
    ((∃ fault, theme.layers = .error fault) ↔ theme.ZoomMistake) ∧
      ∀ fault, theme.layers = .error fault → fault.nature = .invalid := by
  have faults : Faults (fun fault => theme.ZoomMistake ∧ fault.Invalid) theme.layers :=
    DrawStep.faults_compile (Stack.faults_steps (checked_ofJson built) typed)
  refine ⟨⟨?_, ?_⟩, fun fault refused => (faults fault refused).2⟩
  · rintro ⟨fault, refused⟩
    exact (faults fault refused).1
  · intro mistake
    cases compiled : theme.layers with
    | error fault => exact ⟨fault, rfl⟩
    | ok layers => exact absurd mistake (no_mistake_of_layers typed compiled)

/-! ### A theme whose contour lines start at their largest zoom -/

def lateContours : Theme Rat :=
  { Theme.plain "Late contours" Preset.Parchment.colours with
    contours := some { ContoursConfig.standard with minZoom := some 12 } }

def lateContoursDescription : Json Rat :=
  .object [
    ("name", .text "Late contours"),
    ("colors", Preset.Parchment.colours.toJson),
    ("contours", .object [("min_zoom", 12)])]

theorem lateContours_read : Theme.ofJson lateContoursDescription = .ok lateContours := by
  with_unfolding_all rfl

theorem lateContours_wellTyped : lateContours.WellTyped :=
  { plain_wellTyped "Late contours" rfl (by decide) with
    contours := by
      simp only [lateContours, Option.mem_some_iff, forall_eq']
      exact ⟨rfl, ⟨⟨rfl, rfl⟩, rfl⟩, ⟨⟨rfl, rfl⟩, rfl⟩⟩ }

theorem lateContours_mistake : lateContours.ZoomMistake := by
  refine .contours rfl rfl ⟨12, rfl, .inl ?_⟩
  simp [ContoursConfig.standard]

theorem lateContours_refused : Theme.ofJson lateContoursDescription = .ok lateContours ∧
    lateContours.WellTyped ∧ lateContours.ZoomMistake ∧
      ∃ fault, lateContours.layers = .error fault ∧ fault.nature = .invalid := by
  obtain ⟨refused, invalid⟩ := layers_refused_iff lateContours_read lateContours_wellTyped
  obtain ⟨fault, found⟩ := refused.mpr lateContours_mistake
  exact ⟨lateContours_read, lateContours_wellTyped, lateContours_mistake, fault, found,
    invalid fault found⟩

end Theme

end MapStyle
