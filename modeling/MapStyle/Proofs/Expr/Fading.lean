import Mathlib.Data.Set.List
import MapStyle.Expr.Width
import MapStyle.Proofs.Expr.Choice
import MapStyle.Proofs.Expr.Shown
import MapStyle.Proofs.Number.Exact

/-!
# Curves that fade out

A curve over the zoom that ends with a full value at one zoom and with zero at a later one. However
a renderer joins two stops, it shows the full value at the first of the two zooms, and zero from the
second one on.
-/

namespace MapStyle

set_option autoImplicit false

open Number (Ascend)

/-! ### Stops that are passed -/

/-- The stops before one that has been reached do not matter. -/
theorem Renderer.along_append {renderer : Renderer Rat} {shape : Expr Rat} {input : Number Rat}
    {before rest : List (Number Rat × Json Rat)} {reached : Number Rat × Json Rat}
    (ascend : Ascend ((before ++ reached :: rest).map Prod.fst))
    (isReached : reached.1.exact ≤ input.exact) :
    renderer.along shape input (before ++ reached :: rest) =
      renderer.along shape input (reached :: rest) := by
  induction before with
  | nil => rfl
  | cons lower others ih =>
      obtain ⟨above, othersAscend⟩ := List.pairwise_cons.mp ascend
      rw [← ih othersAscend]
      have passed : lower.1.exact < input.exact :=
        (above reached.1 (by simp)).trans_le isReached
      cases others with
      | nil =>
          show renderer.along shape input (lower :: reached :: rest) = _
          simp [along, not_le.mpr passed, not_lt.mpr isReached]
      | cons upper more =>
          obtain ⟨upperAbove, _⟩ := List.pairwise_cons.mp othersAscend
          have upperPassed : upper.1.exact ≤ input.exact :=
            (upperAbove reached.1 (by simp)).le.trans isReached
          show renderer.along shape input (lower :: upper :: (more ++ reached :: rest)) = _
          simp [along, not_le.mpr passed, not_lt.mpr upperPassed]

namespace Expr

/-- A setting of a theme at a zoom; a setting that is open has no value. -/
abbrev SettingStop := Number Rat × Option (Number Rat)

def settingStops (stops : List SettingStop) : List (Expr Rat × Expr Rat) :=
  stops.map fun stop => (.number stop.1, ofNumber? stop.2)

theorem exists_settingStops {stops : List (Expr Rat × Expr Rat)}
    (each : ∀ stop ∈ stops, ∃ setting : SettingStop,
      (.number setting.1, ofNumber? setting.2) = stop) :
    ∃ settings, stops = settingStops settings := by
  have inRange : stops ∈ Set.range (List.map fun setting : SettingStop =>
      ((.number setting.1, ofNumber? setting.2) : Expr Rat × Expr Rat)) := by
    rw [Set.range_list_map]
    exact each
  obtain ⟨settings, same⟩ := inRange
  exact ⟨settings, same.symm⟩

/-- The curve runs over ascending zooms, and its last two stops are a full value and zero. -/
def FadesOut (curve : Expr Rat) (maxZoom last : Number Rat) (full : Option (Number Rat)) : Prop :=
  ∃ front : List SettingStop,
    Ascend (front.map Prod.fst ++ [maxZoom, last]) ∧
      curve = curveNode (.op "linear" []) zoom
        (settingStops (front ++ [(maxZoom, full), (last, some 0.0)]))

variable {curve : Expr Rat} {minZoom maxZoom last : Number Rat} {full : Option (Number Rat)}

/-! ### Curves that are built -/

theorem ascend_of_ascending {numbers : List (Number Rat)}
    (ascending : Ascending (numbers.map number)) : Ascend numbers := by
  have chain : numbers.IsChain fun lower upper => lower.exact < upper.exact := by
    have keys := (List.isChain_map _).mp ascending
    refine keys.imp fun lower upper below => ?_
    simpa [precedes?] using below
  exact chain.pairwise

theorem fadesOut_of_linear (front : List SettingStop)
    (found : linear zoom (settingStops (front ++ [(maxZoom, full), (last, some 0.0)])) =
      .ok curve) : curve.FadesOut maxZoom last full := by
  obtain ⟨_, ascending, rfl⟩ := curve_eq_ok.mp found
  refine ⟨front, ascend_of_ascending ?_, rfl⟩
  simpa [settingStops, Function.comp_def] using ascending

theorem fadesOut_of_zoomFade (start full : Option (Number Rat))
    (found : zoomFade minZoom maxZoom (ofNumber? start) (ofNumber? full) = .ok curve) :
    curve.FadesOut maxZoom maxZoom.next full := by
  unfold zoomFade at found
  split at found
  · exact fadesOut_of_linear [(minZoom, start)] found
  · exact fadesOut_of_linear [] found

/-! ### Curves that are shown -/

theorem shown_ofNumber? {renderer : Renderer Rat} {scene : Scene Rat}
    (value : Option (Number Rat)) :
    (ofNumber? value).shown renderer scene = some (.ofNumber? value) := by
  cases value <;> rfl

/-- What fades out is shown in full at the largest zoom, and not at all from the last zoom on. -/
theorem FadesOut.shown (fades : curve.FadesOut maxZoom last full) (renderer : Renderer Rat)
    (scene : Scene Rat) :
    (scene.zoom.exact = maxZoom.exact → curve.shown renderer scene = some (.ofNumber? full)) ∧
      (last.exact ≤ scene.zoom.exact →
        curve.shown renderer scene = some (.number 0.0)) := by
  obtain ⟨front, ascend, rfl⟩ := fades
  let value (stop : SettingStop) : Number Rat × Json Rat := (stop.1, .ofNumber? stop.2)
  have shows (stops : List SettingStop) :
      ShowPairs renderer scene (settingStops stops) (stops.map value) := by
    refine List.forall₂_map_left_iff.mpr (List.forall₂_map_right_iff.mpr ?_)
    exact List.forall₂_same.mpr fun stop _ => ⟨rfl, shown_ofNumber? stop.2⟩
  let ending : List (Number Rat × Json Rat) := [(maxZoom, .ofNumber? full), (last, .number 0.0)]
  have along : (curveNode (.op "linear" []) zoom
      (settingStops (front ++ [(maxZoom, full), (last, some 0.0)]))).shown renderer scene =
        renderer.along (.op "linear" []) scene.zoom
          (front.map value ++ ending) := by
    rw [shown_curveNode shown_zoom (shows _), List.map_append]
    rfl
  have valuesAscend : Ascend ((front.map value ++ ending).map Prod.fst) := by
    simpa [value, ending, Function.comp_def] using ascend
  rw [along]
  constructor
  · intro atMaxZoom
    rw [Renderer.along_append valuesAscend atMaxZoom.ge]
    simp [Renderer.along, atMaxZoom]
  · intro atLast
    have split : front.map value ++ ending =
        (front.map value ++ [(maxZoom, .ofNumber? full)]) ++ [(last, .number 0.0)] := by
      simp [ending]
    rw [split] at valuesAscend ⊢
    rw [Renderer.along_append valuesAscend atLast]
    rfl

end Expr

end MapStyle
