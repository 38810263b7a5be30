import MapStyle.Number.Arithmetic
import MapStyle.Presets
import MapStyle.Proofs.Layer.Texts

/-!
# Compiled styles are accepted

Whatever a theme asks for, the layers that are compiled from it contain no expression that the
renderer refuses. A theme that would need one has no layers: its fault is told instead.
-/

namespace MapStyle

set_option autoImplicit false

open DrawStep (AllDraw)

variable {F : Type} [Arithmetic F]

namespace Stack

variable (theme : Theme F)

theorem usable_ground : AllDraw LayerPlan.Usable (ground theme) := by
  simp [ground, Ground.usable_background, Hillshade.usable_steps, Ground.usable_world]

theorem usable_water : AllDraw LayerPlan.Usable (water theme) := by
  simp [water, Water.usable_world, Water.usable_regional, Depth.usable_steps, Contour.usable_steps]

theorem usable_surface : AllDraw LayerPlan.Usable (surface theme) := by
  simp [surface, Ice.usable_steps, Graticule.usable_steps, Road.usable_world, Road.usable_regional,
    Ground.usable_regional]

theorem usable_overlay : AllDraw LayerPlan.Usable (overlay theme) := by
  simp [overlay, Road.usable_overlay, Airport.usable_steps]

theorem usable_texts : AllDraw LayerPlan.Usable (texts theme) := by
  simp [texts, RoadLabel.usable_steps, Shield.usable_steps, WaterLabel.usable_global,
    WaterLabel.usable_basemap, WaterLabel.usable_waterways, Settlement.usable_steps,
    PoiLabel.usable_steps]

theorem usable_steps : AllDraw LayerPlan.Usable (steps theme) :=
  forall_mem_steps (usable_ground theme) (Boundary.usable_world theme)
    (Boundary.usable_regional theme) (usable_water theme) (usable_surface theme)
    (usable_overlay theme) (usable_texts theme)

end Stack

namespace Theme

theorem usable_layers {theme : Theme F} {layers places : List (Layer F)}
    (compiled : theme.layers = .ok layers) (placesCompiled : theme.placesLayers = .ok places) :
    ∀ layer ∈ layers ++ places, layer.Usable := by
  rw [List.forall_mem_append]
  constructor
  · exact usable_compile (Stack.usable_steps theme) compiled
  · exact usable_compile (Population.usable_steps theme) placesCompiled

/-- Every expression in a layer is one that the renderer accepts, at any depth. -/
theorem layers_accepted {theme : Theme F} {layers places : List (Layer F)}
    (compiled : theme.layers = .ok layers) (placesCompiled : theme.placesLayers = .ok places) :
    ∀ layer ∈ layers ++ places,
      (∀ filter ∈ layer.filter, filter.Accepted) ∧ (∀ entry ∈ layer.layout, entry.2.Accepted) ∧
        ∀ entry ∈ layer.paint, entry.2.Accepted := by
  intro layer member
  have usable := usable_layers compiled placesCompiled layer member
  refine ⟨usable.filter, ?_, ?_⟩
  · exact fun entry inLayout => (usable.layout entry inLayout).accepted
  · exact fun entry inPaint => (usable.paint entry inPaint).accepted

theorem monochrome_compiles : ∃ layers places,
    (Preset.monochrome : Theme Rat).layers = .ok layers ∧
      (Preset.monochrome : Theme Rat).placesLayers = .ok places := by
  obtain ⟨layers, compiled⟩ := exists_of_isOk
    (show (Preset.monochrome : Theme Rat).layers.isOk = true by decide +kernel)
  obtain ⟨places, placesCompiled⟩ := exists_of_isOk
    (show (Preset.monochrome : Theme Rat).placesLayers.isOk = true by decide +kernel)
  exact ⟨layers, places, compiled, placesCompiled⟩

theorem monochrome_accepted : ∃ layers places,
    (Preset.monochrome : Theme Rat).layers = .ok layers ∧
      (Preset.monochrome : Theme Rat).placesLayers = .ok places ∧
        ∀ layer ∈ layers ++ places,
          (∀ filter ∈ layer.filter, filter.Accepted) ∧ (∀ entry ∈ layer.layout, entry.2.Accepted) ∧
            ∀ entry ∈ layer.paint, entry.2.Accepted := by
  obtain ⟨layers, places, compiled, placesCompiled⟩ := monochrome_compiles
  exact ⟨layers, places, compiled, placesCompiled, layers_accepted compiled placesCompiled⟩

/-- The zoom is only ever the input of a curve or step that a whole property is. -/
theorem zoom_on_top {theme : Theme F} {layers places : List (Layer F)}
    (compiled : theme.layers = .ok layers) (placesCompiled : theme.placesLayers = .ok places) :
    ∀ layer ∈ layers ++ places, ∀ entry ∈ layer.layout ++ layer.paint, entry.2.ZoomOnTop := by
  intro layer member
  have usable := usable_layers compiled placesCompiled layer member
  rw [List.forall_mem_append]
  constructor
  · exact fun entry inLayout => (usable.layout entry inLayout).zoomOnTop
  · exact fun entry inPaint => (usable.paint entry inPaint).zoomOnTop

theorem monochrome_zoom_on_top : ∃ layers places,
    (Preset.monochrome : Theme Rat).layers = .ok layers ∧
      (Preset.monochrome : Theme Rat).placesLayers = .ok places ∧
        ∀ layer ∈ layers ++ places, ∀ entry ∈ layer.layout ++ layer.paint, entry.2.ZoomOnTop := by
  obtain ⟨layers, places, compiled, placesCompiled⟩ := monochrome_compiles
  exact ⟨layers, places, compiled, placesCompiled, zoom_on_top compiled placesCompiled⟩

end Theme

end MapStyle
