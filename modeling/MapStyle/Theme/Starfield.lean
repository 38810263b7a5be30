import MapStyle.Theme.Description

/-!
# Starfield

The background of the globe view. It is drawn by the browser and only handed on here.
-/

namespace MapStyle

set_option autoImplicit false

structure GlowColours where
  inner : Option String
  middle : Option String
  outer : Option String
  fade : Option String

structure StarfieldConfig (F : Type) where
  glowColours : GlowColours
  starCount : Option (Number F)
  glowIntensity : Option (Number F)
  glowSizeMultiplier : Option (Number F)
  glowBlurMultiplier : Option (Number F)

variable {F : Type} [Arithmetic F]

namespace GlowColours

def standard : GlowColours where
  inner := "rgba(200, 200, 200, 0.9)"
  middle := "rgba(150, 150, 150, 0.7)"
  outer := "rgba(100, 100, 100, 0.4)"
  fade := "rgba(50, 50, 50, 0)"

def read (description : Description F) : Result F GlowColours := do
  return {
    inner := ← description.text "inner" standard.inner
    middle := ← description.text "middle" standard.middle
    outer := ← description.text "outer" standard.outer
    fade := ← description.text "fade" standard.fade }

def toJson (colours : GlowColours) : Json F :=
  .object [
    ("inner", .ofText? colours.inner),
    ("middle", .ofText? colours.middle),
    ("outer", .ofText? colours.outer),
    ("fade", .ofText? colours.fade)]

end GlowColours

namespace StarfieldConfig

def standard : StarfieldConfig F where
  glowColours := .standard
  starCount := some 200
  glowIntensity := some 0.5
  glowSizeMultiplier := some 1.25
  glowBlurMultiplier := some 0.1

def read (description : Description F) : Result F (StarfieldConfig F) := do
  return {
    glowColours := ← description.part "glow_colors" .standard GlowColours.read
    starCount := ← description.number "star_count" standard.starCount
    glowIntensity := ← description.number "glow_intensity" standard.glowIntensity
    glowSizeMultiplier :=
      ← description.number "glow_size_multiplier" standard.glowSizeMultiplier
    glowBlurMultiplier :=
      ← description.number "glow_blur_multiplier" standard.glowBlurMultiplier }

def toJson (config : StarfieldConfig F) : Json F :=
  .object [
    ("glow_colors", config.glowColours.toJson),
    ("star_count", .ofNumber? config.starCount),
    ("glow_intensity", .ofNumber? config.glowIntensity),
    ("glow_size_multiplier", .ofNumber? config.glowSizeMultiplier),
    ("glow_blur_multiplier", .ofNumber? config.glowBlurMultiplier)]

end StarfieldConfig

end MapStyle
