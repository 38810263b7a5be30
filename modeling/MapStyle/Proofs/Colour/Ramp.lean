import MapStyle.Colour.Hex
import MapStyle.Colour.Ramp
import MapStyle.Proofs.Colour.Hex

/-!
# Ramps from hexadecimal colours

A text that a theme takes for a hexadecimal colour and that no line break ends has channels, and
depth colours can be derived from it.
-/

namespace MapStyle.Colour

set_option autoImplicit false

open MapStyle.Text

/-! ### Channels -/

/-- Only a line break at its end keeps an accepted text from being a hexadecimal colour. -/
theorem exists_hexColour {text : String} (isHex : isHex text = true)
    (unbroken : text.toList.getLast? ≠ some '\n') :
    ∃ red green blue, HexColour text red green blue := by
  simp only [Colour.isHex, withoutFinalBreak, unbroken, if_false] at isHex
  exact isHexCharacters_iff.mp isHex

variable {F : Type} [Arithmetic F] [WholeArithmetic F] {text : String}

theorem succeeds_hexToRgb (isHex : isHex text = true)
    (unbroken : text.toList.getLast? ≠ some '\n') : Succeeds (hexToRgb (F := F) text) := by
  obtain ⟨red, green, blue, hex⟩ := exists_hexColour isHex unbroken
  exact hex.spells.returns_exactly.succeeds

/-! ### Ramps -/

omit [WholeArithmetic F] in
theorem succeeds_hexToHsl (read : Succeeds (hexToRgb (F := F) text)) :
    Succeeds (hexToHsl (F := F) text) :=
  read.bind fun _ _ => Returns.pure_iff.mpr trivial

variable [OrderedArithmetic F]

/-- Coordinates are divided by the degrees of the turn and by one hundred, and the colour that they
then stand for is written. -/
theorem exists_hslToHex : ∃ full hundred : F, Arithmetic.rational? full = some 360 ∧
    Arithmetic.rational? hundred = some 100 ∧ ∀ hue saturation lightness : F,
      hslToHex (.real hue) (.real saturation) (.real lightness) =
        let colour := unitFromHsl ⟨hue / full, saturation / hundred, lightness / hundred⟩
        .ok (rgbToHex ⟨colour.red * 255.0, colour.green * 255.0, colour.blue * 255.0⟩) := by
  obtain ⟨full, isFull, byFull⟩ :=
    Number.exists_div_whole (F := F) (show SmallWhole 360 by decide) (by decide)
  obtain ⟨hundred, isHundred, byHundred⟩ :=
    Number.exists_div_whole (F := F) (show SmallWhole 100 by decide) (by decide)
  refine ⟨full, hundred, isFull, isHundred, fun hue saturation lightness => ?_⟩
  unfold hslToHex
  have turn : (Number.real hue).div 360 = .ok (.real (hue / full)) := byFull hue
  have part (value : F) : (Number.real value).div 100 = .ok (.real (value / hundred)) :=
    byHundred value
  rw [turn, part, part]
  rfl

theorem succeeds_hslToHex (hue saturation lightness : F) :
    Succeeds (hslToHex (.real hue) (.real saturation) (.real lightness)) := by
  obtain ⟨_, _, _, _, written⟩ := exists_hslToHex (F := F)
  rw [written]
  exact Returns.ok_iff.mpr trivial

/-- The ramp has a colour for each depth. -/
theorem returns_bathymetryRamp (read : Succeeds (hexToRgb (F := F) text)) :
    Returns (fun ramp => ramp.length = (depthFactors (F := F)).length)
      (bathymetryRamp (F := F) text) := by
  apply (succeeds_hexToHsl read).bind
  intro base _
  exact Returns.mapM_length fun _ _ => succeeds_hslToHex _ _ _

end MapStyle.Colour
