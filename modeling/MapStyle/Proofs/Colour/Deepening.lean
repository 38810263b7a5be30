import MapStyle.Proofs.Colour.Located
import MapStyle.Proofs.Number.Accuracy

/-!
# Ramps that get darker

The lightness of a written colour, the sum of its greatest and its least byte, lies near that of the
coordinates that it has been computed from. The factors of a ramp are so far apart that it falls
from depth to depth. But the lightness of deep colours is held at a least one, whose sum of bytes
lies between two integers, and there rounding may raise it by one.
-/

namespace MapStyle.Colour

set_option autoImplicit false

open Arithmetic (rational?)

section Bytes

variable {F : Type} [Arithmetic F] [RoundoffArithmetic F] {channel : F} {exact error : Rat}

/-! ### Written bytes -/

/-- A channel that is not far beyond the range of bytes is written as a byte near it. -/
theorem near_quantize (near : Near error exact channel) (small : error ≤ 1 / 10)
    (first : -1 / 4 ≤ exact) (last : exact ≤ 255 + 1 / 4) :
    |(quantize channel : Rat) - exact| ≤ 1 / 2 + (roundoff + error) := by
  have tiny : roundoff ≤ 1 / 10 := by norm_num [roundoff]
  have isHalf : rational? (0.5 : F) = some (1 / 2) := rational?_tenth (by decide) (by norm_num)
  obtain ⟨found, isFound, close⟩ := near.add (near_of_rational? isHalf)
    (abs_le.mpr ⟨by linarith, by linarith⟩ : |exact + 1 / 2| ≤ 256)
    (by norm_num [largestOrdinary]; linarith)
  rw [add_zero, abs_le] at close
  have floorLe : (found.floor : Rat) ≤ found := Rat.le_floor_iff.mp le_rfl
  have ltFloor : found < found.floor + 1 := by
    by_contra reached
    have above : found.floor + 1 ≤ found.floor :=
      Rat.le_floor_iff.mpr (by push_cast; linarith)
    omega
  have notNegative : 0 ≤ found.floor := Rat.le_floor_iff.mpr (by push_cast; linarith)
  have fits : found.floor ≤ 255 := by
    have below : (found.floor : Rat) < 256 := by linarith
    have belowInt : found.floor < 256 := by exact_mod_cast below
    omega
  have isByte : (quantize channel : Int) = found.floor := by
    have isFloor : Arithmetic.floor? (channel + 0.5) = some found.floor := by
      rw [Arithmetic.floor?, isFound, Option.map_some]
    simp only [quantize, isFloor, Option.getD_some]
    omega
  have isByteRat : (quantize channel : Rat) = found.floor := by exact_mod_cast isByte
  rw [isByteRat, abs_le]
  constructor <;> linarith

/-! ### Lightness of written colours -/

variable {colour : Rgb F} {spread : Rgb Rat}

/-- The level of the bytes that channels between zero and one are written as. -/
def Rgb.writtenLevel (colour : Rgb F) : Nat :=
  level (quantize (colour.red * 255.0)) (quantize (colour.green * 255.0))
    (quantize (colour.blue * 255.0))

theorem near_byte {value : F} (near : Near (2 ^ 14 * roundoff) exact value) (notBelow : 0 ≤ exact)
    (notAbove : exact ≤ 1) :
    |(quantize (value * 255.0) : Rat) - 255 * exact| ≤ 1 / 2 + 1 / 200 := by
  have isByte : rational? (255.0 : F) = some 255 := rational?_tenth (by decide) (by norm_num)
  have scaled := near_scaled near isByte (abs_le.mpr ⟨by linarith, by linarith⟩ : |exact| ≤ 1)
    (by norm_num) (by norm_num [largestOrdinary, roundoff])
  rw [mul_comm exact] at scaled
  refine (near_quantize scaled (by norm_num [roundoff]) (by linarith) (by linarith)).trans ?_
  norm_num [roundoff]

theorem near_writtenLevel (near : spread.NearTo (2 ^ 14 * roundoff) colour)
    (notBelow : 0 ≤ spread.low) (notAbove : spread.high ≤ 1) :
    |(colour.writtenLevel : Rat) - 255 * (spread.high + spread.low)| ≤ 1 + 1 / 100 := by
  obtain ⟨⟨redLow, redHigh⟩, ⟨greenLow, greenHigh⟩, blueLow, blueHigh⟩ := spread.within
  have red := near_byte near.red (by linarith) (by linarith)
  have green := near_byte near.green (by linarith) (by linarith)
  have blue := near_byte near.blue (by linarith) (by linarith)
  have high := (abs_max_sub_max_le_max _ _ _ _).trans
    (max_le ((abs_max_sub_max_le_max _ _ _ _).trans (max_le red green)) blue)
  have low := (abs_min_sub_min_le_max _ _ _ _).trans
    (max_le ((abs_min_sub_min_le_max _ _ _ _).trans (max_le red green)) blue)
  rw [← mul_max_of_nonneg _ _ (by norm_num), ← mul_max_of_nonneg _ _ (by norm_num)] at high
  rw [← mul_min_of_nonneg _ _ (by norm_num), ← mul_min_of_nonneg _ _ (by norm_num)] at low
  change |_ - 255 * spread.high| ≤ _ at high
  change |_ - 255 * spread.low| ≤ _ at low
  rw [abs_le] at high low ⊢
  simp only [Rgb.writtenLevel, level]
  push_cast
  constructor <;> linarith

/-- White is written as it is. -/
theorem writtenLevel_white (near : spread.NearTo (2 ^ 14 * roundoff) colour)
    (isLow : spread.low = 1) (isHigh : spread.high = 1) : colour.writtenLevel = 510 := by
  obtain ⟨⟨redLow, redHigh⟩, ⟨greenLow, greenHigh⟩, blueLow, blueHigh⟩ := spread.within
  have full {value : F} {share : Rat} (nearShare : Near (2 ^ 14 * roundoff) share value)
      (notBelow : spread.low ≤ share) (notAbove : share ≤ spread.high) :
      quantize (value * 255.0) = 255 := by
    have close := near_byte nearShare (by linarith) (by linarith)
    have above : (254 : Rat) < quantize (value * 255.0) := by
      rw [abs_le] at close
      linarith
    have fits := quantize_le (value * 255.0)
    have aboveNat : 254 < quantize (value * 255.0) := by exact_mod_cast above
    omega
  simp only [Rgb.writtenLevel, full near.red redLow redHigh, full near.green greenLow greenHigh,
    full near.blue blueLow blueHigh, level]
  rfl

end Bytes

/-! ### One depth -/

/-- A text is a colour of six digits whose bytes have a level. -/
def HasLevel (text : String) (found : Nat) : Prop :=
  ∃ red green blue, HexColour text red green blue ∧ text.length = 7 ∧ level red green blue = found

/-- The lightness at a depth: the part of that of the base, held between the least one and white. -/
def lightnessAt (lightness : Rat) (hundredths : Nat) : Rat :=
  min (max (lightness * (hundredths / 100)) (1 / 20)) 1

/-- What is known of the level that a colour of a lightness is written with. -/
structure IsLevelAt (lightness : Rat) (found : Nat) : Prop where
  near : |(found : Rat) - 510 * lightness| ≤ 1 + 1 / 100
  white : lightness = 1 → found = 510
  fits : found ≤ 510

section Depth

variable {F : Type} [Arithmetic F] [OrderedArithmetic F]

theorem near_clamp {value lower upper : F} {exact error lowerExact upperExact : Rat}
    (near : Near error exact value) (isLower : rational? lower = some lowerExact)
    (isUpper : rational? upper = some upperExact) :
    Near error (min (max exact lowerExact) upperExact) (clamp lower upper value) := by
  have notNegative : 0 ≤ error := by
    obtain ⟨_, _, close⟩ := near
    exact (abs_nonneg _).trans close
  exact (near.larger ((near_of_rational? isLower).mono notNegative)).smaller
    ((near_of_rational? isUpper).mono notNegative)

variable [RoundoffArithmetic F]

/-- The written colour has the level of its lightness, whatever its hue and its saturation are. -/
theorem isLevelAt_written {hue saturated lit : F} {turn saturation lightness : Rat}
    (nearTone : NearTone saturation lightness saturated lit) (isHue : rational? hue = some turn)
    (notBefore : -2 / 3 ≤ turn) (notAfter : turn ≤ 5 / 3) :
    IsLevelAt lightness (unitFromHsl ⟨hue, saturated, lit⟩).writtenLevel := by
  have near := near_unitFromHsl nearTone isHue notBefore notAfter
  obtain ⟨_, _, notBelow, notAbove, lightNotBelow, lightNotAbove⟩ := nearTone
  obtain ⟨isLow, isHigh⟩ :=
    unitFromHsl_ends notBelow notAbove lightNotBelow lightNotAbove notBefore notAfter
  obtain ⟨above, reach, notOver, _⟩ :=
    highOf_bounds notBelow notAbove lightNotBelow lightNotAbove
  have low : lowOf saturation lightness = 2 * lightness - highOf saturation lightness := rfl
  refine ⟨?_, ?_, ?_⟩
  · have close := near_writtenLevel near (by rw [isLow]; linarith) (by rw [isHigh]; exact notOver)
    have middle : 255 * (highOf saturation lightness + lowOf saturation lightness) =
        510 * lightness := by
      rw [low]
      ring
    rwa [isHigh, isLow, middle] at close
  · rintro rfl
    exact writtenLevel_white near (by rw [isLow]; linarith) (by rw [isHigh]; linarith)
  · have red := quantize_le ((unitFromHsl ⟨hue, saturated, lit⟩).red * 255.0)
    have green := quantize_le ((unitFromHsl ⟨hue, saturated, lit⟩).green * 255.0)
    have blue := quantize_le ((unitFromHsl ⟨hue, saturated, lit⟩).blue * 255.0)
    simp only [Rgb.writtenLevel, level]
    omega

variable {base : Hsl F} {lightness : Rat} {saturationPart lightnessPart : Nat}

theorem hundredths_size {count : Nat} (small : count ≤ 200) : |(count : Rat) / 100| ≤ 2 := by
  have smallRat : (count : Rat) ≤ 200 := by exact_mod_cast small
  rw [abs_of_nonneg (by positivity)]
  linarith

theorem exists_clampedSaturation (located : base.Located lightness) (small : saturationPart ≤ 200) :
    ∃ percent, rational? (clamp 0.0 100.0
      (base.saturation * OfScientific.ofScientific saturationPart true 2)) = some percent ∧
        0 ≤ percent ∧ percent ≤ 100 := by
  obtain ⟨percent, isPercent, size⟩ := located.saturation
  obtain ⟨found, isFound, _⟩ := (near_of_rational? isPercent).mul
    (RoundoffArithmetic.hundredth saturationPart small) size (hundredths_size small)
    (by norm_num [largestOrdinary, roundoff])
  obtain ⟨clamped, isClamped, close⟩ :=
    near_clamp (near_of_rational? isFound) rational?_zero rational?_hundred
  obtain rfl : clamped = min (max found 0) 100 :=
    sub_eq_zero.mp (abs_nonpos_iff.mp close)
  exact ⟨_, isClamped, le_min (le_max_right _ _) (by norm_num), min_le_right _ _⟩

theorem near_clampedLightness (located : base.Located lightness) (small : lightnessPart ≤ 200)
    (notBelow : 0 ≤ lightness) (notAbove : lightness ≤ 1) :
    Near (2 ^ 10 * roundoff) (100 * lightnessAt lightness lightnessPart)
      (clamp 5.0 100.0 (base.lightness * OfScientific.ofScientific lightnessPart true 2)) := by
  have isFive : rational? (5.0 : F) = some 5 := rational?_tenth (by decide) (by norm_num)
  have product := located.lightness.mul (RoundoffArithmetic.hundredth lightnessPart small)
    (abs_le.mpr ⟨by linarith, by linarith⟩ : |100 * lightness| ≤ 100) (hundredths_size small)
    (by norm_num [largestOrdinary, roundoff])
  have held : min (max (100 * lightness * (lightnessPart / 100)) 5) 100 =
      100 * lightnessAt lightness lightnessPart := by
    rw [lightnessAt, mul_min_of_nonneg _ _ (by norm_num), mul_max_of_nonneg _ _ (by norm_num)]
    norm_num [mul_assoc]
  rw [← held]
  exact near_clamp (product.mono (by norm_num [roundoff])) isFive rational?_hundred

variable [WholeArithmetic F]

/-- The colour of one depth. -/
theorem returns_depth (located : base.Located lightness) (notBelow : 0 ≤ lightness)
    (notAbove : lightness ≤ 1) (saturationSmall : saturationPart ≤ 200)
    (lightnessSmall : lightnessPart ≤ 200) :
    Returns (fun text => ∃ found, HasLevel text found ∧
        IsLevelAt (lightnessAt lightness lightnessPart) found)
      (hslToHex (.real base.hue)
        (.real (clamp 0.0 100.0
          (base.saturation * OfScientific.ofScientific saturationPart true 2)))
        (.real (clamp 5.0 100.0
          (base.lightness * OfScientific.ofScientific lightnessPart true 2)))) := by
  obtain ⟨full, hundred, isFull, isHundred, written⟩ := exists_hslToHex (F := F)
  obtain ⟨degrees, isDegrees, first, last⟩ := located.hue
  obtain ⟨percent, isPercent, percentNotBelow, percentNotAbove⟩ :=
    exists_clampedSaturation located saturationSmall
  have light := near_clampedLightness located lightnessSmall notBelow notAbove
  have lightNotBelow : 0 ≤ lightnessAt lightness lightnessPart :=
    le_min ((by norm_num : (0 : Rat) ≤ 1 / 20).trans (le_max_right _ _)) zero_le_one
  have lightNotAbove : lightnessAt lightness lightnessPart ≤ 1 := min_le_right _ _
  have tiny : roundoff ≤ 1 / 100 := by norm_num [roundoff]
  obtain ⟨turn, isTurn, close⟩ := (near_of_rational? isDegrees).div isFull (by norm_num)
    (abs_le.mpr ⟨by linarith, by linarith⟩ : |degrees / 360| ≤ 2)
    (by norm_num [largestOrdinary])
  rw [zero_div, add_zero, abs_le] at close
  have nearSaturation := (near_of_rational? isPercent).div isHundred (by norm_num)
    (abs_le.mpr ⟨by linarith, by linarith⟩ : |percent / 100| ≤ 1)
    (by norm_num [largestOrdinary])
  have nearLightness := light.div isHundred (by norm_num)
    (abs_le.mpr ⟨by linarith, by linarith⟩ :
      |100 * lightnessAt lightness lightnessPart / 100| ≤ 1)
    (by norm_num [largestOrdinary, roundoff])
  rw [mul_div_cancel_left₀ _ (by norm_num)] at nearLightness
  rw [written, Returns.ok_iff]
  have nearTone : NearTone _ _ _ _ :=
    ⟨nearSaturation.mono (by norm_num [roundoff]), nearLightness.mono (by norm_num [roundoff]),
      by linarith, by linarith, lightNotBelow, lightNotAbove⟩
  refine ⟨_, ⟨_, _, _, hexColour_rgbToHex _, length_rgbToHex _, rfl⟩, ?_⟩
  exact isLevelAt_written nearTone isTurn (by linarith) (by linarith)

end Depth

/-! ### All depths -/

/-- The factors of saturation and lightness, in hundredths. -/
def depthHundredths : List (Nat × Nat) :=
  [(130, 180), (135, 150), (140, 120), (145, 100), (150, 75), (155, 50), (160, 30)]

theorem depthFactors_eq {F : Type} [Arithmetic F] : depthFactors (F := F) =
    depthHundredths.map fun part =>
      (OfScientific.ofScientific part.1 true 2, OfScientific.ofScientific part.2 true 2) :=
  rfl

/-- A deeper colour is not lighter, unless both are held at the least lightness. -/
def Deepens (shallow deep : Nat) : Prop :=
  deep ≤ shallow ∨ shallow = 25 ∧ deep = 26

section Levels

variable {lightness : Rat} {shallow deep shallowLevel deepLevel : Nat}

/-- What is held at the least lightness is written with one of two levels. -/
theorem IsLevelAt.of_least {found : Nat} (isLevel : IsLevelAt (1 / 20) found) :
    found = 25 ∨ found = 26 := by
  obtain ⟨near, _, _⟩ := isLevel
  rw [abs_le] at near
  have above : (24 : Rat) < found := by linarith
  have below : (found : Rat) < 27 := by linarith
  have aboveNat : 24 < found := by exact_mod_cast above
  have belowNat : found < 27 := by exact_mod_cast below
  omega

/-- From depth to depth the lightness falls by a sixth, unless it is held. -/
theorem deepens_of_parts (notBelow : 0 ≤ lightness) (fall : 6 * deep ≤ 5 * shallow)
    (isShallow : IsLevelAt (lightnessAt lightness shallow) shallowLevel)
    (isDeep : IsLevelAt (lightnessAt lightness deep) deepLevel) :
    Deepens shallowLevel deepLevel := by
  have fallRat : (6 * deep : Rat) ≤ 5 * shallow := by exact_mod_cast fall
  have sixth : 6 * (lightness * (deep / 100)) ≤ 5 * (lightness * (shallow / 100)) := by
    have scaled := mul_le_mul_of_nonneg_left fallRat notBelow
    linarith
  obtain bright | dim := le_or_gt 1 (lightness * ((shallow : Rat) / 100))
  · have white : lightnessAt lightness shallow = 1 :=
      min_eq_right (bright.trans (le_max_left _ _))
    rw [isShallow.white white]
    exact .inl isDeep.fits
  have shallowIs : lightnessAt lightness shallow = max (lightness * (shallow / 100)) (1 / 20) :=
    min_eq_left (max_le dim.le (by norm_num))
  have shallowAbove : lightness * (shallow / 100) ≤ lightnessAt lightness shallow := by
    rw [shallowIs]
    exact le_max_left _ _
  have shallowLeast : 1 / 20 ≤ lightnessAt lightness shallow := by
    rw [shallowIs]
    exact le_max_right _ _
  have shallowNear := abs_le.mp isShallow.near
  have product : 0 ≤ lightness * ((deep : Rat) / 100) := by positivity
  obtain held | free := le_or_gt (lightness * ((deep : Rat) / 100)) (1 / 20)
  · have least : lightnessAt lightness deep = 1 / 20 := by
      rw [lightnessAt, max_eq_right held]
      norm_num
    rw [least] at isDeep
    have above : (24 : Rat) < shallowLevel := by linarith
    have aboveNat : 24 < shallowLevel := by exact_mod_cast above
    have deepIs := isDeep.of_least
    unfold Deepens
    omega
  · have deepIs : lightnessAt lightness deep = lightness * (deep / 100) := by
      rw [lightnessAt, max_eq_left free.le]
      exact min_eq_left (by linarith)
    have deepNear := abs_le.mp isDeep.near
    rw [deepIs] at deepNear
    have apart : (deepLevel : Rat) < shallowLevel := by linarith
    have apartNat : deepLevel < shallowLevel := by exact_mod_cast apart
    exact .inl apartNat.le

/-- Half of a lightness that is not too small is above the least one. -/
theorem above_least (light : 53 ≤ 510 * lightness) (notBelow : 50 ≤ shallow)
    (isShallow : IsLevelAt (lightnessAt lightness shallow) shallowLevel) : 25 < shallowLevel := by
  obtain ⟨near, white, _⟩ := isShallow
  have partRat : (50 : Rat) ≤ shallow := by exact_mod_cast notBelow
  have base : 53 / 510 ≤ lightness := by linarith
  have half : 53 / 1020 ≤ lightness * ((shallow : Rat) / 100) := by
    calc (53 : Rat) / 1020 = 53 / 510 * (50 / 100) := by norm_num
      _ ≤ lightness * (shallow / 100) := by gcongr
  have held : 53 / 1020 ≤ lightnessAt lightness shallow :=
    le_min (half.trans (le_max_left _ _)) (by norm_num)
  rw [abs_le] at near
  have above : (25 : Rat) < shallowLevel := by linarith
  exact_mod_cast above

end Levels

/-- Two relations that meet are followed one after the other. -/
theorem exists_between {α β γ : Type} {first : α → β → Prop} {second : γ → β → Prop}
    {items : List α} {results : List γ}
    (each : List.Forall₂ (fun item result => ∃ middle, second result middle ∧ first item middle)
      items results) :
    ∃ middles, List.Forall₂ second results middles ∧ List.Forall₂ first items middles := by
  induction each with
  | nil => exact ⟨[], .nil, .nil⟩
  | cons meets _ ih =>
      obtain ⟨middle, isSecond, isFirst⟩ := meets
      obtain ⟨middles, seconds, firsts⟩ := ih
      exact ⟨middle :: middles, .cons isSecond seconds, .cons isFirst firsts⟩

section Ramp

variable {F : Type} [Arithmetic F] [OrderedArithmetic F] [RoundoffArithmetic F]
  [WholeArithmetic F] {text : String} {red green blue : Nat}

/-- The colours of a ramp from shallow to deep. -/
theorem returns_levels (hex : HexColour text red green blue) :
    Returns (List.Forall₂ (fun part written => ∃ found, HasLevel written found ∧
        IsLevelAt (lightnessAt (level red green blue / 510) part.2) found) depthHundredths)
      (bathymetryRamp (F := F) text) := by
  obtain ⟨redFits, greenFits, blueFits⟩ := hex.le
  have fits : level red green blue ≤ 510 := by
    unfold level
    omega
  have fitsRat : (level red green blue : Rat) ≤ 510 := by exact_mod_cast fits
  apply (returns_located hex).bind
  intro base located
  rw [depthFactors_eq, List.mapM_map]
  apply Returns.mapM
  intro part member
  have small : part.1 ≤ 200 ∧ part.2 ≤ 200 := by
    have each : ∀ part ∈ depthHundredths, part.1 ≤ 200 ∧ part.2 ≤ 200 := by decide
    exact each part member
  exact returns_depth located (by positivity) (by linarith) small.1 small.2

/-- Of a text there is one level only. -/
theorem HasLevel.unique {found other : Nat} (has : HasLevel text found)
    (hasOther : HasLevel text other) : found = other := by
  obtain ⟨red, green, blue, hex, _, rfl⟩ := has
  obtain ⟨otherRed, otherGreen, otherBlue, otherHex, _, rfl⟩ := hasOther
  have same := (channels?_eq_some_iff.mpr hex.spells).symm.trans
    (channels?_eq_some_iff.mpr otherHex.spells)
  simp only [Option.some.injEq, Prod.mk.injEq, Nat.cast_inj] at same
  rw [same.1, same.2.1, same.2.2]

/-- From each hexadecimal colour seven colours are derived, whose levels are those of the parts of
its lightness. They do not rise with depth, but for one step from 25 to 26 between depths that are
both held at the least lightness. From a colour whose own level is above 52 there is no such step.
-/
theorem levels_fall_unless_held (hex : HexColour text red green blue) :
    ∃ ramp levels, bathymetryRamp (F := F) text = .ok ramp ∧ ramp.length = 7 ∧
      List.Forall₂ HasLevel ramp levels ∧
      List.Forall₂ (fun part found =>
        IsLevelAt (lightnessAt (level red green blue / 510) part.2) found) depthHundredths levels ∧
      levels.Pairwise Deepens ∧
      (52 < level red green blue → levels.Pairwise (· ≥ ·)) := by
  obtain ⟨ramp, isRamp, each⟩ := returns_levels (F := F) hex
  obtain ⟨levels, hasLevels, areLevels⟩ := exists_between each
  have notBelow : (0 : Rat) ≤ level red green blue / 510 := by positivity
  have falling : depthHundredths.Pairwise fun shallow deep =>
      6 * deep.2 ≤ 5 * shallow.2 ∧ 50 ≤ shallow.2 := by
    decide
  refine ⟨ramp, levels, isRamp, each.length_eq.symm, hasLevels, areLevels, ?_, fun light => ?_⟩
  · exact pairwise_of_forall₂ areLevels falling fun falls isShallow isDeep =>
      deepens_of_parts notBelow falls.1 isShallow isDeep
  · refine pairwise_of_forall₂ areLevels falling fun falls isShallow isDeep => ?_
    have lightRat : (53 : Rat) ≤ level red green blue := by exact_mod_cast light
    have above := above_least (by linarith) falls.2 isShallow
    obtain notLighter | ⟨isLeast, _⟩ := deepens_of_parts notBelow falls.1 isShallow isDeep
    · exact notLighter
    · omega

end Ramp

/-- The blue of a sea gets darker with depth. -/
theorem seaBlue_falls : HexColour "#1e4a7a" 30 74 122 ∧ 52 < level 30 74 122 ∧
    ∃ ramp levels, bathymetryRamp (F := Float) "#1e4a7a" = .ok ramp ∧ ramp.length = 7 ∧
      List.Forall₂ HasLevel ramp levels ∧ levels.Pairwise (· ≥ ·) := by
  have hex : HexColour "#1e4a7a" 30 74 122 :=
    ⟨['1', 'e', '4', 'a', '7', 'a'], rfl,
      show HexDigits _ (16 * 1 + 14) (16 * 4 + 10) (16 * 7 + 10) from
        .long ⟨by decide, by decide⟩ ⟨by decide, by decide⟩ ⟨by decide, by decide⟩
          ⟨by decide, by decide⟩ ⟨by decide, by decide⟩ ⟨by decide, by decide⟩⟩
  have light : 52 < level 30 74 122 := by decide
  obtain ⟨ramp, levels, isRamp, seven, hasLevels, _, _, fall⟩ :=
    levels_fall_unless_held (F := Float) hex
  exact ⟨hex, light, ramp, levels, isRamp, seven, hasLevels, fall light⟩

/-- A dark olive has a ramp that gets lighter at its end. -/
theorem darkOlive_rises : HexColour "#080806" 8 8 6 ∧
    ∃ ramp, bathymetryRamp (F := Float) "#080806" = .ok ramp ∧
      ∀ levels, List.Forall₂ HasLevel ramp levels → ¬levels.Pairwise (· ≥ ·) := by
  have isRamp : (bathymetryRamp (F := Float) "#080806").toOption =
      some ["#0f0f0a", "#0f0f0a", "#0f0f0a", "#0f0f0a", "#0f0f0a", "#10100a", "#10100a"] := by
    decide +kernel
  have lower : HasLevel "#0f0f0a" 25 :=
    ⟨16 * 0 + 15, 16 * 0 + 15, 16 * 0 + 10, ⟨['0', 'f', '0', 'f', '0', 'a'], rfl,
      .long ⟨by decide, by decide⟩ ⟨by decide, by decide⟩ ⟨by decide, by decide⟩
        ⟨by decide, by decide⟩ ⟨by decide, by decide⟩ ⟨by decide, by decide⟩⟩, rfl, rfl⟩
  have higher : HasLevel "#10100a" 26 :=
    ⟨16 * 1 + 0, 16 * 1 + 0, 16 * 0 + 10, ⟨['1', '0', '1', '0', '0', 'a'], rfl,
      .long ⟨by decide, by decide⟩ ⟨by decide, by decide⟩ ⟨by decide, by decide⟩
        ⟨by decide, by decide⟩ ⟨by decide, by decide⟩ ⟨by decide, by decide⟩⟩, rfl, rfl⟩
  have olive : HexColour "#080806" 8 8 6 :=
    ⟨['0', '8', '0', '8', '0', '6'], rfl,
      show HexDigits _ (16 * 0 + 8) (16 * 0 + 8) (16 * 0 + 6) from
        .long ⟨by decide, by decide⟩ ⟨by decide, by decide⟩ ⟨by decide, by decide⟩
          ⟨by decide, by decide⟩ ⟨by decide, by decide⟩ ⟨by decide, by decide⟩⟩
  generalize bathymetryRamp (F := Float) "#080806" = derived at isRamp ⊢
  cases derived with
  | error fault => cases isRamp
  | ok ramp =>
      cases isRamp
      refine ⟨olive, _, rfl, fun levels hasLevels => ?_⟩
      have known : List.Forall₂ HasLevel
          ["#0f0f0a", "#0f0f0a", "#0f0f0a", "#0f0f0a", "#0f0f0a", "#10100a", "#10100a"]
          [25, 25, 25, 25, 25, 26, 26] :=
        .cons lower (.cons lower (.cons lower (.cons lower (.cons lower
          (.cons higher (.cons higher .nil))))))
      have same : Relator.RightUnique HasLevel := fun _ _ _ => HasLevel.unique
      rw [same.forall₂ hasLevels known]
      decide

end MapStyle.Colour
