import Mathlib.Tactic.FieldSimp
import MapStyle.Proofs.Colour.Quantized
import MapStyle.Proofs.Colour.Ramp
import MapStyle.Proofs.Colour.Wheel
import MapStyle.Proofs.Number.Roundoff

/-!
# Colours that are converted to the cylinder and back

Over exact arithmetic the hue of a colour is the place on the wheel where the channels have the
shares that they have in the colour, and saturation and lightness give the two ends of its range
again. So a hexadecimal colour that is converted to hue, saturation and lightness comes back as
itself.
-/

namespace MapStyle.Colour

set_option autoImplicit false

open Arithmetic (larger smaller)

/-! ### The range of the channels -/

theorem larger_eq_max (left right : Rat) : larger left right = max left right :=
  Option.some_inj.mp (rational?_larger (F := Rat) rfl rfl)

theorem smaller_eq_min (left right : Rat) : smaller left right = min left right :=
  Option.some_inj.mp (rational?_smaller (F := Rat) rfl rfl)

/-- The part of the way from the low to the high end at which a channel lies. -/
def share (low high channel : Rat) : Rat :=
  (channel - low) / (high - low)

/-- At a hue within the turn the channels have the shares that they have in a colour. -/
structure Rgb.LiesAt (colour : Rgb Rat) (low high turn : Rat) : Prop where
  notBefore : 0 ≤ turn
  before : turn < 1
  shares : SharesAt turn (share low high colour.red) (share low high colour.green)
    (share low high colour.blue)

section Spans

variable {low high channel red green blue : Rat}

theorem share_low : share low high low = 0 := by
  rw [share, sub_self, zero_div]

theorem share_high (lt : low < high) : share low high high = 1 :=
  div_self (sub_pos.mpr lt).ne'

theorem share_mem (lt : low < high) (notBelow : low ≤ channel) (notAbove : channel ≤ high) :
    0 ≤ share low high channel ∧ share low high channel ≤ 1 := by
  have positive : 0 < high - low := sub_pos.mpr lt
  rw [share, le_div_iff₀ positive, div_le_one positive]
  constructor <;> linarith

theorem share_pos (lt : low < channel) (notAbove : channel ≤ high) : 0 < share low high channel :=
  div_pos (sub_pos.mpr lt) (sub_pos.mpr (lt.trans_le notAbove))

theorem share_restore (lt : low < high) :
    low + (high - low) * share low high channel = channel := by
  rw [share, mul_div_cancel₀ _ (sub_pos.mpr lt).ne', add_sub_cancel]

/-- The difference of two channels, one of which is the least, as a part of the range. -/
theorem sub_low_div : (channel - low) / (high - low) = share low high channel :=
  rfl

theorem low_sub_div : (low - channel) / (high - low) = -share low high channel := by
  rw [share, ← neg_div, neg_sub]

/-! The hue is measured from the greatest channel, which is red, green or blue. -/

theorem hueTurn_red (range : Rat) : hueTurn ⟨red, green, blue⟩ red range =
    if green < blue then (green - blue) / range / 6 + 1 else (green - blue) / range / 6 := by
  rw [hueTurn, Exact.same_eq_decide, Exact.lt_eq_decide]
  norm_num
  split_ifs <;> ring

theorem hueTurn_green (different : green ≠ red) (range : Rat) :
    hueTurn ⟨red, green, blue⟩ green range = (blue - red) / range / 6 + 1 / 3 := by
  rw [hueTurn, Exact.same_eq_decide, Exact.same_eq_decide]
  norm_num [different]
  ring

theorem hueTurn_blue (notRed : blue ≠ red) (notGreen : blue ≠ green) (range : Rat) :
    hueTurn ⟨red, green, blue⟩ blue range = (red - green) / range / 6 + 2 / 3 := by
  rw [hueTurn, Exact.same_eq_decide, Exact.same_eq_decide]
  norm_num [notRed, notGreen]
  ring

theorem liesAt_hueTurn_red (greenLe : green ≤ red) (blueLe : blue ≤ red)
    (lt : min green blue < red) :
    (⟨red, green, blue⟩ : Rgb Rat).LiesAt (min green blue) red
      (hueTurn ⟨red, green, blue⟩ red (red - min green blue)) := by
  rw [hueTurn_red]
  obtain behind | ahead := lt_or_ge green blue
  · rw [min_eq_left behind.le] at lt ⊢
    obtain ⟨notBelow, notAbove⟩ := share_mem lt behind.le blueLe
    have positive := share_pos behind blueLe
    rw [if_pos behind, low_sub_div]
    have place : -share green red blue / 6 + 1 =
        1 / 3 - share green red blue / 6 + 1 / 3 + 1 / 3 := by
      ring
    refine ⟨by linarith, by linarith, ?_⟩
    dsimp only
    rw [share_low, share_high lt, place]
    exact ((sharesAt_falling notBelow notAbove).rotate (by linarith) (by linarith)).rotate
      (by linarith) (by linarith)
  · rw [min_eq_right ahead] at lt ⊢
    obtain ⟨notBelow, notAbove⟩ := share_mem lt ahead greenLe
    rw [if_neg ahead.not_gt, sub_low_div]
    refine ⟨by linarith, by linarith, ?_⟩
    dsimp only
    rw [share_low, share_high lt]
    exact sharesAt_rising notBelow notAbove

theorem liesAt_hueTurn_green (redLt : red < green) (blueLe : blue ≤ green) :
    (⟨red, green, blue⟩ : Rgb Rat).LiesAt (min red blue) green
      (hueTurn ⟨red, green, blue⟩ green (green - min red blue)) := by
  rw [hueTurn_green redLt.ne']
  obtain behind | ahead := le_or_gt red blue
  · rw [min_eq_left behind]
    obtain ⟨notBelow, notAbove⟩ := share_mem redLt behind blueLe
    rw [sub_low_div]
    refine ⟨by linarith, by linarith, ?_⟩
    dsimp only
    rw [share_low, share_high redLt]
    exact (sharesAt_rising notBelow notAbove).rotate (by linarith) (by linarith)
  · have lt : blue < green := ahead.trans redLt
    rw [min_eq_right ahead.le]
    obtain ⟨notBelow, notAbove⟩ := share_mem lt ahead.le redLt.le
    have place : -share blue green red / 6 + 1 / 3 = 1 / 3 - share blue green red / 6 := by ring
    rw [low_sub_div, place]
    refine ⟨by linarith, by linarith, ?_⟩
    dsimp only
    rw [share_low, share_high lt]
    exact sharesAt_falling notBelow notAbove

theorem liesAt_hueTurn_blue (redLt : red < blue) (greenLt : green < blue) :
    (⟨red, green, blue⟩ : Rgb Rat).LiesAt (min red green) blue
      (hueTurn ⟨red, green, blue⟩ blue (blue - min red green)) := by
  rw [hueTurn_blue redLt.ne' greenLt.ne']
  obtain behind | ahead := lt_or_ge red green
  · rw [min_eq_left behind.le]
    obtain ⟨notBelow, notAbove⟩ := share_mem redLt behind.le greenLt.le
    have place : -share red blue green / 6 + 2 / 3 = 1 / 3 - share red blue green / 6 + 1 / 3 := by
      ring
    rw [low_sub_div, place]
    refine ⟨by linarith, by linarith, ?_⟩
    dsimp only
    rw [share_low, share_high redLt]
    exact (sharesAt_falling notBelow notAbove).rotate (by linarith) (by linarith)
  · rw [min_eq_right ahead]
    obtain ⟨notBelow, notAbove⟩ := share_mem greenLt ahead redLt.le
    have place : share green blue red / 6 + 2 / 3 =
        share green blue red / 6 + 1 / 3 + 1 / 3 := by
      ring
    rw [sub_low_div, place]
    refine ⟨by linarith, by linarith, ?_⟩
    dsimp only
    rw [share_low, share_high greenLt]
    exact ((sharesAt_rising notBelow notAbove).rotate (by linarith) (by linarith)).rotate
      (by linarith) (by linarith)

end Spans

/-! ### The ends of the range -/

/-- The least channel of a colour. -/
def Rgb.low (colour : Rgb Rat) : Rat :=
  min (min colour.red colour.green) colour.blue

/-- The greatest channel of a colour. -/
def Rgb.high (colour : Rgb Rat) : Rat :=
  max (max colour.red colour.green) colour.blue

theorem Rgb.liesAt_hueTurn {colour : Rgb Rat} (lt : colour.low < colour.high) :
    colour.LiesAt colour.low colour.high
      (hueTurn colour colour.high (colour.high - colour.low)) := by
  obtain ⟨red, green, blue⟩ := colour
  simp only [low, high] at lt ⊢
  obtain greenLe | redLt := le_or_gt green red
  · rw [max_eq_left greenLe, min_eq_right greenLe] at lt ⊢
    obtain blueLe | redLt := le_or_gt blue red
    · rw [max_eq_left blueLe] at lt ⊢
      exact liesAt_hueTurn_red greenLe blueLe lt
    · have greenLt := greenLe.trans_lt redLt
      have lies := liesAt_hueTurn_blue redLt greenLt
      rw [min_eq_right greenLe] at lies
      rwa [max_eq_right redLt.le, min_eq_left greenLt.le]
  · rw [max_eq_right redLt.le, min_eq_left redLt.le] at lt ⊢
    obtain blueLe | greenLt := le_or_gt blue green
    · rw [max_eq_left blueLe] at lt ⊢
      exact liesAt_hueTurn_green redLt blueLe
    · have lies := liesAt_hueTurn_blue (redLt.trans greenLt) greenLt
      rw [min_eq_left redLt.le] at lies
      rwa [max_eq_right greenLt.le, min_eq_left (redLt.trans greenLt).le]

/-! ### Saturation and lightness -/

/-- The saturation of a colour with the given ends of the range. -/
def saturationOf (low high : Rat) : Rat :=
  if 1 / 2 < (high + low) / 2 then (high - low) / (2 - high - low) else (high - low) / (high + low)

section Ends

variable {low high : Rat}

theorem saturationOf_mem (notBelow : 0 ≤ low) (lt : low < high) (notAbove : high ≤ 1) :
    0 < saturationOf low high ∧ saturationOf low high ≤ 1 := by
  unfold saturationOf
  split_ifs with light
  · have positive : 0 < 2 - high - low := by linarith
    exact ⟨div_pos (by linarith) positive, (div_le_one positive).mpr (by linarith)⟩
  · have positive : 0 < high + low := by linarith
    exact ⟨div_pos (by linarith) positive, (div_le_one positive).mpr (by linarith)⟩

/-- The high end of the range follows from saturation and lightness. -/
def highOf (saturation lightness : Rat) : Rat :=
  if lightness < 1 / 2 then lightness * (1 + saturation)
  else lightness + saturation - lightness * saturation

theorem highOf_saturationOf (notBelow : 0 ≤ low) (lt : low < high) (notAbove : high ≤ 1) :
    highOf (saturationOf low high) ((high + low) / 2) = high := by
  unfold highOf saturationOf
  obtain dark | even | light := lt_trichotomy ((high + low) / 2) (1 / 2)
  · have sum : high + low ≠ 0 := by linarith
    rw [if_pos dark, if_neg dark.not_gt]
    field_simp
    ring
  · have complement : low = 1 - high := by linarith
    rw [if_neg even.not_lt, if_neg even.not_gt, complement]
    ring
  · have rest : 2 - high - low ≠ 0 := by linarith
    rw [if_neg light.not_gt, if_pos light]
    field_simp
    ring

theorem unitFromHsl_eq {saturation lightness : Rat} (turn : Rat) (coloured : saturation ≠ 0)
    (isHigh : highOf saturation lightness = high) (isLow : 2 * lightness - high = low) :
    unitFromHsl ⟨turn, saturation, lightness⟩ =
      ⟨hueToChannel low high (turn + 1 / 3), hueToChannel low high turn,
        hueToChannel low high (turn - 1 / 3)⟩ := by
  rw [← isLow, ← isHigh]
  norm_num [unitFromHsl, highOf, Exact.same_eq_decide, Exact.lt_eq_decide, coloured]

/-- Without saturation every channel has the lightness. -/
theorem unitFromHsl_grey (turn lightness : Rat) :
    unitFromHsl ⟨turn, 0, lightness⟩ = ⟨lightness, lightness, lightness⟩ := by
  norm_num [unitFromHsl, Exact.same_eq_decide]

/-- With the ends of its range and a hue at which it lies a colour is computed again. -/
theorem Rgb.LiesAt.restored {colour : Rgb Rat} {turn : Rat} (lies : colour.LiesAt low high turn)
    (notBelow : 0 ≤ low) (lt : low < high) (notAbove : high ≤ 1) :
    unitFromHsl ⟨turn, saturationOf low high, (high + low) / 2⟩ = colour := by
  obtain ⟨notBefore, before, shares⟩ := lies
  have coloured := (saturationOf_mem notBelow lt notAbove).1.ne'
  have channel {place : Rat} (first : -1 ≤ place) (last : place ≤ 2) :=
    hueToChannel_eq low high first last
  have isLow : 2 * ((high + low) / 2) - high = low := by ring
  rw [unitFromHsl_eq turn coloured (highOf_saturationOf notBelow lt notAbove) isLow,
    channel (by linarith) (by linarith), channel (by linarith) (by linarith),
    channel (by linarith) (by linarith), shares.red, shares.green, shares.blue,
    share_restore lt, share_restore lt, share_restore lt]

end Ends

/-! ### There and back -/

theorem unitToHsl_eq (colour : Rgb Rat) : unitToHsl colour =
    if colour.low = colour.high then ⟨0, 0, (colour.high + colour.low) / 2 * 100⟩
    else ⟨hueTurn colour colour.high (colour.high - colour.low) * 360,
      saturationOf colour.low colour.high * 100, (colour.high + colour.low) / 2 * 100⟩ := by
  norm_num [unitToHsl, Rgb.low, Rgb.high, larger_eq_max, smaller_eq_min, Exact.same_eq_decide,
    Exact.lt_eq_decide, saturationOf]
  simp only [eq_comm]

theorem hslToHex_eq (hue saturation lightness : Rat) :
    hslToHex (.real hue) (.real saturation) (.real lightness) =
      let colour := unitFromHsl ⟨hue / 360, saturation / 100, lightness / 100⟩
      .ok (rgbToHex ⟨colour.red * 255, colour.green * 255, colour.blue * 255⟩) := by
  obtain ⟨full, hundred, isFull, isHundred, written⟩ := exists_hslToHex (F := Rat)
  cases isFull
  cases isHundred
  have byte : (255.0 : Rat) = 255 := by norm_num
  rw [written, byte]

/-- Coordinates within the bounds that they have in style sheets. -/
structure Hsl.InRange (colour : Hsl Rat) : Prop where
  hue : 0 ≤ colour.hue ∧ colour.hue < 360
  saturation : 0 ≤ colour.saturation ∧ colour.saturation ≤ 100
  lightness : 0 ≤ colour.lightness ∧ colour.lightness ≤ 100

theorem Rgb.within (colour : Rgb Rat) : (colour.low ≤ colour.red ∧ colour.red ≤ colour.high) ∧
    (colour.low ≤ colour.green ∧ colour.green ≤ colour.high) ∧
    (colour.low ≤ colour.blue ∧ colour.blue ≤ colour.high) := by
  simp [low, high]

theorem Rgb.low_le_high (colour : Rgb Rat) : colour.low ≤ colour.high :=
  colour.within.1.1.trans colour.within.1.2

theorem Rgb.eq_of_grey {colour : Rgb Rat} (grey : colour.low = colour.high) :
    colour = ⟨colour.high, colour.high, colour.high⟩ := by
  obtain ⟨⟨redLow, redHigh⟩, ⟨greenLow, greenHigh⟩, blueLow, blueHigh⟩ := colour.within
  rw [grey] at redLow greenLow blueLow
  obtain ⟨red, green, blue⟩ := colour
  rw [Rgb.mk.injEq]
  exact ⟨redHigh.antisymm redLow, greenHigh.antisymm greenLow, blueHigh.antisymm blueLow⟩

/-- Channels between zero and one have coordinates within the bounds, and the channels that are
computed from these are the same. -/
theorem unitToHsl_restored {colour : Rgb Rat} (notBelow : 0 ≤ colour.low)
    (notAbove : colour.high ≤ 1) : (unitToHsl colour).InRange ∧
      unitFromHsl ⟨(unitToHsl colour).hue / 360, (unitToHsl colour).saturation / 100,
        (unitToHsl colour).lightness / 100⟩ = colour := by
  have ordered := colour.low_le_high
  have lightness : 0 ≤ (colour.high + colour.low) / 2 * 100 ∧
      (colour.high + colour.low) / 2 * 100 ≤ 100 :=
    ⟨by linarith, by linarith⟩
  rw [unitToHsl_eq]
  obtain grey | lt := ordered.eq_or_lt
  · rw [if_pos grey]
    refine ⟨⟨by norm_num, by norm_num, lightness⟩, ?_⟩
    have isHigh : (colour.high + colour.low) / 2 * 100 / 100 = colour.high := by
      rw [grey]
      ring
    dsimp only
    rw [isHigh, zero_div, zero_div, unitFromHsl_grey]
    exact (Rgb.eq_of_grey grey).symm
  · rw [if_neg lt.ne]
    have lies := Rgb.liesAt_hueTurn lt
    obtain ⟨positive, atMost⟩ := saturationOf_mem notBelow lt notAbove
    refine ⟨⟨⟨?_, ?_⟩, ⟨?_, ?_⟩, lightness⟩, ?_⟩
    · linarith [lies.notBefore]
    · linarith [lies.before]
    · linarith
    · linarith
    · dsimp only
      rw [mul_div_cancel_right₀ _ (by norm_num), mul_div_cancel_right₀ _ (by norm_num),
        mul_div_cancel_right₀ _ (by norm_num)]
      exact lies.restored notBelow lt notAbove

section Converted

variable {text : String} {red green blue : Nat}

theorem HexColour.hexToHsl_eq_ok (hex : HexColour text red green blue) :
    hexToHsl text =
      (.ok (unitToHsl ⟨red / 255, green / 255, blue / 255⟩) : Result Rat (Hsl Rat)) := by
  have byte : (255.0 : Rat) = 255 := by norm_num
  rw [← byte]
  exact bind_eq_ok.mpr ⟨_, hex.hexToRgb_eq_ok, rfl⟩

/-- A hexadecimal colour has a hue below a full turn and a saturation and a lightness of at most
one hundred, and is written from them in lower case with six digits. -/
theorem converted_back (hex : HexColour text red green blue) :
    Returns (fun colour : Hsl Rat => colour.InRange ∧
      hslToHex (.real colour.hue) (.real colour.saturation) (.real colour.lightness) =
        .ok (sixDigits text)) (hexToHsl text) := by
  obtain ⟨redFits, greenFits, blueFits⟩ := hex.le
  have part {byte : Nat} (fits : byte ≤ 255) : (0 : Rat) ≤ byte / 255 ∧ (byte / 255 : Rat) ≤ 1 := by
    have bound : (byte : Rat) ≤ 255 := by exact_mod_cast fits
    exact ⟨by positivity, (div_le_one (by norm_num)).mpr bound⟩
  have notBelow : (0 : Rat) ≤ Rgb.low ⟨red / 255, green / 255, blue / 255⟩ :=
    le_min (le_min (part redFits).1 (part greenFits).1) (part blueFits).1
  have notAbove : Rgb.high ⟨red / 255, green / 255, blue / 255⟩ ≤ 1 :=
    max_le (max_le (part redFits).2 (part greenFits).2) (part blueFits).2
  obtain ⟨inRange, restored⟩ := unitToHsl_restored notBelow notAbove
  refine ⟨_, hex.hexToHsl_eq_ok, inRange, ?_⟩
  rw [hslToHex_eq, restored]
  dsimp only
  rw [div_mul_cancel₀ _ (by norm_num), div_mul_cancel₀ _ (by norm_num),
    div_mul_cancel₀ _ (by norm_num), hex.rgbToHex_eq]

end Converted

/-- A short colour in mixed case. -/
theorem amber_converted_back : HexColour "#Fa0" 255 170 0 ∧
    Returns (fun colour : Hsl Rat => colour.InRange ∧
      hslToHex (.real colour.hue) (.real colour.saturation) (.real colour.lightness) =
        .ok "#ffaa00") (hexToHsl "#Fa0") := by
  have hex : HexColour "#Fa0" 255 170 0 :=
    ⟨['F', 'a', '0'], rfl, show HexDigits _ (16 * 15 + 15) (16 * 10 + 10) (16 * 0 + 0) from
      .short ⟨by decide, by decide⟩ ⟨by decide, by decide⟩ ⟨by decide, by decide⟩⟩
  have amber : sixDigits "#Fa0" = "#ffaa00" := by decide
  exact ⟨hex, amber ▸ converted_back hex⟩

end MapStyle.Colour
