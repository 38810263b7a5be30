import MapStyle.Proofs.Colour.Channel
import MapStyle.Proofs.Number.Accuracy

/-!
# Coordinates that are computed with rounding

The lightness that is computed for a colour lies near the middle of the range of its channels. Of
its hue and its saturation only bounds are needed. They are quotients whose divisors are one byte or
more, for a colour without any range of channels is recognized as grey.
-/

namespace MapStyle.Colour

set_option autoImplicit false

open Arithmetic (rational? larger smaller lt same)

variable {F : Type} [Arithmetic F]

/-! ### Coordinates of a colour -/

/-- What is known of coordinates that were computed: the lightness but for rounding, and bounds of
the hue and the saturation. -/
structure Hsl.Located (lightness : Rat) (colour : Hsl F) : Prop where
  hue : ∃ degrees, rational? colour.hue = some degrees ∧ -180 ≤ degrees ∧ degrees ≤ 540
  saturation : ∃ percent, rational? colour.saturation = some percent ∧ |percent| ≤ 2 ^ 16
  lightness : Near (2 ^ 8 * roundoff) (100 * lightness) colour.lightness

variable [RoundoffArithmetic F]

theorem rational?_hundred : rational? (100.0 : F) = some 100 :=
  rational?_tenth (by decide) (by norm_num)

theorem rational?_full : rational? (360.0 : F) = some 360 :=
  rational?_tenth (by decide) (by norm_num)

/-- A quotient whose divisor is not near zero is finite. -/
theorem exists_quotient {left right : F} {leftExact rightExact size : Rat}
    (nearLeft : Near (3 * roundoff) leftExact left)
    (nearRight : Near (6 * roundoff) rightExact right)
    (notNegative : 0 ≤ size) (small : size ≤ 2 ^ 12) (positive : 6 * roundoff < rightExact)
    (within : |leftExact| + 3 * roundoff ≤ size * (rightExact - 6 * roundoff)) :
    ∃ quotient, |quotient| ≤ size ∧ Near roundoff quotient (left / right) := by
  obtain ⟨dividend, isLeft, closeLeft⟩ := nearLeft
  obtain ⟨divisor, isRight, closeRight⟩ := nearRight
  rw [abs_le] at closeRight
  have away : 0 < divisor := by linarith
  have bound : |dividend / divisor| ≤ size := by
    rw [abs_div, abs_of_pos away, div_le_iff₀ away]
    have far := abs_sub_abs_le_abs_sub dividend leftExact
    calc |dividend| ≤ size * (rightExact - 6 * roundoff) := by linarith
      _ ≤ size * divisor := by
        gcongr
        linarith
  exact ⟨_, bound, RoundoffArithmetic.div isLeft isRight away.ne'
    (bound.trans (small.trans (by norm_num [largestOrdinary])))⟩

/-- Sixths of a turn that are counted from one of three channels. -/
theorem exists_turn {sixths offset : F} {part start : Rat} (near : Near roundoff part sixths)
    (size : |part| ≤ 2) (isOffset : rational? offset = some start) (notBelow : 0 ≤ start)
    (notAbove : start ≤ 6) :
    ∃ turn, -1 / 3 ≤ turn ∧ turn ≤ 4 / 3 ∧ Near (2 * roundoff) turn ((sixths + offset) / 6.0) := by
  have bounds := abs_le.mp size
  have sum := near.add (near_of_rational? isOffset)
    (abs_le.mpr ⟨by linarith, by linarith⟩ : |part + start| ≤ 8)
    (by norm_num [largestOrdinary, roundoff])
  have quotient := sum.div rational?_six (by norm_num)
    (abs_le.mpr ⟨by linarith, by linarith⟩ : |(part + start) / 6| ≤ 2)
    (by norm_num [largestOrdinary, roundoff])
  exact ⟨(part + start) / 6, by linarith, by linarith, quotient.mono (by norm_num [roundoff])⟩

section Located

variable {exact : Rgb Rat} {colour : Rgb F}

/-- The range of the channels is not empty: it is as long as one byte at least. -/
structure Rgb.Coloured (exact : Rgb Rat) : Prop where
  notBelow : 0 ≤ exact.low
  notAbove : exact.high ≤ 1
  range : exact.low + 1 / 255 ≤ exact.high

theorem near_difference {left right : F} {leftExact rightExact : Rat}
    (nearLeft : Near roundoff leftExact left) (nearRight : Near roundoff rightExact right)
    (within : |leftExact - rightExact| ≤ 1) :
    Near (3 * roundoff) (leftExact - rightExact) (left - right) :=
  (nearLeft.sub nearRight within (by norm_num [largestOrdinary, roundoff])).mono (by linarith)

theorem exists_hueTurn (high : F) {range : F} (coloured : exact.Coloured)
    (near : exact.NearTo roundoff colour)
    (nearRange : Near (3 * roundoff) (exact.high - exact.low) range) :
    ∃ turn, -1 / 3 ≤ turn ∧ turn ≤ 4 / 3 ∧
      Near (2 * roundoff) turn (hueTurn colour high range) := by
  obtain ⟨notBelow, notAbove, span⟩ := coloured
  obtain ⟨⟨redLow, redHigh⟩, ⟨greenLow, greenHigh⟩, blueLow, blueHigh⟩ := exact.within
  have tiny : 0 ≤ roundoff := roundoff_nonneg
  have small : 100 * roundoff ≤ 1 / 255 := by norm_num [roundoff]
  have isFour : rational? (4.0 : F) = some 4 := rational?_tenth (by decide) (by norm_num)
  have part {left right : F} {leftExact rightExact : Rat} (nearLeft : Near roundoff leftExact left)
      (nearRight : Near roundoff rightExact right)
      (within : |leftExact - rightExact| ≤ exact.high - exact.low) :
      ∃ quotient, |quotient| ≤ 2 ∧ Near roundoff quotient ((left - right) / range) :=
    exists_quotient (near_difference nearLeft nearRight (within.trans (by linarith)))
      (nearRange.mono (by linarith)) (by norm_num) (by norm_num) (by linarith) (by linarith)
  obtain ⟨fromRed, redSize, nearRed⟩ := part near.green near.blue
    (abs_le.mpr ⟨by linarith, by linarith⟩)
  obtain ⟨fromGreen, greenSize, nearGreen⟩ := part near.blue near.red
    (abs_le.mpr ⟨by linarith, by linarith⟩)
  obtain ⟨fromBlue, blueSize, nearBlue⟩ := part near.red near.green
    (abs_le.mpr ⟨by linarith, by linarith⟩)
  unfold hueTurn
  split_ifs
  · exact exists_turn nearRed redSize rational?_six (by norm_num) (by norm_num)
  · exact exists_turn nearRed redSize rational?_zero (by norm_num) (by norm_num)
  · exact exists_turn nearGreen greenSize rational?_two (by norm_num) (by norm_num)
  · exact exists_turn nearBlue blueSize isFour (by norm_num) (by norm_num)

/-- The saturation of a range that is not empty is finite. -/
theorem exists_saturation (lightness : F) {high low : F} (coloured : exact.Coloured)
    (nearHigh : Near roundoff exact.high high) (nearLow : Near roundoff exact.low low) :
    ∃ saturation, |saturation| ≤ 600 ∧ Near roundoff saturation
      (if lt 0.5 lightness then (high - low) / (2.0 - high - low)
        else (high - low) / (high + low)) := by
  obtain ⟨notBelow, notAbove, span⟩ := coloured
  have tiny : 0 ≤ roundoff := roundoff_nonneg
  have small : 1000 * roundoff ≤ 1 / 255 := by norm_num [roundoff]
  have size : |exact.high - exact.low| ≤ 1 := abs_le.mpr ⟨by linarith, by linarith⟩
  have range := near_difference nearHigh nearLow size
  have part {divisor : F} {divisorExact : Rat} (near : Near (6 * roundoff) divisorExact divisor)
      (least : 1 / 255 ≤ divisorExact) :
      ∃ saturation, |saturation| ≤ 600 ∧ Near roundoff saturation ((high - low) / divisor) :=
    exists_quotient range near (by norm_num) (by norm_num) (by linarith) (by linarith)
  split_ifs
  · have rest := (near_of_rational? rational?_two).sub nearHigh
      (abs_le.mpr ⟨by linarith, by linarith⟩ : |2 - exact.high| ≤ 2)
      (by norm_num [largestOrdinary, roundoff])
    have divisor := rest.sub nearLow
      (abs_le.mpr ⟨by linarith, by linarith⟩ : |2 - exact.high - exact.low| ≤ 2)
      (by norm_num [largestOrdinary, roundoff])
    exact part (divisor.mono (by linarith)) (by linarith)
  · have divisor := nearHigh.add nearLow
      (abs_le.mpr ⟨by linarith, by linarith⟩ : |exact.high + exact.low| ≤ 2)
      (by norm_num [largestOrdinary, roundoff])
    exact part (divisor.mono (by linarith)) (by linarith)

theorem near_scaled {value factor : F} {valueExact factorExact error bound : Rat}
    (near : Near error valueExact value) (isFactor : rational? factor = some factorExact)
    (within : |valueExact| ≤ bound) (positive : 0 ≤ factorExact)
    (ordinary : (bound + error) * (factorExact + 0) ≤ largestOrdinary) :
    Near (roundoff + error * factorExact) (valueExact * factorExact) (value * factor) := by
  have product := near.mul (near_of_rational? isFactor) within (abs_of_nonneg positive).le ordinary
  exact product.mono (by rw [add_zero, mul_zero, add_zero])

variable [OrderedArithmetic F]

/-! The ends of the range, as they are computed. -/

def Rgb.highEnd (colour : Rgb F) : F :=
  larger (larger colour.red colour.green) colour.blue

def Rgb.lowEnd (colour : Rgb F) : F :=
  smaller (smaller colour.red colour.green) colour.blue

omit [RoundoffArithmetic F] in
theorem near_ends (near : exact.NearTo roundoff colour) :
    Near roundoff exact.high colour.highEnd ∧ Near roundoff exact.low colour.lowEnd :=
  ⟨(near.red.larger near.green).larger near.blue, (near.red.smaller near.green).smaller near.blue⟩

omit [OrderedArithmetic F] in
/-- The lightness is in the middle of the range. -/
theorem near_lightness {high low : F} (nearHigh : Near roundoff exact.high high)
    (nearLow : Near roundoff exact.low low) (notBelow : 0 ≤ exact.low) (notAbove : exact.high ≤ 1) :
    Near (2 ^ 8 * roundoff) (100 * ((exact.high + exact.low) / 2))
      ((high + low) / 2.0 * 100.0) := by
  have ordered := exact.low_le_high
  have sum := nearHigh.add nearLow
    (abs_le.mpr ⟨by linarith, by linarith⟩ : |exact.high + exact.low| ≤ 2)
    (by norm_num [largestOrdinary, roundoff])
  have size : |(exact.high + exact.low) / 2| ≤ 1 := abs_le.mpr ⟨by linarith, by linarith⟩
  have middle := sum.div rational?_two (by norm_num) size (by norm_num [largestOrdinary, roundoff])
  rw [mul_comm 100]
  exact (near_scaled middle rational?_hundred size (by norm_num)
    (by norm_num [largestOrdinary, roundoff])).mono (by norm_num [roundoff])

theorem located_of_coloured (near : exact.NearTo roundoff colour) (coloured : exact.Coloured) :
    Hsl.Located ((exact.high + exact.low) / 2) (unitToHsl colour) := by
  obtain ⟨nearHigh, nearLow⟩ := near_ends near
  obtain ⟨notBelow, notAbove, span⟩ := coloured
  have small : 100 * roundoff ≤ 1 / 255 := by norm_num [roundoff]
  have apart : same colour.highEnd colour.lowEnd = false := by
    obtain ⟨highFound, isHigh, highClose⟩ := nearHigh
    obtain ⟨lowFound, isLow, lowClose⟩ := nearLow
    rw [abs_le] at highClose lowClose
    rw [same_of_rational? isHigh isLow]
    exact decide_eq_false (by linarith : lowFound < highFound).ne'
  have range := near_difference nearHigh nearLow (abs_le.mpr ⟨by linarith, by linarith⟩)
  obtain ⟨turn, first, last, nearTurn⟩ :=
    exists_hueTurn colour.highEnd ⟨notBelow, notAbove, span⟩ near range
  obtain ⟨part, partSize, nearPart⟩ := exists_saturation
    ((colour.highEnd + colour.lowEnd) / 2.0) ⟨notBelow, notAbove, span⟩ nearHigh nearLow
  obtain ⟨degrees, isDegrees, degreesClose⟩ := near_scaled nearTurn rational?_full
    (abs_le.mpr ⟨by linarith, by linarith⟩ : |turn| ≤ 2) (by norm_num)
    (by norm_num [largestOrdinary, roundoff])
  obtain ⟨percent, isPercent, percentClose⟩ := near_scaled nearPart rational?_hundred partSize
    (by norm_num) (by norm_num [largestOrdinary, roundoff])
  have tinyDegrees : roundoff + 2 * roundoff * 360 ≤ 1 := by norm_num [roundoff]
  have tinyPercent : roundoff + roundoff * 100 ≤ 1 := by norm_num [roundoff]
  rw [abs_le] at degreesClose percentClose partSize
  have computed : unitToHsl colour = _ := if_neg (ne_true_of_eq_false apart)
  rw [computed]
  exact ⟨⟨degrees, isDegrees, by linarith, by linarith⟩,
    ⟨percent, isPercent, abs_le.mpr ⟨by linarith, by linarith⟩⟩,
    near_lightness nearHigh nearLow notBelow notAbove⟩

/-- A colour without hue has channels that are the same number. -/
def Rgb.Grey (colour : Rgb F) : Prop :=
  colour.red = colour.green ∧ colour.green = colour.blue

theorem located_of_grey (near : exact.NearTo roundoff colour) (notBelow : 0 ≤ exact.low)
    (notAbove : exact.high ≤ 1) (grey : colour.Grey) :
    Hsl.Located ((exact.high + exact.low) / 2) (unitToHsl colour) := by
  obtain ⟨nearHigh, nearLow⟩ := near_ends near
  have isSame : colour.highEnd = colour.lowEnd := by
    unfold Rgb.highEnd Rgb.lowEnd
    rw [grey.1, grey.2]
    simp only [larger, smaller, ite_self]
  have equal : same colour.highEnd colour.lowEnd = true := by
    obtain ⟨found, isFound, _⟩ := nearLow
    rw [isSame, same_of_rational? isFound isFound]
    exact decide_eq_true rfl
  have nothing {factor : F} {factorExact : Rat} (isFactor : rational? factor = some factorExact)
      (positive : 0 ≤ factorExact) : Near roundoff 0 (0.0 * factor) := by
    have product := near_scaled (near_of_rational? rational?_zero) isFactor
      (by norm_num : |(0 : Rat)| ≤ 0) positive (by norm_num [largestOrdinary])
    rwa [zero_mul, add_zero] at product
  obtain ⟨degrees, isDegrees, degreesClose⟩ := nothing rational?_full (by norm_num)
  obtain ⟨percent, isPercent, percentClose⟩ := nothing rational?_hundred (by norm_num)
  have one : roundoff ≤ 1 := by norm_num [roundoff]
  rw [sub_zero] at degreesClose percentClose
  have bounds := abs_le.mp degreesClose
  have computed : unitToHsl colour = _ := if_pos equal
  rw [computed]
  exact ⟨⟨degrees, isDegrees, by linarith, by linarith⟩,
    ⟨percent, isPercent, percentClose.trans (one.trans (by norm_num))⟩,
    near_lightness nearHigh nearLow notBelow notAbove⟩

end Located

/-! ### Hexadecimal colours -/

section Bytes

variable {red green blue : Nat}

/-- The lightness of three bytes: the sum of the greatest and the least of them. -/
def level (red green blue : Nat) : Nat :=
  max (max red green) blue + min (min red green) blue

/-- Bytes as parts of the greatest one. -/
def unitOf (red green blue : Nat) : Rgb Rat :=
  ⟨red / 255, green / 255, blue / 255⟩

theorem high_unitOf : (unitOf red green blue).high = (max (max red green) blue : Nat) / 255 := by
  simp only [Rgb.high, unitOf]
  rw [max_div_div_right (by norm_num), max_div_div_right (by norm_num)]
  push_cast
  rfl

theorem low_unitOf : (unitOf red green blue).low = (min (min red green) blue : Nat) / 255 := by
  simp only [Rgb.low, unitOf]
  rw [min_div_div_right (by norm_num), min_div_div_right (by norm_num)]
  push_cast
  rfl

theorem middle_unitOf : ((unitOf red green blue).high + (unitOf red green blue).low) / 2 =
    level red green blue / 510 := by
  rw [high_unitOf, low_unitOf, level]
  push_cast
  ring

theorem coloured_unitOf (redFits : red ≤ 255) (greenFits : green ≤ 255) (blueFits : blue ≤ 255)
    (different : ¬(red = green ∧ green = blue)) : (unitOf red green blue).Coloured := by
  have fits : max (max red green) blue ≤ 255 := by omega
  have apart : min (min red green) blue + 1 ≤ max (max red green) blue := by omega
  have fitsRat : ((max (max red green) blue : Nat) : Rat) ≤ 255 := by exact_mod_cast fits
  have apartRat : ((min (min red green) blue : Nat) : Rat) + 1 ≤
      (max (max red green) blue : Nat) := by
    exact_mod_cast apart
  have notNegative : (0 : Rat) ≤ (min (min red green) blue : Nat) := Nat.cast_nonneg _
  refine ⟨?_, ?_, ?_⟩
  · rw [low_unitOf]
    positivity
  · rw [high_unitOf]
    linarith
  · rw [low_unitOf, high_unitOf]
    linarith

end Bytes

section Hexadecimal

variable [OrderedArithmetic F] [WholeArithmetic F] {text : String} {red green blue : Nat}

/-- The coordinates of a hexadecimal colour. -/
theorem returns_located (hex : HexColour text red green blue) :
    Returns (Hsl.Located (level red green blue / 510)) (hexToHsl (F := F) text) := by
  obtain ⟨redFits, greenFits, blueFits⟩ := hex.le
  obtain ⟨redSmall, greenSmall, blueSmall⟩ := hex.spells.small
  -- Equal bytes become the same number, since one conversion is made of both.
  let holds (whole : Int) (number : F) : Prop :=
    (Number.int whole : Number F).toReal = .ok number ∧ rational? number = some (whole : Rat)
  have converted {whole : Int} (small : SmallWhole whole) :
      Returns (holds whole) (Number.int whole : Number F).toReal := by
    obtain ⟨number, isNumber, isExact⟩ := Number.returns_toReal_whole (F := F) small
    exact ⟨number, isNumber, isNumber, isExact⟩
  refine (hex.spells.returns_hexToRgb holds (converted redSmall) (converted greenSmall)
    (converted blueSmall)).bind ?_
  rintro ⟨redReal, greenReal, blueReal⟩
    ⟨⟨fromRed, isRed⟩, ⟨fromGreen, isGreen⟩, fromBlue, isBlue⟩
  have isByte : rational? (255.0 : F) = some 255 := rational?_tenth (by decide) (by norm_num)
  have unit {byte : Nat} {real : F} (isReal : rational? real = some ((byte : Int) : Rat))
      (fits : byte ≤ 255) : Near roundoff (byte / 255) (real / 255.0) := by
    have fitsRat : (byte : Rat) ≤ 255 := by exact_mod_cast fits
    refine near_fraction (by simpa using isReal) isByte (by norm_num) ?_
    rw [abs_of_nonneg (by positivity)]
    linarith
  have near : (unitOf red green blue).NearTo roundoff
      (⟨redReal / 255.0, greenReal / 255.0, blueReal / 255.0⟩ : Rgb F) :=
    ⟨unit isRed redFits, unit isGreen greenFits, unit isBlue blueFits⟩
  rw [Returns.pure_iff, ← middle_unitOf]
  by_cases grey : red = green ∧ green = blue
  · obtain ⟨rfl, rfl⟩ := grey
    cases fromRed.symm.trans fromGreen
    cases fromRed.symm.trans fromBlue
    have fitsRat : (red : Rat) ≤ 255 := by exact_mod_cast redFits
    apply located_of_grey near _ _ ⟨rfl, rfl⟩
    · rw [low_unitOf]
      positivity
    · rw [high_unitOf, max_self, max_self]
      linarith
  · exact located_of_coloured near (coloured_unitOf redFits greenFits blueFits grey)

end Hexadecimal

end MapStyle.Colour
