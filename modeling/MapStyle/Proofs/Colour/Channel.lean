import MapStyle.Proofs.Colour.Hsl
import MapStyle.Proofs.Number.Roundoff

/-!
# Channels that are computed with rounding

A channel runs continuously around the wheel of hues, so that where rounding puts a hue on the other
side of a bend little changes. The same holds of the ends of the range of channels. So the channels
that are computed for a hue, a saturation and a lightness lie near those of exact arithmetic.
-/

namespace MapStyle.Colour

set_option autoImplicit false

open Arithmetic (rational? lt same)

/-! ### Bends of the wheel -/

section Bends

variable {turn slack : Rat} (notNegative : 0 ≤ slack) (small : slack ≤ 1 / 6)

include notNegative small

/-- Each stretch of a channel ends where the next one starts. -/
theorem near_rising (notBefore : -slack ≤ turn)
    (notAfter : turn ≤ 1 / 6 + slack) : |6 * turn - turnShare turn| ≤ 6 * slack := by
  rw [abs_le]
  obtain before | reached := le_total turn 0
  · rw [turnShare_before before]
    constructor <;> linarith
  obtain rising | full := le_total turn (1 / 6)
  · rw [turnShare_rising reached rising]
    constructor <;> linarith
  · rw [turnShare_full full (by linarith)]
    constructor <;> linarith

theorem near_full (notBefore : 1 / 6 - slack ≤ turn)
    (notAfter : turn ≤ 1 / 2 + slack) : |1 - turnShare turn| ≤ 6 * slack := by
  rw [abs_le]
  obtain rising | reached := le_total turn (1 / 6)
  · rw [turnShare_rising (by linarith) rising]
    constructor <;> linarith
  obtain full | falling := le_total turn (1 / 2)
  · rw [turnShare_full reached full]
    constructor <;> linarith
  · rw [turnShare_falling falling (by linarith)]
    constructor <;> linarith

theorem near_falling (notBefore : 1 / 2 - slack ≤ turn)
    (notAfter : turn ≤ 2 / 3 + slack) : |(2 / 3 - turn) * 6 - turnShare turn| ≤ 6 * slack := by
  rw [abs_le]
  obtain full | reached := le_total turn (1 / 2)
  · rw [turnShare_full (by linarith) full]
    constructor <;> linarith
  obtain falling | behind := le_total turn (2 / 3)
  · rw [turnShare_falling reached falling]
    constructor <;> linarith
  · rw [turnShare_after behind]
    constructor <;> linarith

theorem near_after (notBefore : 2 / 3 - slack ≤ turn) :
    |0 - turnShare turn| ≤ 6 * slack := by
  rw [abs_le]
  obtain falling | behind := le_total turn (2 / 3)
  · rw [turnShare_falling (by linarith) falling]
    constructor <;> linarith
  · rw [turnShare_after behind]
    constructor <;> linarith

/-- So does the first turn, where the next one starts. -/
theorem wheelShare_near (notBefore : -slack ≤ turn)
    (notAfter : turn ≤ 1 + slack) : |wheelShare turn - turnShare turn| ≤ 6 * slack := by
  rw [abs_le]
  obtain before | reached := le_total turn 0
  · rw [wheelShare_before before, turnShare_before before, turnShare_after (by linarith)]
    constructor <;> linarith
  obtain within | behind := le_total turn 1
  · rw [wheelShare_first reached within]
    constructor <;> linarith
  · rw [wheelShare_behind behind, turnShare_rising (by linarith) (by linarith),
      turnShare_after (by linarith)]
    constructor <;> linarith

end Bends

/-! ### One channel -/

section Channel

variable {F : Type} [Arithmetic F]

/-- A hue, moved by a turn into the first turn. -/
def intoTurn (turn : F) : F :=
  let raised := if lt turn 0.0 then turn + 1.0 else turn
  if lt 1.0 raised then raised - 1.0 else raised

/-- The value of a channel on the stretch on which a hue of the first turn lies. -/
def onStretch (low high turn : F) : F :=
  if lt turn (1.0 / 6.0) then low + (high - low) * 6.0 * turn
  else if lt turn (1.0 / 2.0) then high
  else if lt turn (2.0 / 3.0) then low + (high - low) * (2.0 / 3.0 - turn) * 6.0
  else low

theorem hueToChannel_eq_onStretch (low high turn : F) :
    hueToChannel low high turn = onStretch low high (intoTurn turn) :=
  rfl

variable [RoundoffArithmetic F] {low high turn : F} {exact error lowExact highExact place : Rat}

theorem rational?_zero : rational? (0.0 : F) = some 0 :=
  rational?_tenth (by decide) (by norm_num)

theorem rational?_one : rational? (1.0 : F) = some 1 :=
  rational?_tenth (by decide) (by norm_num)

theorem rational?_two : rational? (2.0 : F) = some 2 :=
  rational?_tenth (by decide) (by norm_num)

theorem rational?_six : rational? (6.0 : F) = some 6 :=
  rational?_tenth (by decide) (by norm_num)

theorem near_fraction {dividend divisor : F} {dividendExact divisorExact : Rat}
    (isDividend : rational? dividend = some dividendExact)
    (isDivisor : rational? divisor = some divisorExact) (positive : 0 < divisorExact)
    (within : |dividendExact / divisorExact| ≤ 1) :
    Near roundoff (dividendExact / divisorExact) (dividend / divisor) := by
  have near := (near_of_rational? isDividend).div isDivisor positive within
    (by norm_num [largestOrdinary])
  exact near.mono (by rw [zero_div, add_zero])

theorem near_third : Near roundoff (1 / 3) (1.0 / 3.0 : F) :=
  near_fraction rational?_one (rational?_tenth (by decide) (by norm_num)) (by norm_num)
    (by norm_num)

/-- The bends of a channel lie near the sixth, the half and two thirds of a turn. -/
theorem near_bends : Near roundoff (1 / 6) (1.0 / 6.0 : F) ∧ Near roundoff (1 / 2) (1.0 / 2.0 : F) ∧
    Near roundoff (2 / 3) (2.0 / 3.0 : F) := by
  have isThree : rational? (3.0 : F) = some 3 := rational?_tenth (by decide) (by norm_num)
  exact ⟨near_fraction rational?_one rational?_six (by norm_num) (by norm_num),
    near_fraction rational?_one rational?_two (by norm_num) (by norm_num),
    near_fraction rational?_two isThree (by norm_num) (by norm_num)⟩

/-- The ends of a range of channels, which are computed near them. -/
structure NearRange (lowExact highExact : Rat) (low high : F) : Prop where
  nearLow : Near (2 ^ 8 * roundoff) lowExact low
  nearHigh : Near (2 ^ 8 * roundoff) highExact high
  notBelow : 0 ≤ lowExact
  ordered : lowExact ≤ highExact
  notAbove : highExact ≤ 1

omit [RoundoffArithmetic F] in
theorem NearRange.abs_le_one (near : NearRange lowExact highExact low high) :
    |highExact - lowExact| ≤ 1 :=
  abs_le.mpr ⟨by linarith [near.ordered], by linarith [near.notBelow, near.notAbove]⟩

/-! The two stretches on which a channel rises and falls, with the errors of each operation. -/

section Stretches

variable (nearRange : NearRange lowExact highExact low high)
  (nearTurn : Near (2 ^ 3 * roundoff) place turn) (notBefore : -1 ≤ place) (notAfter : place ≤ 2)

include nearRange nearTurn notBefore notAfter

theorem near_rise : Near (6500 * roundoff) (lowExact + (highExact - lowExact) * (6 * place))
    (low + (high - low) * 6.0 * turn) := by
  have range := nearRange.abs_le_one
  obtain ⟨nearLow, nearHigh, notBelow, ordered, notAbove⟩ := nearRange
  have size : |place| ≤ 2 := abs_le.mpr ⟨by linarith, by linarith⟩
  have scaledSize : |(highExact - lowExact) * 6| ≤ 6 := by
    rw [abs_mul]
    norm_num
    linarith
  have difference := nearHigh.sub nearLow range (by norm_num [largestOrdinary, roundoff])
  have scaled := difference.mul (near_of_rational? rational?_six) range
    (by norm_num : |(6 : Rat)| ≤ 6) (by norm_num [largestOrdinary, roundoff])
  have product := scaled.mul nearTurn scaledSize size (by norm_num [largestOrdinary, roundoff])
  have productSize : |(highExact - lowExact) * 6 * place| ≤ 12 := by
    rw [abs_mul]
    calc |(highExact - lowExact) * 6| * |place| ≤ 6 * 2 := by gcongr
      _ = 12 := by norm_num
  have sum : |lowExact + (highExact - lowExact) * 6 * place| ≤ 13 := by
    rw [abs_le] at productSize ⊢
    constructor <;> linarith
  have total := nearLow.add product sum (by norm_num [largestOrdinary, roundoff])
  rw [mul_assoc] at total
  exact total.mono (by norm_num [roundoff])

theorem near_fall : Near (6500 * roundoff)
    (lowExact + (highExact - lowExact) * ((2 / 3 - place) * 6))
    (low + (high - low) * (2.0 / 3.0 - turn) * 6.0) := by
  have range := nearRange.abs_le_one
  obtain ⟨nearLow, nearHigh, notBelow, ordered, notAbove⟩ := nearRange
  have size : |2 / 3 - place| ≤ 2 := abs_le.mpr ⟨by linarith, by linarith⟩
  have difference := nearHigh.sub nearLow range (by norm_num [largestOrdinary, roundoff])
  have rest := near_bends.2.2.sub nearTurn size (by norm_num [largestOrdinary, roundoff])
  have product := difference.mul rest range size (by norm_num [largestOrdinary, roundoff])
  have productSize : |(highExact - lowExact) * (2 / 3 - place)| ≤ 2 := by
    rw [abs_mul]
    calc |highExact - lowExact| * |2 / 3 - place| ≤ 1 * 2 := by gcongr
      _ = 2 := by norm_num
  have scaled := product.mul (near_of_rational? rational?_six) productSize
    (by norm_num : |(6 : Rat)| ≤ 6) (by norm_num [largestOrdinary, roundoff])
  have sum : |lowExact + (highExact - lowExact) * (2 / 3 - place) * 6| ≤ 13 := by
    rw [abs_le] at productSize ⊢
    constructor <;> linarith
  have total := nearLow.add scaled sum (by norm_num [largestOrdinary, roundoff])
  rw [mul_assoc] at total
  exact total.mono (by norm_num [roundoff])

end Stretches

variable [OrderedArithmetic F]

/-- A hue before the first turn is moved up by a turn. -/
theorem near_raised (near : Near error exact turn) (small : error ≤ 1 / 16)
    (notBefore : -1 ≤ exact) (notAfter : exact ≤ 2) :
    ∃ raised, Near (roundoff + error) raised (if lt turn 0.0 then turn + 1.0 else turn) ∧
      -error ≤ raised ∧ raised ≤ 2 ∧ wheelShare exact = wheelShare raised := by
  obtain ⟨found, isFound, close⟩ := id near
  have bounds := abs_le.mp close
  rw [lt_of_rational? isFound rational?_zero]
  by_cases before : found < 0
  · rw [decide_eq_true before, if_pos rfl]
    refine ⟨exact + 1, ?_, by linarith, by linarith, ?_⟩
    · have moved := near.add (near_of_rational? rational?_one)
        (abs_le.mpr ⟨by linarith, by linarith⟩ : |exact + 1| ≤ 2)
        (by norm_num [largestOrdinary]; linarith)
      exact moved.mono (by linarith)
    · exact (wheelShare_add_one notBefore (by linarith)).symm
  · rw [decide_eq_false before, if_neg Bool.false_ne_true]
    exact ⟨exact, near.mono (by linarith [roundoff_nonneg]), by linarith, notAfter, rfl⟩

theorem near_intoTurn (near : Near error exact turn) (small : error ≤ 1 / 16)
    (notBefore : -1 ≤ exact) (notAfter : exact ≤ 2) :
    ∃ place, Near (2 * roundoff + error) place (intoTurn turn) ∧ -(roundoff + error) ≤ place ∧
      place ≤ 1 + (roundoff + error) ∧
      |wheelShare exact - turnShare place| ≤ 6 * (roundoff + error) := by
  have tiny := roundoff_nonneg
  have notNegative : 0 ≤ roundoff + error := by
    obtain ⟨_, _, close⟩ := near
    linarith [(abs_nonneg _).trans close]
  have slack : roundoff + error ≤ 1 / 6 := by
    have below : roundoff ≤ 1 / 16 := by norm_num [roundoff]
    linarith
  have aligned {place : Rat} (first : -(roundoff + error) ≤ place)
      (last : place ≤ 1 + (roundoff + error)) :
      |wheelShare place - turnShare place| ≤ 6 * (roundoff + error) :=
    wheelShare_near notNegative slack first last
  obtain ⟨raised, nearRaised, first, last, same⟩ := near_raised near small notBefore notAfter
  unfold intoTurn
  dsimp only
  generalize (if lt turn 0.0 then turn + 1.0 else turn) = moved at nearRaised ⊢
  obtain ⟨found, isFound, close⟩ := id nearRaised
  have bounds := abs_le.mp close
  rw [lt_of_rational? rational?_one isFound, same]
  by_cases behind : 1 < found
  · rw [decide_eq_true behind, if_pos rfl]
    refine ⟨raised - 1, ?_, by linarith, by linarith, ?_⟩
    · have lowered := nearRaised.sub (near_of_rational? rational?_one)
        (abs_le.mpr ⟨by linarith, by linarith⟩ : |raised - 1| ≤ 2)
        (by norm_num [largestOrdinary]; linarith)
      exact lowered.mono (by linarith)
    · have wrapped := wheelShare_add_one (by linarith : -1 ≤ raised - 1) (by linarith)
      rw [sub_add_cancel] at wrapped
      rw [wrapped]
      exact aligned (by linarith) (by linarith)
  · rw [decide_eq_false behind, if_neg Bool.false_ne_true]
    exact ⟨raised, nearRaised.mono (by linarith), by linarith, by linarith,
      aligned (by linarith) (by linarith)⟩

/-- On each stretch of the wheel a channel is computed near its value. -/
theorem near_onStretch (nearRange : NearRange lowExact highExact low high)
    (nearTurn : Near (2 ^ 3 * roundoff) place turn) (first : -(2 ^ 3 * roundoff) ≤ place)
    (last : place ≤ 1 + 2 ^ 3 * roundoff) :
    Near (2 ^ 13 * roundoff) (lowExact + (highExact - lowExact) * turnShare place)
      (onStretch low high turn) := by
  have tiny : 0 ≤ roundoff := roundoff_nonneg
  have small : 2 ^ 5 * roundoff ≤ 1 / 6 := by norm_num [roundoff]
  have slack : 0 ≤ 2 ^ 5 * roundoff := by positivity
  have range := nearRange.abs_le_one
  -- The value of a stretch is near that of the channel also where rounding has passed its end.
  have settle {value : F} {part : Rat}
      (near : Near (6500 * roundoff) (lowExact + (highExact - lowExact) * part) value)
      (bend : |part - turnShare place| ≤ 6 * (2 ^ 5 * roundoff)) :
      Near (2 ^ 13 * roundoff) (lowExact + (highExact - lowExact) * turnShare place) value := by
    have apart : |lowExact + (highExact - lowExact) * part -
        (lowExact + (highExact - lowExact) * turnShare place)| ≤ 6 * (2 ^ 5 * roundoff) := by
      rw [add_sub_add_left_eq_sub, ← mul_sub, abs_mul]
      calc |highExact - lowExact| * |part - turnShare place| ≤ 1 * (6 * (2 ^ 5 * roundoff)) := by
            gcongr
        _ = 6 * (2 ^ 5 * roundoff) := one_mul _
    exact (near.trans apart).mono (by linarith)
  obtain ⟨⟨sixth, isSixth, closeSixth⟩, ⟨half, isHalf, closeHalf⟩,
    ⟨thirds, isThirds, closeThirds⟩⟩ := near_bends (F := F)
  obtain ⟨found, isFound, close⟩ := id nearTurn
  rw [abs_le] at close closeSixth closeHalf closeThirds
  unfold onStretch
  simp only [lt_of_rational? isFound isSixth, lt_of_rational? isFound isHalf,
    lt_of_rational? isFound isThirds, decide_eq_true_eq]
  split_ifs with rising full falling
  · exact settle (near_rise nearRange nearTurn (by linarith) (by linarith))
      (near_rising slack small (by linarith) (by linarith))
  · refine settle ?_ (near_full slack small (by linarith) (by linarith))
    rw [mul_one, add_sub_cancel]
    exact nearRange.nearHigh.mono (by linarith)
  · exact settle (near_fall nearRange nearTurn (by linarith) (by linarith))
      (near_falling slack small (by linarith) (by linarith))
  · refine settle ?_ (near_after slack small (by linarith))
    rw [mul_zero, add_zero]
    exact nearRange.nearLow.mono (by linarith)

/-- A channel is computed near its share of the range. -/
theorem near_hueToChannel (nearRange : NearRange lowExact highExact low high)
    (nearTurn : Near (2 * roundoff) exact turn) (notBefore : -1 ≤ exact) (notAfter : exact ≤ 2) :
    Near (2 ^ 14 * roundoff) (lowExact + (highExact - lowExact) * wheelShare exact)
      (hueToChannel low high turn) := by
  have tiny : 0 ≤ roundoff := roundoff_nonneg
  obtain ⟨place, nearPlace, first, last, same⟩ :=
    near_intoTurn nearTurn (by norm_num [roundoff]) notBefore notAfter
  have onTurn := near_onStretch nearRange (nearPlace.mono (by linarith)) (by linarith)
    (by linarith)
  have apart : |lowExact + (highExact - lowExact) * turnShare place -
      (lowExact + (highExact - lowExact) * wheelShare exact)| ≤ 6 * (roundoff + 2 * roundoff) := by
    rw [add_sub_add_left_eq_sub, ← mul_sub, abs_mul, abs_sub_comm (turnShare place)]
    calc |highExact - lowExact| * |wheelShare exact - turnShare place|
        ≤ 1 * (6 * (roundoff + 2 * roundoff)) := by
          gcongr
          exact nearRange.abs_le_one
      _ = 6 * (roundoff + 2 * roundoff) := one_mul _
  rw [hueToChannel_eq_onStretch]
  exact (onTurn.trans apart).mono (by linarith)

end Channel

/-! ### All channels -/

section Ends

variable {turn saturation lightness red green blue : Rat}

/-- The least channel of a saturation and a lightness. -/
def lowOf (saturation lightness : Rat) : Rat :=
  2 * lightness - highOf saturation lightness

/-- The ends of the range lie alike far from the lightness, and no further than the saturation. -/
theorem highOf_bounds (saturated : 0 ≤ saturation) (within : saturation ≤ 1) (lit : 0 ≤ lightness)
    (below : lightness ≤ 1) :
    lightness ≤ highOf saturation lightness ∧ highOf saturation lightness ≤ 2 * lightness ∧
      highOf saturation lightness ≤ 1 ∧ highOf saturation lightness ≤ lightness + saturation := by
  have product : 0 ≤ lightness * saturation := mul_nonneg lit saturated
  have small : lightness * saturation ≤ lightness := mul_le_of_le_one_right lit within
  have part : lightness * saturation ≤ saturation := mul_le_of_le_one_left saturated below
  have rest : 0 ≤ (1 - lightness) * (1 - saturation) :=
    mul_nonneg (by linarith) (by linarith)
  unfold highOf
  split_ifs with dark
  · refine ⟨?_, ?_, ?_, ?_⟩ <;> linarith
  · refine ⟨?_, ?_, ?_, ?_⟩ <;> linarith

/-- Over exact arithmetic the channels have their shares of the range, also if that is empty. -/
theorem unitFromHsl_shares (shares : SharesAt turn red green blue) (notBefore : -2 / 3 ≤ turn)
    (notAfter : turn ≤ 5 / 3) : unitFromHsl ⟨turn, saturation, lightness⟩ =
      let low := lowOf saturation lightness
      let range := highOf saturation lightness - low
      (⟨low + range * red, low + range * green, low + range * blue⟩ : Rgb Rat) := by
  dsimp only
  by_cases coloured : saturation = 0
  · have noRange : highOf 0 lightness = lightness := by
      unfold highOf
      split_ifs <;> ring
    have isLow : lowOf 0 lightness = lightness := by
      rw [lowOf, noRange]
      ring
    rw [coloured, unitFromHsl_grey, noRange, isLow, sub_self, zero_mul, zero_mul, zero_mul,
      add_zero]
  · rw [unitFromHsl_eq turn coloured rfl rfl,
      hueToChannel_eq _ _ (by linarith) (by linarith),
      hueToChannel_eq _ _ (by linarith) (by linarith),
      hueToChannel_eq _ _ (by linarith) (by linarith), shares.red, shares.green, shares.blue]
    rfl

/-- Over exact arithmetic the channels reach both ends of the range and do not leave it. -/
theorem unitFromHsl_ends (saturated : 0 ≤ saturation) (within : saturation ≤ 1)
    (lit : 0 ≤ lightness) (below : lightness ≤ 1) (notBefore : -2 / 3 ≤ turn)
    (notAfter : turn ≤ 5 / 3) :
    (unitFromHsl ⟨turn, saturation, lightness⟩ : Rgb Rat).low = lowOf saturation lightness ∧
      (unitFromHsl ⟨turn, saturation, lightness⟩ : Rgb Rat).high = highOf saturation lightness := by
  obtain ⟨red, green, blue, shares, all, nothing⟩ := exists_sharesAt notBefore notAfter
  obtain ⟨above, _⟩ := highOf_bounds saturated within lit below
  have range : 0 ≤ highOf saturation lightness - lowOf saturation lightness := by
    unfold lowOf
    linarith
  rw [unitFromHsl_shares shares notBefore notAfter]
  constructor
  · simp only [Rgb.low]
    rw [min_add_add_left, ← mul_min_of_nonneg _ _ range, min_add_add_left,
      ← mul_min_of_nonneg _ _ range, nothing, mul_zero, add_zero]
  · simp only [Rgb.high]
    rw [max_add_add_left, ← mul_max_of_nonneg _ _ range, max_add_add_left,
      ← mul_max_of_nonneg _ _ range, all, mul_one, add_sub_cancel]

end Ends

section Channels

variable {F : Type} [Arithmetic F]

/-- Channels that lie no further from those of an exact colour than an error. -/
structure Rgb.NearTo (error : Rat) (exact : Rgb Rat) (colour : Rgb F) : Prop where
  red : Near error exact.red colour.red
  green : Near error exact.green colour.green
  blue : Near error exact.blue colour.blue

/-- A saturation and a lightness between zero and one, which are computed near them. -/
structure NearTone (saturation lightness : Rat) (saturated lit : F) : Prop where
  nearSaturation : Near (2 ^ 2 * roundoff) saturation saturated
  nearLightness : Near (2 ^ 4 * roundoff) lightness lit
  notBelow : 0 ≤ saturation
  notAbove : saturation ≤ 1
  lightNotBelow : 0 ≤ lightness
  lightNotAbove : lightness ≤ 1

variable {saturated lit : F} {saturation lightness : Rat}

theorem NearTone.abs_saturation_le (nearTone : NearTone saturation lightness saturated lit) :
    |saturation| ≤ 1 :=
  abs_le.mpr ⟨by linarith [nearTone.notBelow], nearTone.notAbove⟩

theorem NearTone.abs_lightness_le (nearTone : NearTone saturation lightness saturated lit) :
    |lightness| ≤ 1 :=
  abs_le.mpr ⟨by linarith [nearTone.lightNotBelow], nearTone.lightNotAbove⟩

variable [RoundoffArithmetic F]

/-- The formula for the high end of dark colours. -/
theorem near_darkHigh (nearTone : NearTone saturation lightness saturated lit) :
    Near (2 ^ 6 * roundoff) (lightness * (1 + saturation)) (lit * (1.0 + saturated)) := by
  have sumSize : |1 + saturation| ≤ 2 :=
    abs_le.mpr ⟨by linarith [nearTone.notBelow], by linarith [nearTone.notAbove]⟩
  have sum := (near_of_rational? rational?_one).add nearTone.nearSaturation sumSize
    (by norm_num [largestOrdinary, roundoff])
  exact (nearTone.nearLightness.mul sum nearTone.abs_lightness_le sumSize
    (by norm_num [largestOrdinary, roundoff])).mono (by norm_num [roundoff])

/-- The formula for the high end of light colours. -/
theorem near_lightHigh (nearTone : NearTone saturation lightness saturated lit) :
    Near (2 ^ 6 * roundoff) (lightness + saturation - lightness * saturation)
      (lit + saturated - lit * saturated) := by
  have size := nearTone.abs_saturation_le
  have lightSize := nearTone.abs_lightness_le
  have productSize : |lightness * saturation| ≤ 1 := by
    rw [abs_mul]
    exact mul_le_one₀ lightSize (abs_nonneg _) size
  obtain ⟨nearSaturation, nearLightness, notBelow, notAbove, lightNotBelow, lightNotAbove⟩ :=
    nearTone
  have productBounds := abs_le.mp productSize
  have sum := nearLightness.add nearSaturation
    (abs_le.mpr ⟨by linarith, by linarith⟩ : |lightness + saturation| ≤ 2)
    (by norm_num [largestOrdinary, roundoff])
  have product := nearLightness.mul nearSaturation lightSize size
    (by norm_num [largestOrdinary, roundoff])
  exact (sum.sub product (abs_le.mpr ⟨by linarith, by linarith⟩ :
    |lightness + saturation - lightness * saturation| ≤ 3)
    (by norm_num [largestOrdinary, roundoff])).mono (by norm_num [roundoff])

/-- Near the lightness of one half both formulas for the high end have nearly one value. -/
theorem abs_lightHigh_sub_darkHigh_le {error : Rat} (size : |saturation| ≤ 1)
    (halfway : |2 * lightness - 1| ≤ error) :
    |lightness + saturation - lightness * saturation - lightness * (1 + saturation)| ≤ error := by
  have difference : lightness + saturation - lightness * saturation -
      lightness * (1 + saturation) = -(saturation * (2 * lightness - 1)) := by
    ring
  rw [difference, abs_neg, abs_mul]
  calc |saturation| * |2 * lightness - 1| ≤ 1 * error := by gcongr
    _ = error := one_mul _

variable [OrderedArithmetic F]

/-- Where rounding takes the other formula for the high end, the lightness is near one half. -/
theorem near_high (nearTone : NearTone saturation lightness saturated lit) :
    Near (2 ^ 7 * roundoff) (highOf saturation lightness)
      (if lt lit 0.5 then lit * (1.0 + saturated) else lit + saturated - lit * saturated) := by
  have dark := near_darkHigh nearTone
  have light := near_lightHigh nearTone
  have tiny : 0 ≤ roundoff := roundoff_nonneg
  have isHalf : rational? (0.5 : F) = some (1 / 2) := rational?_tenth (by decide) (by norm_num)
  have apart (halfway : |2 * lightness - 1| ≤ 2 ^ 5 * roundoff) :=
    abs_lightHigh_sub_darkHigh_le nearTone.abs_saturation_le halfway
  obtain ⟨found, isFound, close⟩ := nearTone.nearLightness
  have bounds := abs_le.mp close
  unfold highOf
  rw [lt_of_rational? isFound isHalf]
  by_cases isDark : found < 1 / 2
  · rw [decide_eq_true isDark, if_pos rfl]
    split_ifs with below
    · exact dark.mono (by linarith)
    · have passed := apart (abs_le.mpr ⟨by linarith, by linarith⟩)
      rw [abs_sub_comm] at passed
      exact (dark.trans passed).mono (by linarith)
  · rw [decide_eq_false isDark, if_neg Bool.false_ne_true]
    split_ifs with below
    · have passed := apart (abs_le.mpr ⟨by linarith, by linarith⟩)
      exact (light.trans passed).mono (by linarith)
    · exact light.mono (by linarith)

theorem near_low (nearTone : NearTone saturation lightness saturated lit) :
    Near (2 ^ 8 * roundoff) (lowOf saturation lightness) (2.0 * lit -
      if lt lit 0.5 then lit * (1.0 + saturated) else lit + saturated - lit * saturated) := by
  have high := near_high nearTone
  obtain ⟨_, nearLightness, notBelow, notAbove, lightNotBelow, lightNotAbove⟩ := nearTone
  obtain ⟨above, reach, _⟩ := highOf_bounds notBelow notAbove lightNotBelow lightNotAbove
  have lightSize : |lightness| ≤ 1 := abs_le.mpr ⟨by linarith, by linarith⟩
  have double := (near_of_rational? rational?_two).mul nearLightness (by norm_num : |(2 : Rat)| ≤ 2)
    lightSize (by norm_num [largestOrdinary, roundoff])
  exact (double.sub high (abs_le.mpr ⟨by linarith, by linarith⟩ :
    |2 * lightness - highOf saturation lightness| ≤ 2)
    (by norm_num [largestOrdinary, roundoff])).mono (by norm_num [roundoff])

omit [RoundoffArithmetic F] [OrderedArithmetic F] in
/-- Without a saturation the channels are as large as the lightness, which lies in the middle of a
range that is as small as the exact saturation. -/
theorem near_grey {place : Rat} (nearTone : NearTone saturation lightness saturated lit)
    (small : saturation ≤ 2 ^ 2 * roundoff) (first : -1 ≤ place) (last : place ≤ 2) :
    Near (2 ^ 14 * roundoff) (lowOf saturation lightness +
      (highOf saturation lightness - lowOf saturation lightness) * wheelShare place) lit := by
  obtain ⟨_, nearLightness, notBelow, notAbove, lightNotBelow, lightNotAbove⟩ := nearTone
  obtain ⟨above, _, _, part⟩ := highOf_bounds notBelow notAbove lightNotBelow lightNotAbove
  have tiny : 0 ≤ roundoff := roundoff_nonneg
  have isLow : lowOf saturation lightness = 2 * lightness - highOf saturation lightness := rfl
  obtain ⟨notNegative, atMostOne⟩ := wheelShare_mem first last
  have range : 0 ≤ highOf saturation lightness - lowOf saturation lightness := by linarith
  have share := mul_nonneg range notNegative
  have rest := mul_le_of_le_one_right range atMostOne
  exact (nearLightness.trans
    (abs_le.mpr ⟨by linarith, by linarith⟩ : _ ≤ 2 ^ 2 * roundoff)).mono (by linarith)

/-- Channels are computed near those of exact arithmetic. -/
theorem near_unitFromHsl {hue : F} {turn : Rat}
    (nearTone : NearTone saturation lightness saturated lit) (isHue : rational? hue = some turn)
    (notBefore : -2 / 3 ≤ turn) (notAfter : turn ≤ 5 / 3) :
    (unitFromHsl ⟨turn, saturation, lightness⟩ : Rgb Rat).NearTo (2 ^ 14 * roundoff)
      (unitFromHsl ⟨hue, saturated, lit⟩) := by
  have exactShares : SharesAt turn (wheelShare (turn + 1 / 3)) (wheelShare turn)
      (wheelShare (turn - 1 / 3)) := ⟨rfl, rfl, rfl⟩
  rw [unitFromHsl_shares exactShares notBefore notAfter]
  obtain ⟨found, isFound, close⟩ := nearTone.nearSaturation
  have bounds := abs_le.mp close
  unfold unitFromHsl
  dsimp only
  rw [same_of_rational? isFound rational?_zero]
  by_cases grey : found = 0
  · rw [decide_eq_true grey, if_pos rfl]
    have small : saturation ≤ 2 ^ 2 * roundoff := by linarith
    have within {place : Rat} (first : -1 ≤ place) (last : place ≤ 2) :=
      near_grey nearTone small first last
    exact ⟨within (by linarith) (by linarith), within (by linarith) (by linarith),
      within (by linarith) (by linarith)⟩
  · rw [decide_eq_false grey, if_neg Bool.false_ne_true]
    have high := near_high nearTone
    have low := near_low nearTone
    obtain ⟨_, _, notBelow, notAbove, lightNotBelow, lightNotAbove⟩ := nearTone
    obtain ⟨above, reach, notOver, _⟩ := highOf_bounds notBelow notAbove lightNotBelow lightNotAbove
    have tiny : 0 ≤ roundoff := roundoff_nonneg
    have isLow : lowOf saturation lightness = 2 * lightness - highOf saturation lightness := rfl
    have nearRange : NearRange _ _ _ _ :=
      ⟨low, high.mono (by linarith), by linarith, by linarith, notOver⟩
    have hueNear := near_of_rational? isHue
    have channel {place : Rat} {moved : F} (nearPlace : Near (2 * roundoff) place moved)
        (first : -1 ≤ place) (last : place ≤ 2) :=
      near_hueToChannel nearRange nearPlace first last
    have ahead := (hueNear.add near_third (abs_le.mpr ⟨by linarith, by linarith⟩ :
      |turn + 1 / 3| ≤ 2) (by norm_num [largestOrdinary, roundoff])).mono
      (by linarith : _ ≤ 2 * roundoff)
    have behind := (hueNear.sub near_third (abs_le.mpr ⟨by linarith, by linarith⟩ :
      |turn - 1 / 3| ≤ 2) (by norm_num [largestOrdinary, roundoff])).mono
      (by linarith : _ ≤ 2 * roundoff)
    exact ⟨channel ahead (by linarith) (by linarith),
      channel (hueNear.mono (by linarith)) (by linarith) (by linarith),
      channel behind (by linarith) (by linarith)⟩

end Channels

end MapStyle.Colour
