import Mathlib.Algebra.Order.Group.MinMax
import Mathlib.Algebra.Order.Ring.Abs
import Mathlib.Tactic.GCongr
import Mathlib.Tactic.Linarith
import MapStyle.Proofs.Colour.Hex
import MapStyle.Proofs.Number.Exact

/-!
# Written channels that are read again

Over exact arithmetic a hexadecimal colour is written in lower case with six digits after it was
read, and channels are read as the nearest bytes after they were written. Both steps keep the order
of channels, so that a darkened colour lies below the colour itself, and below a colour that is
darkened less.
-/

namespace MapStyle.Colour

set_option autoImplicit false

open MapStyle.Text

/-! ### Channels as bytes -/

section Bytes

variable {channel other : Rat} {byte : Nat}

/-- A byte above zero is reached exactly from half a unit below it. -/
theorem le_quantize_iff (positive : 0 < byte) (fits : byte ≤ 255) :
    byte ≤ quantize channel ↔ (byte : Rat) ≤ channel + 1 / 2 := by
  have half : (channel + 0.5 : Rat) = channel + 1 / 2 := by norm_num
  have inRange : byte ≤ (max 0 (min 255 (channel + 0.5).floor)).toNat ↔
      (byte : Int) ≤ (channel + 0.5).floor := by
    omega
  simp only [quantize, Exact.floor?_eq_some, Option.getD_some]
  rw [inRange, Rat.le_floor_iff, half]
  norm_cast

theorem quantize_mono (le : channel ≤ other) : quantize channel ≤ quantize other := by
  obtain zero | positive := Nat.eq_zero_or_pos (quantize channel)
  · omega
  · have reached := (le_quantize_iff positive (quantize_le channel)).mp le_rfl
    exact (le_quantize_iff positive (quantize_le channel)).mpr (by linarith)

/-- A byte is its own nearest one. -/
theorem quantize_byte (fits : byte ≤ 255) : quantize (byte : Rat) = byte := by
  apply Nat.le_antisymm
  · by_contra above
    have next : byte + 1 ≤ quantize (byte : Rat) := by omega
    have small : byte + 1 ≤ 255 := next.trans (quantize_le _)
    have reached := (le_quantize_iff (Nat.succ_pos byte) small).mp next
    push_cast at reached
    linarith
  · obtain rfl | positive := Nat.eq_zero_or_pos byte
    · exact Nat.zero_le _
    · exact (le_quantize_iff positive fits).mpr (by linarith)

/-- The nearest value that a byte can have. -/
def clamped (channel : Rat) : Rat :=
  max 0 (min 255 channel)

/-- A decoded channel is the byte nearest to the one that was encoded, where what is out of range
counts as the end of the range and a half goes up. -/
structure NearestByte (channel decoded : Rat) : Prop where
  isByte : ∃ byte : Nat, byte ≤ 255 ∧ decoded = byte
  near : |decoded - clamped channel| ≤ 1 / 2
  halfUp : ∀ byte : Nat, byte < 255 → channel = byte + 1 / 2 → decoded = byte + 1

theorem quantize_le_clamped_add_half (channel : Rat) :
    (quantize channel : Rat) ≤ clamped channel + 1 / 2 := by
  obtain zero | positive := Nat.eq_zero_or_pos (quantize channel)
  · have above : 0 ≤ clamped channel := le_max_left _ _
    rw [zero, Nat.cast_zero]
    linarith
  · have reached := (le_quantize_iff positive (quantize_le channel)).mp le_rfl
    have fits : (quantize channel : Rat) ≤ 255 := by exact_mod_cast quantize_le channel
    have below : (quantize channel : Rat) - 1 / 2 ≤ min 255 channel :=
      le_min (by linarith) (by linarith)
    have inRange : min 255 channel ≤ clamped channel := le_max_right _ _
    linarith

theorem clamped_le_quantize_add_half (channel : Rat) :
    clamped channel ≤ quantize channel + 1 / 2 := by
  have notNegative : (0 : Rat) ≤ quantize channel := Nat.cast_nonneg _
  apply max_le (by linarith)
  by_cases full : quantize channel = 255
  · have top : (quantize channel : Rat) = 255 := by exact_mod_cast full
    exact (min_le_left _ _).trans (by linarith)
  · have small : quantize channel + 1 ≤ 255 := by
      have fits := quantize_le channel
      omega
    have notReached : ¬((quantize channel + 1 : Nat) : Rat) ≤ channel + 1 / 2 := by
      rw [← le_quantize_iff (Nat.succ_pos _) small]
      omega
    push_cast at notReached
    exact (min_le_right _ _).trans (by linarith)

theorem nearestByte_quantize (channel : Rat) : NearestByte channel (quantize channel) where
  isByte := ⟨quantize channel, quantize_le channel, rfl⟩
  near := by
    have upper := quantize_le_clamped_add_half channel
    have lower := clamped_le_quantize_add_half channel
    exact abs_le.mpr ⟨by linarith, by linarith⟩
  halfUp := by
    rintro byte small rfl
    have next : byte + 1 ≤ quantize ((byte : Rat) + 1 / 2) :=
      (le_quantize_iff (Nat.succ_pos byte) small).mpr (by push_cast; linarith)
    have whole : quantize ((byte + 1 : Nat) : Rat) = byte + 1 := quantize_byte small
    have notOver : quantize ((byte : Rat) + 1 / 2) ≤ byte + 1 := by
      rw [← whole]
      apply quantize_mono
      push_cast
      linarith
    exact_mod_cast Nat.le_antisymm notOver next

end Bytes

/-! ### Written channels -/

theorem latinDigit_digitChar {value : Nat} (small : value < 16) :
    LatinDigit (Nat.digitChar value) value := by
  have each : ∀ digit : Fin 16, (Nat.digitChar digit).toLower = Nat.digitChar digit := by decide
  exact ⟨small, each ⟨value, small⟩⟩

section Written

variable {F : Type} [Arithmetic F]

theorem toList_rgbToHex (colour : Rgb F) :
    (rgbToHex colour).toList = '#' :: ((hexText 2 (quantize colour.red)).toList ++
      (hexText 2 (quantize colour.green)).toList ++ (hexText 2 (quantize colour.blue)).toList) := by
  simp [rgbToHex, channelsToHex, String.join]

theorem exists_digits (channel : F) : ∃ high low, high < 16 ∧ low < 16 ∧
    quantize channel = 16 * high + low := by
  have fits := quantize_le channel
  exact ⟨quantize channel / 16, quantize channel % 16, by omega, by omega, by omega⟩

/-- Two digits are written for each channel. -/
theorem length_rgbToHex (colour : Rgb F) : (rgbToHex colour).length = 7 := by
  have digits (channel : F) : (hexText 2 (quantize channel)).toList.length = 2 := by
    obtain ⟨high, low, highSmall, lowSmall, isByte⟩ := exists_digits channel
    rw [isByte, hexText_byte highSmall lowSmall]
    rfl
  rw [← String.length_toList, toList_rgbToHex]
  simp only [List.length_cons, List.length_append, digits]

/-- What is written for channels is the hexadecimal colour of their nearest bytes. -/
theorem hexColour_rgbToHex (colour : Rgb F) : HexColour (rgbToHex colour)
    (quantize colour.red) (quantize colour.green) (quantize colour.blue) := by
  refine ⟨_, toList_rgbToHex colour, ?_⟩
  obtain ⟨redHigh, redLow, redHighSmall, redLowSmall, red⟩ := exists_digits colour.red
  obtain ⟨greenHigh, greenLow, greenHighSmall, greenLowSmall, green⟩ := exists_digits colour.green
  obtain ⟨blueHigh, blueLow, blueHighSmall, blueLowSmall, blue⟩ := exists_digits colour.blue
  rw [red, green, blue, hexText_byte redHighSmall redLowSmall,
    hexText_byte greenHighSmall greenLowSmall, hexText_byte blueHighSmall blueLowSmall]
  exact .long (latinDigit_digitChar redHighSmall) (latinDigit_digitChar redLowSmall)
    (latinDigit_digitChar greenHighSmall) (latinDigit_digitChar greenLowSmall)
    (latinDigit_digitChar blueHighSmall) (latinDigit_digitChar blueLowSmall)

end Written

/-- Over exact arithmetic a hexadecimal colour is read as the bytes that it stands for. -/
theorem HexColour.hexToRgb_eq_ok {text : String} {red green blue : Nat}
    (hex : HexColour text red green blue) :
    hexToRgb text = (.ok ⟨red, green, blue⟩ : Result Rat (Rgb Rat)) := by
  obtain ⟨colour, read, isRed, isGreen, isBlue⟩ := hex.spells.returns_exactly (F := Rat)
  obtain ⟨redFound, greenFound, blueFound⟩ := colour
  cases isRed
  cases isGreen
  cases isBlue
  simpa using read

/-- The lower-case form with six digits of a hexadecimal colour. -/
def sixDigits (text : String) : String :=
  let digits := text.toList.tail
  let doubled := if digits.length = 3 then digits.flatMap fun digit => [digit, digit] else digits
  String.ofList ('#' :: doubled.map Char.toLower)

/-- A colour is written again in lower case with six digits. -/
theorem HexColour.rgbToHex_eq {text : String} {red green blue : Nat}
    (hex : HexColour text red green blue) :
    rgbToHex (⟨red, green, blue⟩ : Rgb Rat) = sixDigits text := by
  obtain ⟨redFits, greenFits, blueFits⟩ := hex.le
  obtain ⟨digits, isText, isDigits⟩ := hex
  have pair {high low : Char} {highValue lowValue : Nat} (isHigh : LatinDigit high highValue)
      (isLow : LatinDigit low lowValue) :
      (hexText 2 (16 * highValue + lowValue)).toList = [high.toLower, low.toLower] := by
    rw [hexText_byte isHigh.lt isLow.lt, isHigh.lower, isLow.lower]
  rw [← String.toList_inj, toList_rgbToHex, quantize_byte redFits, quantize_byte greenFits,
    quantize_byte blueFits]
  cases isDigits with
  | short isRed isGreen isBlue =>
      simp [sixDigits, isText, pair isRed isRed, pair isGreen isGreen, pair isBlue isBlue]
  | long isRed isRedLow isGreen isGreenLow isBlue isBlueLow =>
      simp [sixDigits, isText, pair isRed isRedLow, pair isGreen isGreenLow, pair isBlue isBlueLow]

/-! ### Darkened channels -/

/-- No channel exceeds that of the other colour. -/
structure Rgb.NotAbove (colour other : Rgb Rat) : Prop where
  red : colour.red ≤ other.red
  green : colour.green ≤ other.green
  blue : colour.blue ≤ other.blue

/-- The channels of a darkened colour. -/
def darkened (text : String) (factor : Number Rat) : Result Rat (Rgb Rat) := do
  hexToRgb (← darken text factor)

theorem HexColour.darkened_eq_ok {text : String} {red green blue : Nat}
    (hex : HexColour text red green blue) (factor : Number Rat) :
    darkened text factor = .ok ⟨(quantize (red * factor.exact) : Nat),
      (quantize (green * factor.exact) : Nat), (quantize (blue * factor.exact) : Nat)⟩ := by
  have dark : darken text factor =
      .ok (rgbToHex ⟨red * factor.exact, green * factor.exact, blue * factor.exact⟩) :=
    bind_eq_ok.mpr ⟨_, hex.hexToRgb_eq_ok,
      bind_eq_ok.mpr ⟨_, lift_eq_ok.mpr Number.toReal_eq_ok, rfl⟩⟩
  exact bind_eq_ok.mpr ⟨_, dark, (hexColour_rgbToHex _).hexToRgb_eq_ok⟩

theorem quantize_scaled_mono (byte : Nat) {less more : Rat} (le : less ≤ more) :
    (quantize (byte * less) : Rat) ≤ quantize (byte * more) := by
  have scaled : (byte : Rat) * less ≤ byte * more := by gcongr
  exact_mod_cast quantize_mono scaled

theorem quantize_scaled_le {byte : Nat} (fits : byte ≤ 255) {factor : Rat} (le : factor ≤ 1) :
    (quantize (byte * factor) : Rat) ≤ byte := by
  have scaled := quantize_scaled_mono byte le
  rwa [mul_one, quantize_byte fits] at scaled

end MapStyle.Colour
