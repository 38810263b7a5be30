import Mathlib.Algebra.Group.Nat.Defs
import Mathlib.Data.List.Basic
import MapStyle.Text

/-!
# Hexadecimal digits

What a character has to be to count as a hexadecimal digit, what digits are worth, and which digits
a number is written with. Digits of the basic Latin alphabet are told from those of other scripts,
which are read as well.
-/

namespace MapStyle.Text

set_option autoImplicit false

variable {character other : Char} {value : Nat}

/-! ### Latin digits -/

/-- A hexadecimal digit of the basic Latin alphabet has the code point of a digit or of one of the
letters up to F. -/
theorem toNat_of_isLatinHexDigit (digit : isLatinHexDigit character = true) :
    (48 ≤ character.toNat ∧ character.toNat ≤ 57) ∨ (65 ≤ character.toNat ∧ character.toNat ≤ 70) ∨
      (97 ≤ character.toNat ∧ character.toNat ≤ 102) := by
  simp only [isLatinHexDigit, Bool.and_eq_true, decide_eq_true_eq] at digit
  obtain ⟨latin, valued⟩ := digit
  simp only [hexDigitValue?, digitValue?] at valued
  split at valued
  · omega
  · split at valued
    · omega
    · split at valued
      · omega
      · simp at valued

theorem ne_of_isLatinHexDigit (digit : isLatinHexDigit character = true)
    (low : other.toNat < 48) : character ≠ other := by
  rintro rfl
  have code := toNat_of_isLatinHexDigit digit
  omega

/-- A digit is written in lower case with the character that stands for its value. -/
theorem digitChar_of_isLatinHexDigit (digit : isLatinHexDigit character = true)
    (isValue : hexDigitValue? character = some value) :
    Nat.digitChar value = character.toLower := by
  have each : ∀ code < 128, isLatinHexDigit (Char.ofNat code) = true →
      (hexDigitValue? (Char.ofNat code)).map Nat.digitChar = some (Char.ofNat code).toLower := by
    decide
  have small : character.toNat < 128 := by
    have code := toNat_of_isLatinHexDigit digit
    omega
  have written := each character.toNat small
  rw [Char.ofNat_toNat, isValue] at written
  exact Option.some_inj.mp (written digit)

/-- Conversely, what is the character of a value in lower case is a digit of this value. -/
theorem hexDigit_of_toLower (small : value < 16)
    (lower : character.toLower = Nat.digitChar value) :
    isLatinHexDigit character = true ∧ hexDigitValue? character = some value := by
  have each : ∀ code < 128, ∀ digit : Fin 16, (Char.ofNat code).toLower = Nat.digitChar digit →
      isLatinHexDigit (Char.ofNat code) = true ∧ hexDigitValue? (Char.ofNat code) = some ↑digit := by
    decide +kernel
  have latin : character.toNat < 128 := by
    by_contra large
    have notUpper : ¬(character.val ≥ 'A'.val ∧ character.val ≤ 'Z'.val) := by
      rintro ⟨_, upper⟩
      have below : character.toNat ≤ 90 := upper
      omega
    have unchanged : character.toLower = character := dif_neg notUpper
    have low : ∀ digit : Fin 16, (Nat.digitChar digit).toNat < 128 := by decide
    rw [← unchanged, lower] at large
    exact large (low ⟨value, small⟩)
  have found := each character.toNat latin ⟨value, small⟩
  rw [Char.ofNat_toNat] at found
  exact found lower

/-- Letters and digits of the basic Latin alphabet lie between its blanks and its end. -/
theorem toNat_of_isAlphanum (alphanumeric : character.isAlphanum = true) :
    48 ≤ character.toNat ∧ character.toNat ≤ 122 := by
  have ranges : character.isAlphanum =
      (decide ('A'.val ≤ character.val ∧ character.val ≤ 'Z'.val) ||
        decide ('a'.val ≤ character.val) && decide (character.val ≤ 'z'.val) ||
        decide ('0'.val ≤ character.val) && decide (character.val ≤ '9'.val)) := rfl
  have code : character.val.toNat = character.toNat := rfl
  simp only [ranges, Bool.or_eq_true, Bool.and_eq_true, decide_eq_true_eq, UInt32.le_iff_toNat_le,
    code, Char.reduceVal, UInt32.reduceToNat] at alphanumeric
  omega

theorem isLatinHexDigit_of_isAlphanum (alphanumeric : character.isAlphanum = true)
    (isValue : hexDigitValue? character = some value) : isLatinHexDigit character = true := by
  obtain ⟨_, below⟩ := toNat_of_isAlphanum alphanumeric
  simp only [isLatinHexDigit, isValue, Option.isSome_some, Bool.and_true, decide_eq_true_eq]
  omega

/-! ### Digits of any script -/

/-- No visible character of the basic Latin alphabet is a blank. -/
theorem isBlank_of_visible (above : 33 ≤ character.toNat) (below : character.toNat ≤ 126) :
    isBlank character = false := by
  simp only [isBlank, Bool.or_eq_false_iff, Bool.and_eq_false_iff, decide_eq_false_iff_not,
    beq_eq_false_iff_ne]
  omega

theorem isBlank_of_digitValue? (digit : digitValue? character = some value) :
    isBlank character = false := by
  simp only [digitValue?] at digit
  split at digit
  · exact isBlank_of_visible (by omega) (by omega)
  · split at digit
    · cases digit
    · obtain ⟨start, found, _⟩ := Option.map_eq_some_iff.mp digit
      have within := List.find?_some found
      simp only [Bool.and_eq_true, decide_eq_true_eq] at within
      -- The digits of the other scripts lie in the gaps between the blanks.
      have apart : ∀ start ∈ zeroDigits, start + 9 < 133 ∧ 33 ≤ start ∨
          161 ≤ start ∧ start + 9 < 5760 ∨ 5761 ≤ start ∧ start + 9 < 8192 ∨ 12289 ≤ start := by
        decide
      have gap := apart start (List.mem_of_find?_eq_some found)
      simp only [isBlank, Bool.or_eq_false_iff, Bool.and_eq_false_iff, decide_eq_false_iff_not,
        beq_eq_false_iff_ne]
      omega

/-- No hexadecimal digit is a blank. -/
theorem isNumberBlank_of_hexDigitValue? (digit : hexDigitValue? character = some value) :
    isNumberBlank character = false := by
  have notBlank : isBlank character = false := by
    simp only [hexDigitValue?] at digit
    split at digit
    · exact isBlank_of_visible (by omega) (by omega)
    · split at digit
      · exact isBlank_of_visible (by omega) (by omega)
      · exact isBlank_of_digitValue? digit
  simp [isNumberBlank, notBlank]

/-! ### Digits of numbers -/

theorem hexDigitValue?_digitChar : ∀ digit : Fin 16,
    isLatinHexDigit (Nat.digitChar digit) = true ∧
      hexDigitValue? (Nat.digitChar digit) = some digit := by
  decide

/-- The number that hexadecimal digits stand for. -/
def hexValue (digits : List Char) : Nat :=
  digits.foldl (fun value digit => 16 * value + (hexDigitValue? digit).getD 0) 0

theorem hexValue_concat (digits : List Char) (digit : Char) :
    hexValue (digits ++ [digit]) = 16 * hexValue digits + (hexDigitValue? digit).getD 0 := by
  rw [hexValue, List.foldl_append]
  rfl

theorem hexValue_toDigits (value : Nat) :
    hexValue (Nat.toDigits 16 value) = value ∧
      ∀ digit ∈ Nat.toDigits 16 value, isLatinHexDigit digit = true := by
  induction value using Nat.strongRecOn with
  | ind value ih =>
      rcases Nat.lt_or_ge value 16 with small | large
      · obtain ⟨isLatin, isValue⟩ := hexDigitValue?_digitChar ⟨value, small⟩
        rw [Nat.toDigits_of_lt_base small]
        refine ⟨?_, by simpa using isLatin⟩
        have alone := hexValue_concat [] (Nat.digitChar value)
        rw [List.nil_append, isValue] at alone
        exact alone.trans (Nat.zero_add value)
      · obtain ⟨isFront, frontLatin⟩ := ih (value / 16) (by omega)
        obtain ⟨isLatin, isValue⟩ := hexDigitValue?_digitChar ⟨value % 16, by omega⟩
        dsimp only at isLatin isValue
        rw [Nat.toDigits_of_base_le (by decide) large]
        refine ⟨?_, ?_⟩
        · rw [hexValue_concat, isFront, isValue]
          exact Nat.div_add_mod value 16
        · intro digit member
          rcases List.mem_append.mp member with front | last
          · exact frontLatin digit front
          · rw [List.mem_singleton.mp last]
            exact isLatin

theorem hexValue_zeros_append (count : Nat) (digits : List Char) :
    hexValue (List.replicate count '0' ++ digits) = hexValue digits := by
  have none : (List.replicate count '0').foldl
      (fun value digit => 16 * value + (hexDigitValue? digit).getD 0) 0 = 0 := by
    induction count with
    | zero => rfl
    | succ count ih => exact ih
  rw [hexValue, List.foldl_append, none]
  rfl

/-- A number that needs no more digits than there is room for is written with as many digits of the
basic Latin alphabet, and they are worth the number. -/
theorem hexText_digits {width value : Nat} (room : 0 < width) (fits : value < 16 ^ width) :
    (hexText width value).toList.length = width ∧
      (∀ digit ∈ (hexText width value).toList, isLatinHexDigit digit = true) ∧
      hexValue (hexText width value).toList = value := by
  obtain ⟨isValue, latin⟩ := hexValue_toDigits value
  have short : (Nat.toDigits 16 value).length ≤ width :=
    (Nat.length_toDigits_le_iff (by decide) room).mpr fits
  have characters : (hexText width value).toList =
      List.replicate (width - (Nat.toDigits 16 value).length) '0' ++ Nat.toDigits 16 value := by
    simp [hexText]
  rw [characters]
  refine ⟨?_, ?_, ?_⟩
  · rw [List.length_append, List.length_replicate]
    omega
  · intro digit member
    rcases List.mem_append.mp member with zero | given
    · rw [List.eq_of_mem_replicate zero]
      decide
    · exact latin digit given
  · rw [hexValue_zeros_append, isValue]

/-- A byte is written with the two digits that it consists of. -/
theorem hexText_byte {high low : Nat} (highSmall : high < 16) (lowSmall : low < 16) :
    (hexText 2 (16 * high + low)).toList = [Nat.digitChar high, Nat.digitChar low] := by
  obtain rfl | positive := Nat.eq_zero_or_pos high
  · simp [hexText, Nat.toDigits_of_lt_base lowSmall]
  · have quotient : (16 * high + low) / 16 = high := by omega
    have remainder : (16 * high + low) % 16 = low := by omega
    have digits : Nat.toDigits 16 (16 * high + low) = [Nat.digitChar high, Nat.digitChar low] := by
      rw [Nat.toDigits_of_base_le (by decide) (by omega), quotient, remainder,
        Nat.toDigits_of_lt_base highSmall]
      rfl
    simp [hexText, digits]

end MapStyle.Text
