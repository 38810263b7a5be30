import Mathlib
import MapStyle.Decimal.Shortest
import MapStyle.Proofs.Json.Numeral

/-!
# Decimals that have been written

In every layout a decimal is written as a numeral with a fraction or an exponent, and the numeral
has the value of the decimal.
-/

namespace MapStyle.Decimal

set_option autoImplicit false

open MapStyle.Json (Numeral isLatinDigit isLatinDigit_of_mem_toDigits)
open MapStyle.Text (digitsValue)

/-! ### Digits and zeros -/

theorem digitsValue_append (left right : List Char) :
    digitsValue (left ++ right) = right.foldl (fun value character =>
      10 * value + (Text.digitValue? character).getD 0) (digitsValue left) := by
  rw [digitsValue, List.foldl_append]
  rfl

/-- Zeros in front of digits do not count. -/
theorem digitsValue_zeros_append (count : Nat) (digits : List Char) :
    digitsValue (List.replicate count '0' ++ digits) = digitsValue digits := by
  have none : digitsValue (List.replicate count '0') = 0 := by
    induction count with
    | zero => rfl
    | succ count ih => rw [List.replicate_succ', digitsValue_append, ih]; rfl
  rw [digitsValue_append, none]
  rfl

/-- Zeros behind digits are powers of ten. -/
theorem digitsValue_append_zeros (digits : List Char) (count : Nat) :
    digitsValue (digits ++ List.replicate count '0') = digitsValue digits * 10 ^ count := by
  induction count with
  | zero => simp
  | succ count ih =>
      rw [List.replicate_succ', ← List.append_assoc, digitsValue_append, ih, pow_succ, ← mul_assoc]
      exact Nat.mul_comm 10 _

theorem all_digits_zeros {count : Nat} :
    ∀ digit ∈ List.replicate count '0', isLatinDigit digit = true := by
  intro digit member
  rw [List.eq_of_mem_replicate member]
  decide

theorem all_digits_append {left right : List Char}
    (leftAll : ∀ digit ∈ left, isLatinDigit digit = true)
    (rightAll : ∀ digit ∈ right, isLatinDigit digit = true) :
    ∀ digit ∈ left ++ right, isLatinDigit digit = true := by
  intro digit member
  exact (List.mem_append.mp member).elim (leftAll digit) (rightAll digit)

theorem toList_padded (width value : Nat) :
    (padded width value).toList =
      List.replicate (width - (toString value).length) '0' ++ Nat.toDigits 10 value := by
  simp [padded, zeros]

/-! ### The layouts -/

/-- The text of a decimal is a numeral that is read as a fractional number and has the value of the
decimal. -/
structure Writes (decimal : Digits) (numeral : Numeral) : Prop where
  wellFormed : numeral.WellFormed
  isReal : numeral.fraction ≠ [] ∨ numeral.exponent.isSome
  exact : (numeral.mantissa : Rat) * 10 ^ numeral.power = decimal.digits * 10 ^ decimal.exponent

/-- Zero has no exponent. -/
def Digits.Reduced (decimal : Digits) : Prop :=
  0 < decimal.digits ∨ decimal = ⟨0, 0⟩

/-- The digits of a number, as they are written. -/
structure Spells (digits : List Char) (value : Nat) : Prop where
  all : ∀ digit ∈ digits, isLatinDigit digit = true
  given : digits ≠ []
  noNeedlessZero : 0 < value → ∀ digit, digits.head? = some digit → digit ≠ '0'
  zero : value = 0 → digits = ['0']
  counted : digitsValue digits = value

theorem spells_toDigits (value : Nat) : Spells (Nat.toDigits 10 value) value where
  all _ := isLatinDigit_of_mem_toDigits
  given := Nat.toDigits_ne_nil
  noNeedlessZero := Json.head_toDigits
  zero none := none ▸ Nat.toDigits_zero 10
  counted := Json.digitsValue_toDigits value

variable {decimal : Digits} {digits : List Char} {leading : Int}

/-- One digit before the point and an exponent. -/
theorem writes_scientific (spells : Spells digits decimal.digits) (width : Nat)
    (isLeading : leading = digits.length - 1 + decimal.exponent) :
    Writes decimal ⟨digits.take 1, digits.drop 1,
      some (decide (leading < 0), (padded width leading.natAbs).toList)⟩ := by
  obtain ⟨first, others, rfl⟩ := List.exists_cons_of_ne_nil spells.given
  have counted : digitsValue (padded width leading.natAbs).toList = leading.natAbs := by
    rw [toList_padded, digitsValue_zeros_append, Json.digitsValue_toDigits]
  constructor
  · constructor
    · exact fun digit member => spells.all digit (List.mem_of_mem_take member)
    · simp
    · by_cases zero : first = '0'
      · exact .inl (by simp [zero])
      · exact .inr fun digit same => by simpa using (Option.some_inj.mp same) ▸ zero
    · exact fun digit member => spells.all digit (List.mem_of_mem_drop member)
    · intro negative exponentDigits same
      cases same
      rw [toList_padded]
      exact ⟨by simp [Nat.toDigits_ne_nil],
        all_digits_append all_digits_zeros fun _ => isLatinDigit_of_mem_toDigits⟩
  · exact .inr rfl
  · have power : Numeral.power ⟨(first :: others).take 1, (first :: others).drop 1,
        some (decide (leading < 0), (padded width leading.natAbs).toList)⟩ = decimal.exponent := by
      simp only [Numeral.power, Numeral.raisedBy, counted, List.length_drop, decide_eq_true_eq]
      simp only [List.length_cons] at isLeading ⊢
      split_ifs <;> omega
    rw [power, Numeral.mantissa]
    dsimp only
    rw [List.take_append_drop, spells.counted]

/-- Zeros instead of an exponent, and another one behind the point. -/
theorem writes_whole (spells : Spells digits decimal.digits) (reduced : decimal.Reduced)
    (notNegative : 0 ≤ decimal.exponent) :
    Writes decimal ⟨digits ++ List.replicate decimal.exponent.toNat '0', ['0'], none⟩ := by
  obtain ⟨count, isCount⟩ := Int.eq_ofNat_of_zero_le notNegative
  rw [isCount, Int.toNat_natCast]
  constructor
  · constructor
    · exact all_digits_append spells.all all_digits_zeros
    · simp [spells.given]
    · rcases reduced with positive | rfl
      · right
        intro digit first
        rw [List.head?_append_of_ne_nil _ spells.given] at first
        exact spells.noNeedlessZero positive digit first
      · left
        cases isCount
        rw [spells.zero rfl]
        rfl
    · simp [isLatinDigit]
    · simp
  · exact .inl (by simp)
  · have whole : digits ++ List.replicate count '0' ++ ['0'] =
        digits ++ List.replicate (count + 1) '0' := by
      rw [List.replicate_succ', List.append_assoc]
    simp only [Numeral.mantissa, Numeral.power, Numeral.raisedBy, whole, digitsValue_append_zeros,
      spells.counted, isCount, List.length_singleton]
    push_cast
    rw [zpow_natCast, pow_succ, zpow_neg_one]
    field_simp

/-- A point between the digits. -/
theorem writes_pointed (spells : Spells digits decimal.digits) (reduced : decimal.Reduced)
    (isLeading : leading = digits.length - 1 + decimal.exponent) (negative : decimal.exponent < 0)
    (notNegative : 0 ≤ leading) :
    Writes decimal ⟨digits.take (leading + 1).toNat, digits.drop (leading + 1).toNat, none⟩ := by
  obtain ⟨place, isPlace⟩ := Int.eq_ofNat_of_zero_le (show 0 ≤ leading by omega)
  have isNext : (leading + 1).toNat = place + 1 := by omega
  have inside : place + 1 < digits.length := by omega
  rw [isNext]
  constructor
  · constructor
    · exact fun digit member => spells.all digit (List.mem_of_mem_take member)
    · simp [spells.given]
    · rcases reduced with positive | rfl
      · right
        intro digit first
        rw [List.head?_take, if_neg (Nat.succ_ne_zero place)] at first
        exact spells.noNeedlessZero positive digit first
      · exact absurd negative (lt_irrefl 0)
    · exact fun digit member => spells.all digit (List.mem_of_mem_drop member)
    · simp
  · exact .inl (by simpa using inside)
  · have power : Numeral.power ⟨digits.take (place + 1), digits.drop (place + 1), none⟩ =
        decimal.exponent := by
      simp only [Numeral.power, Numeral.raisedBy, List.length_drop]
      omega
    rw [power, Numeral.mantissa]
    dsimp only
    rw [List.take_append_drop, spells.counted]

/-- All digits behind the point. -/
theorem writes_small (spells : Spells digits decimal.digits)
    (isLeading : leading = digits.length - 1 + decimal.exponent) (negative : leading < 0) :
    Writes decimal ⟨['0'], List.replicate (-leading - 1).toNat '0' ++ digits, none⟩ := by
  constructor
  · constructor
    · simp [isLatinDigit]
    · simp
    · exact .inl rfl
    · exact all_digits_append all_digits_zeros spells.all
    · simp
  · exact .inl (by simp [spells.given])
  · have power : Numeral.power ⟨['0'], List.replicate (-leading - 1).toNat '0' ++ digits, none⟩ =
        decimal.exponent := by
      simp only [Numeral.power, Numeral.raisedBy, List.length_append, List.length_replicate]
      omega
    have mantissa : Numeral.mantissa
        ⟨['0'], List.replicate (-leading - 1).toNat '0' ++ digits, none⟩ = decimal.digits := by
      show digitsValue (List.replicate 1 '0' ++ (List.replicate _ '0' ++ digits)) = _
      rw [digitsValue_zeros_append, digitsValue_zeros_append, spells.counted]
    rw [power, mantissa]

theorem toList_pointed (fraction : List Char) :
    (if fraction.isEmpty then "" else "." ++ String.ofList fraction).toList =
      Json.pointed fraction := by
  cases fraction with
  | nil => rfl
  | cons digit rest => simp [Json.pointed]

/-- What is written is a numeral of the value of the decimal. -/
theorem write_spec (layout : Layout) (reduced : decimal.Reduced) :
    ∃ numeral, (layout.write decimal).toList = numeral.characters ∧ Writes decimal numeral := by
  have written : (toString decimal.digits).toList = Nat.toDigits 10 decimal.digits := by simp
  have spells := spells_toDigits decimal.digits
  unfold Layout.write
  rw [written]
  generalize Nat.toDigits 10 decimal.digits = digits at spells ⊢
  dsimp only
  generalize isLeading : (digits.length : Int) - 1 + decimal.exponent = leading
  split
  · refine ⟨_, ?_, writes_scientific spells layout.exponentWidth isLeading.symm⟩
    simp only [Numeral.characters, Json.raised, String.toList_append, String.toList_ofList,
      toList_pointed]
    by_cases below : leading < 0 <;> simp [below]
  · split
    · rename_i notNegative
      refine ⟨_, ?_, writes_whole spells reduced notNegative⟩
      simp [Numeral.characters, Json.pointed, Json.raised, zeros]
    · rename_i negative
      split
      · rename_i notNegative
        have writes := writes_pointed spells reduced isLeading.symm (not_le.mp negative) notNegative
        refine ⟨_, ?_, writes⟩
        have given : (digits.drop (leading + 1).toNat).isEmpty = false := by
          simpa using writes.isReal
        simp [Numeral.characters, Json.pointed, Json.raised, given]
      · rename_i leadingNegative
        refine ⟨_, ?_, writes_small spells isLeading.symm (not_le.mp leadingNegative)⟩
        simp [Numeral.characters, Json.pointed, Json.raised, zeros, spells.given]

end MapStyle.Decimal
