import MapStyle.Json.Printer
import MapStyle.Number.Double
import MapStyle.Proofs.Decimal.Shortest
import MapStyle.Proofs.Decimal.Written
import MapStyle.Proofs.Number.Rounding

/-!
# Doubles that have been written

A double is the only one with its sign, significand and exponent. The decimal that is written for it
is rounded to the same significand and exponent, so it is read back as the same double.
-/

namespace MapStyle.Double

set_option autoImplicit false

open MapStyle.Decimal (Binary64 twoTo tenTo digitCount shortest)
open MapStyle.Json (Numeral Clear decimalValue scanNumber?)
open Float.Model (Format UnpackedFloat)
open Float.Model.UnpackedFloat

/-! ### Doubles by their parts -/

section Parts

variable {significand : Nat} {exponent : Int}

theorem stored_unpack (value : Float) : stored value.toModel.unpack = value := by
  have same : UnpackedFloat.pack Format.binary64 value.toModel.unpack =
      value.toModel.toBits.toBitVec := pack_unpack_of_valid value.toModel.valid
  obtain ⟨⟨bits, valid⟩⟩ := value
  simp only [stored, Float.Model.pack, same]

/-- No two finite doubles have the same parts. -/
theorem eq_of_parts {left right : UnpackedFloat} {parts : Binary64}
    (leftParts : parts? left = some parts) (rightParts : parts? right = some parts) :
    left = right := by
  have signs {sign other : Sign} (same : (sign == .negative) = (other == .negative)) :
      sign = other := by
    cases sign <;> cases other <;> trivial
  cases left with
  | notANumber => cases leftParts
  | infinity sign => cases leftParts
  | zero sign =>
      cases leftParts
      cases right with
      | notANumber => cases rightParts
      | infinity other => cases rightParts
      | zero other =>
          injection rightParts with same
          injection same with isSign
          rw [signs isSign]
      | finite other significand exponent positive =>
          injection rightParts with same
          injection same with _ isSignificand _
          exact absurd isSignificand positive.ne'
  | finite sign significand exponent positive =>
      cases leftParts
      cases right with
      | notANumber => cases rightParts
      | infinity other => cases rightParts
      | zero other =>
          injection rightParts with same
          injection same with _ isSignificand _
          exact absurd isSignificand.symm positive.ne'
      | finite other otherSignificand otherExponent otherPositive =>
          injection rightParts with same
          injection same with isSign isSignificand isExponent
          subst isSignificand isExponent
          rw [signs isSign]

/-- The bits of a finite double give back its parts. -/
theorem ofBits?_packed (canonical : Canonical significand exponent)
    (finite : exponent ≤ largestExponent) :
    Binary64.ofBits? (packed significand exponent) = some ⟨false, significand, exponent⟩ := by
  have fits := canonical.fits
  have notBelow := canonical.notBelow
  have full := canonical.full
  have unit : twoTo 52 = 2 ^ 52 := rfl
  have fields : twoTo 11 = 2 ^ 11 := rfl
  have signUnit : twoTo 63 = 2 ^ 63 := rfl
  unfold largestExponent at finite
  simp only [Binary64.ofBits?, packed, unit, fields, signUnit, Binary64.reservedField,
    Binary64.leastExponent] at *
  obtain ⟨field, isField⟩ := Int.eq_ofNat_of_zero_le (show 0 ≤ exponent - -1074 by omega)
  rw [isField, Int.toNat_natCast]
  have positive : ¬2 ^ 63 ≤ field * 2 ^ 52 + significand := by omega
  rw [decide_eq_false positive]
  rcases Nat.lt_or_ge significand (2 ^ 52) with short | long
  · have least : field = 0 := by omega
    have own : (field * 2 ^ 52 + significand) / 2 ^ 52 % 2 ^ 11 = 0 := by omega
    have fraction : (field * 2 ^ 52 + significand) % 2 ^ 52 = significand := by omega
    have exponent : exponent = -1074 := by omega
    rw [own, fraction, if_neg (by decide), if_pos rfl, exponent]
  · have own : (field * 2 ^ 52 + significand) / 2 ^ 52 % 2 ^ 11 = field + 1 := by omega
    have fraction : 2 ^ 52 + (field * 2 ^ 52 + significand) % 2 ^ 52 = significand := by omega
    have isExponent : ((field + 1 : Nat) : Int) - 1075 = exponent := by omega
    rw [own, fraction, if_neg (by omega), if_neg (by omega), isExponent]

/-- Fields of a finite double lie within the format. -/
theorem canonical_of_parts {value : Float} {parts : Binary64} (isParts : binary64? value = some parts) :
    Canonical parts.significand parts.exponent ∧ parts.exponent ≤ largestExponent := by
  constructor
  · have canonical := isCanonical value
    have unpacked : binary64? value = parts? value.toModel.unpack := ofBits?_eq_parts _
    rw [unpacked] at isParts
    cases isUnpacked : value.toModel.unpack with
    | notANumber =>
        rw [isUnpacked] at isParts
        cases isParts
    | infinity sign =>
        rw [isUnpacked] at isParts
        cases isParts
    | zero sign =>
        rw [isUnpacked] at isParts
        cases isParts
        exact ⟨show 0 < 2 ^ 53 by decide, le_refl _, .inr rfl⟩
    | finite sign significand exponent positive =>
        rw [isUnpacked] at isParts canonical
        cases isParts
        exact canonical
  · unfold binary64? Binary64.ofBits? at isParts
    dsimp only at isParts
    have field : value.toBits.toNat / twoTo 52 % twoTo 11 < 2048 := Nat.mod_lt _ (by decide)
    split_ifs at isParts with reserved least
    · cases isParts
      show Binary64.leastExponent ≤ largestExponent
      decide
    · cases isParts
      show ((value.toBits.toNat / twoTo 52 % twoTo 11 : Nat) : Int) - 1075 ≤ 971
      unfold Binary64.reservedField at reserved
      omega

/-- The double that is not negative with a significand and an exponent. -/
def ofParts (significand : Nat) (exponent : Int) : Float :=
  Float.ofBits (UInt64.ofNat (packed significand exponent))

theorem parts_ofParts (canonical : Canonical significand exponent)
    (finite : exponent ≤ largestExponent) :
    parts? (ofParts significand exponent).toModel.unpack = some ⟨false, significand, exponent⟩ := by
  rw [← ofBits?_packed canonical finite, ← toBits_ofBits (packed_lt canonical finite)]
  exact (ofBits?_eq_parts _).symm

/-- Only the first of the parts is turned around. -/
theorem parts?_neg (unpacked : UnpackedFloat) :
    parts? unpacked.neg = (parts? unpacked).map fun parts =>
      { parts with negative := !parts.negative } := by
  cases unpacked with
  | notANumber => rfl
  | infinity sign => rfl
  | zero sign => cases sign <;> rfl
  | finite sign significand exponent positive => cases sign <;> rfl

/-- A finite double is made of its parts. -/
theorem eq_ofParts {value : Float} {parts : Binary64} (isParts : binary64? value = some parts) :
    (if parts.negative then -ofParts parts.significand parts.exponent
      else ofParts parts.significand parts.exponent) = value := by
  obtain ⟨canonical, finite⟩ := canonical_of_parts isParts
  have ofMagnitude := parts_ofParts canonical finite
  have unpacked : parts? value.toModel.unpack = some parts :=
    (ofBits?_eq_parts _).symm.trans isParts
  obtain ⟨negative, significand, exponent⟩ := parts
  cases negative with
  | false =>
      show ofParts significand exponent = value
      rw [← stored_unpack (ofParts significand exponent), eq_of_parts ofMagnitude unpacked,
        stored_unpack]
  | true =>
      have ofNegative := parts?_neg (ofParts significand exponent).toModel.unpack
      rw [ofMagnitude] at ofNegative
      show stored (ofParts significand exponent).toModel.unpack.neg = value
      rw [eq_of_parts ofNegative unpacked, stored_unpack]

end Parts

/-! ### Decimals -/

section Decimals

variable {significand mantissa : Nat} {exponent : Int}

/-- Powers of two within the range of doubles lie within that of the powers of ten. -/
theorem two_zpow_lt {power : Int} (small : power ≤ 1200) :
    (2 : Rat) ^ power < 10 ^ decimalRange := by
  calc (2 : Rat) ^ power ≤ 2 ^ ((3 * decimalRange : Nat) : Int) := by
        apply zpow_le_zpow_right₀ (by norm_num)
        unfold decimalRange
        omega
    _ = (2 ^ 3) ^ decimalRange := by rw [zpow_natCast, pow_mul]
    _ < 10 ^ decimalRange := pow_lt_pow_left₀ (by norm_num) (by norm_num) (by decide)

/-- Every double but zero lies between these powers of ten. -/
theorem bounds_of_roundsTo {exact : Rat} (canonical : Canonical significand exponent)
    (finite : exponent ≤ largestExponent) (positive : 0 < significand)
    (rounds : RoundsTo significand exponent exact) :
    (10 : Rat) ^ (-(decimalRange : Int)) < exact ∧ exact < 10 ^ decimalRange := by
  have least : (1 : Rat) ≤ significand := by exact_mod_cast positive
  have fits : (significand : Rat) + 1 ≤ 2 ^ 53 := by exact_mod_cast canonical.fits
  have notBelow := canonical.notBelow
  unfold Binary64.leastExponent at notBelow
  unfold largestExponent at finite
  have unit : (0 : Rat) < 2 ^ exponent := by positivity
  constructor
  · have inverse : (2 : Rat) ^ (1 - exponent) < 10 ^ decimalRange := two_zpow_lt (by omega)
    calc (10 : Rat) ^ (-(decimalRange : Int)) = (10 ^ decimalRange)⁻¹ := by
          rw [zpow_neg, zpow_natCast]
      _ < ((2 : Rat) ^ (1 - exponent))⁻¹ := by gcongr
      _ = 1 / 2 * 2 ^ exponent := by
          rw [zpow_sub₀ (by norm_num), inv_div, zpow_one]
          ring
      _ ≤ (significand - 1 / 2) * 2 ^ exponent := by
          gcongr
          linarith
      _ ≤ exact := rounds.above
  · calc exact ≤ (significand + 1 / 2) * 2 ^ exponent := rounds.below
      _ ≤ 2 ^ 53 * 2 ^ exponent := by
          gcongr
          linarith
      _ = 2 ^ (53 + exponent) := (zpow_add₀ (by norm_num) 53 exponent).symm
      _ < 10 ^ decimalRange := two_zpow_lt (by omega)

/-- A decimal that is not tiny has few places more than digits. -/
theorem places_within {count : Nat}
    (above : 10 ^ (-(decimalRange : Int)) < (mantissa : Rat) * 10 ^ (-(count : Int))) :
    ¬digitCount mantissa + decimalRange < count := by
  intro tiny
  have digits : (mantissa : Rat) < 10 ^ digitCount mantissa := by
    exact_mod_cast Decimal.lt_ten_pow_digitCount mantissa
  have small : (mantissa : Rat) * 10 ^ (-(count : Int)) ≤ 10 ^ (-(decimalRange : Int)) := by
    calc (mantissa : Rat) * 10 ^ (-(count : Int))
        ≤ 10 ^ (digitCount mantissa : Int) * 10 ^ (-(count : Int)) := by
          rw [zpow_natCast]
          gcongr
      _ = 10 ^ ((digitCount mantissa : Int) + -(count : Int)) :=
          (zpow_add₀ (by norm_num) _ _).symm
      _ ≤ 10 ^ (-(decimalRange : Int)) := zpow_le_zpow_right₀ (by norm_num) (by omega)
  exact absurd above small.not_gt

/-- A decimal that is not huge has few zeros at its end. -/
theorem zeros_within {count : Nat} (given : mantissa ≠ 0)
    (below : (mantissa : Rat) * 10 ^ (count : Int) < 10 ^ decimalRange) :
    ¬decimalRange < count := by
  intro large
  have least : (1 : Rat) ≤ mantissa := by exact_mod_cast Nat.one_le_iff_ne_zero.mpr given
  have huge : (10 : Rat) ^ decimalRange ≤ mantissa * 10 ^ (count : Int) := by
    rw [zpow_natCast]
    calc (10 : Rat) ^ decimalRange ≤ 10 ^ count := pow_le_pow_right₀ (by norm_num) large.le
      _ ≤ mantissa * 10 ^ count := le_mul_of_one_le_left (by positivity) least
  exact absurd below huge.not_gt

/-- A decimal that is rounded to a double is read as this double. -/
theorem ofDecimal_eq_ofParts {power : Int} (canonical : Canonical significand exponent)
    (finite : exponent ≤ largestExponent) (positive : 0 < significand)
    (rounds : RoundsTo significand exponent (mantissa * 10 ^ power)) :
    ofDecimal mantissa (decide (power < 0)) power.natAbs = ofParts significand exponent := by
  obtain ⟨above, below⟩ := bounds_of_roundsTo canonical finite positive rounds
  have given : mantissa ≠ 0 := by
    rintro rfl
    have tiny : (0 : Rat) < 10 ^ (-(decimalRange : Int)) := by positivity
    rw [Nat.cast_zero, zero_mul] at above
    exact absurd above tiny.not_gt
  have ten (count : Nat) : ((tenTo count : Nat) : Rat) = 10 ^ count := by simp [tenTo]
  unfold ofDecimal
  rw [if_neg given]
  by_cases negative : power < 0
  · obtain ⟨count, rfl⟩ : ∃ count : Nat, power = -(count : Int) := ⟨power.natAbs, by omega⟩
    rw [decide_eq_true negative, Int.natAbs_neg, Int.natAbs_natCast, if_pos rfl,
      if_neg (places_within above),
      nearestBits?_of_roundsTo canonical finite positive (Decimal.tenTo_pos count)]
    · rfl
    · rw [ten, div_eq_mul_inv, ← zpow_natCast, ← zpow_neg]
      exact rounds
  · obtain ⟨count, rfl⟩ := Int.eq_ofNat_of_zero_le (not_lt.mp negative)
    rw [decide_eq_false negative, Int.natAbs_natCast, if_neg Bool.false_ne_true,
      if_neg (zeros_within given below),
      nearestBits?_of_roundsTo canonical finite positive Nat.one_pos]
    · rfl
    · rw [Nat.cast_mul, ten, Nat.cast_one, div_one, ← zpow_natCast]
      exact rounds

theorem reduced_shortest {value : Binary64} (canonical : Canonical value.significand value.exponent) :
    (shortest value).Reduced := by
  rcases Nat.eq_zero_or_pos value.significand with zero | positive
  · exact .inr (if_pos zero)
  · exact .inl (Decimal.shortest_pos canonical positive)

/-- What is written for a finite double is read as this double. -/
theorem spells_text {value : Float} {parts : Binary64} (isParts : binary64? value = some parts) :
    ∃ numeral : Numeral, numeral.Spells parts.negative (text value) value := by
  obtain ⟨canonical, finite⟩ := canonical_of_parts isParts
  obtain ⟨numeral, characters, writes⟩ :=
    Decimal.write_spec Decimal.standard (reduced_shortest canonical)
  refine ⟨numeral, ?_, writes.wellFormed, writes.isReal, ?_⟩
  · unfold text
    rw [isParts]
    dsimp only
    rw [String.toList_append, characters]
    cases parts.negative <;> rfl
  · have magnitude : ofDecimal numeral.mantissa (decide (numeral.power < 0)) numeral.power.natAbs =
        ofParts parts.significand parts.exponent := by
      rcases Nat.eq_zero_or_pos parts.significand with zero | positive
      · have none : numeral.mantissa = 0 := by
          have exact := writes.exact
          rw [shortest, if_pos zero, Nat.cast_zero, zero_mul] at exact
          exact_mod_cast (mul_eq_zero.mp exact).resolve_right (by positivity)
        have least : parts.exponent = Binary64.leastExponent :=
          canonical.full.resolve_left (by omega)
        rw [none, zero, least]
        rfl
      · apply ofDecimal_eq_ofParts canonical finite positive
        rw [writes.exact]
        exact Decimal.shortest_roundsTo canonical positive
    rw [← eq_ofParts isParts, ← magnitude]
    rfl

end Decimals

/-- A double that is not finite is one of three. -/
theorem eq_of_not_finite {value : Float} (nothing : binary64? value = none) :
    value = stored .notANumber ∨ value = stored (.infinity .positive) ∨
      value = stored (.infinity .negative) := by
  have unpacked : binary64? value = parts? value.toModel.unpack := ofBits?_eq_parts _
  rw [unpacked] at nothing
  have isStored := stored_unpack value
  cases isUnpacked : value.toModel.unpack with
  | notANumber =>
      rw [isUnpacked] at isStored
      exact .inl isStored.symm
  | infinity sign =>
      rw [isUnpacked] at isStored
      cases sign with
      | positive => exact .inr (.inl isStored.symm)
      | negative => exact .inr (.inr isStored.symm)
  | zero sign =>
      rw [isUnpacked] at nothing
      cases nothing
  | finite sign significand exponent positive =>
      rw [isUnpacked] at nothing
      cases nothing

instance : WrittenArithmetic Float where
  spelled value isFinite := by
    obtain ⟨exact, isExact⟩ := Option.isSome_iff_exists.mp isFinite
    obtain ⟨parts, isParts, _⟩ := Option.map_eq_some_iff.mp isExact
    obtain ⟨numeral, spells⟩ := spells_text isParts
    exact ⟨numeral, parts.negative, spells⟩
  named value notFinite := by
    have nothing : binary64? value = none :=
      Option.map_eq_none_iff.mp (Option.isNone_iff_eq_none.mp (Option.isSome_eq_false_iff.mp notFinite))
    have undefined : (ofDecimal 1 false 1000 - ofDecimal 1 false 1000 : Float) = stored .notANumber := by
      decide +kernel
    have infinite : ofDecimal 1 false 1000 = stored (.infinity .positive) := by decide +kernel
    have least : (-ofDecimal 1 false 1000 : Float) = stored (.infinity .negative) := by
      decide +kernel
    obtain rfl | rfl | rfl := eq_of_not_finite nothing
    · have name : Json.realText (stored .notANumber) = "NaN" := by decide +kernel
      rw [name, ← undefined]
      exact .tail _ (.tail _ (.tail _ (.head _)))
    · have name : Json.realText (stored (.infinity .positive)) = "Infinity" := by decide +kernel
      rw [name, ← infinite]
      exact .tail _ (.tail _ (.tail _ (.tail _ (.head _))))
    · have name : Json.realText (stored (.infinity .negative)) = "-Infinity" := by decide +kernel
      rw [name, ← least]
      exact .tail _ (.tail _ (.tail _ (.tail _ (.tail _ (.head _)))))

end MapStyle.Double
