import Mathlib.Data.List.TakeWhile
import MapStyle.Proofs.Number.Decimals
import MapStyle.Proofs.Zoom.Key

/-!
# Zooms that keys name

A zoom that is read is not below zero. One that was written as a number or without a fraction is
finite, and an integer if it is whole; one that was written with a fraction stays fractional, and is
infinite if it has too many digits.
-/

namespace MapStyle

set_option autoImplicit false

variable {F : Type} [Arithmetic F]

/-- A text that names a zoom with a fraction. -/
def Json.IsFractional (key : Json F) : Prop :=
  ∃ text whole fraction, key = .text text ∧
    Zoom.splitKey? (Text.strip text) = some (whole, some fraction)

/-- So many digits before the fraction keep a decimal within the range of fractional numbers. -/
def Zoom.rangeDigits : Nat := 307

/-- No text that names a zoom with a fraction has too many digits before it. -/
def Json.InRange (key : Json F) : Prop :=
  ∀ text whole fraction, key = .text text →
    Zoom.splitKey? (Text.strip text) = some (whole, some fraction) →
    whole.length ≤ Zoom.rangeDigits

namespace Number

variable {number : Number F}

variable [OrderedArithmetic F] [DecimalArithmetic F]

omit [OrderedArithmetic F] [DecimalArithmetic F] in
theorem exists_rational?_of_isFinite (finite : number.isFinite = .ok true) :
    ∃ exact, number.rational? = some exact := by
  cases number with
  | flag value => exact ⟨_, rfl⟩
  | int value => exact ⟨_, rfl⟩
  | real value =>
      have isSome : (Arithmetic.rational? value).isSome = true := Except.ok.inj finite
      exact Option.isSome_iff_exists.mp isSome

/-- A number that fits is finite if it has a value. -/
theorem isFinite_of_fits (quantity : number.isFlag = false) (fits : number.Fits) :
    number.isFinite = .ok number.rational?.isSome := by
  cases number with
  | flag value => cases quantity
  | real value => rfl
  | int value =>
      obtain ⟨nearest, isNearest⟩ := fits
      have finite := DecimalArithmetic.isFinite_ofRat? _ _ isNearest
      simp only [isFinite, toReal_of_rat isNearest, Except.map, finite]
      rfl

end Number

namespace Zoom

theorem fraction_ne_nil {characters whole fraction : List Char}
    (found : splitKey? characters = some (whole, some fraction)) : fraction ≠ [] := by
  unfold splitKey? at found
  extract_lets unmarked digits at found
  split_ifs at found
  split at found
  · cases (Prod.mk.inj (Option.some.inj found)).2
  · split_ifs at found with marked
    cases (Prod.mk.inj (Option.some.inj found)).2
    exact marked.2.1

theorem digitsValue_lt (digits : List Char) : Text.digitsValue digits < 10 ^ digits.length := by
  induction digits using List.reverseRecOn with
  | nil => decide
  | append_singleton front last ih =>
      have small : (Text.digitValue? last).getD 0 < 10 := by
        cases found : Text.digitValue? last with
        | none => decide
        | some value => exact Text.digitValue?_lt found
      rw [Decimal.digitsValue_append, List.foldl_cons, List.foldl_nil, List.length_append,
        List.length_singleton, pow_succ]
      omega

/-- A finite number that is an integer if it is whole. -/
structure IsPlain (zoom : Number F) : Prop where
  finite : ∃ exact, zoom.rational? = some exact
  canonical : ∀ whole, zoom.whole? = some whole → zoom = .int whole

theorem isPlain_int (value : Int) : IsPlain (.int value : Number F) where
  finite := ⟨value, rfl⟩
  canonical whole found := by
    cases found
    rfl

section Zooms

variable [OrderedArithmetic F] [DecimalArithmetic F]

/-- What a key is read as: a zoom that is not below zero. -/
structure IsZoomOf (key : Json F) (zoom : Number F) : Prop where
  notBelow : zoom.AtLeast 0
  plain : ¬key.IsFractional → IsPlain zoom
  fractional : key.IsFractional → ∃ value, zoom = .real value
  finite : key.InRange → ∃ exact, zoom.rational? = some exact

omit [DecimalArithmetic F] in
theorem isZoomOf_of_plain {key : Json F} {zoom : Number F} (notFractional : ¬key.IsFractional)
    (notBelow : zoom.AtLeast 0) (plain : IsPlain zoom) : IsZoomOf key zoom where
  notBelow := notBelow
  plain _ := plain
  fractional isFractional := absurd isFractional notFractional
  finite _ := plain.finite

omit [DecimalArithmetic F] in
theorem zoom_of_numberKey {value : Number F} :
    Ensures (fun found => ∀ zoom ∈ found, zoom.AtLeast 0 ∧ IsPlain zoom) (numberKey value) := by
  unfold numberKey
  split_ifs with isFlag
  · simp
  refine Ensures.bind fun finite isFinite => ?_
  split_ifs with dropped
  · simp
  simp only [Bool.or_eq_true, Bool.not_eq_true', not_or, Bool.not_eq_false] at dropped
  obtain ⟨isTrue, notBelow⟩ := dropped
  rw [isTrue] at isFinite
  obtain ⟨exact, isExact⟩ := Number.exists_rational?_of_isFinite isFinite
  rw [Number.lt_of_finite isExact (rfl : (0 : Number F).rational? = some ((0 : Int) : Rat))]
    at notBelow
  have above : 0 ≤ exact := by simpa using notBelow
  split
  · rename_i whole isWhole
    have same := (Number.rational?_of_whole? isWhole).symm.trans isExact
    cases same
    simp only [Ensures.ok_iff, Option.mem_def, Option.some.injEq, forall_eq']
    exact ⟨⟨_, rfl, Place.ofRat_le_ofRat.mpr above⟩, isPlain_int whole⟩
  · rename_i notWhole
    simp only [Ensures.ok_iff, Option.mem_def, Option.some.injEq, forall_eq']
    refine ⟨⟨_, Number.place?_of_rational? isExact, Place.ofRat_le_ofRat.mpr above⟩, ?_, ?_⟩
    · exact ⟨exact, isExact⟩
    · intro whole isWhole
      rw [notWhole] at isWhole
      cases isWhole

/-- A fraction makes a decimal, which is finite if it has few digits before the point. -/
theorem zoom_of_fraction {text : String} {whole fraction : List Char}
    (isSplit : splitKey? (Text.strip text) = some (whole, some fraction)) :
    IsZoomOf (.text text) (.real (Json.decimalValue false
      (Text.digitsValue (whole ++ fraction)) (-(fraction.length : Int))) : Number F) := by
  have notEmpty : 0 < fraction.length := List.length_pos_iff.mpr (fraction_ne_nil isSplit)
  have isNegative : decide (-(fraction.length : Int) < 0) = true := decide_eq_true (by omega)
  have isFractional : (Json.text text : Json F).IsFractional := ⟨_, _, _, rfl, isSplit⟩
  unfold Json.decimalValue
  rw [isNegative, Int.natAbs_neg, Int.natAbs_natCast, if_neg (by decide)]
  refine ⟨DecimalArithmetic.notBelow _ _, ?_, fun _ => ⟨_, rfl⟩, ?_⟩
  · intro notFractional
    exact absurd isFractional notFractional
  · intro inRange
    have few := inRange text whole fraction rfl isSplit
    have below : Text.digitsValue (whole ++ fraction) ≤
        2 ^ largestPower * 10 ^ fraction.length := by
      calc Text.digitsValue (whole ++ fraction)
          ≤ 10 ^ (whole ++ fraction).length := (digitsValue_lt _).le
        _ = 10 ^ whole.length * 10 ^ fraction.length := by rw [List.length_append, pow_add]
        _ ≤ 10 ^ rangeDigits * 10 ^ fraction.length := by
            gcongr
            decide
        _ ≤ 2 ^ largestPower * 10 ^ fraction.length :=
            Nat.mul_le_mul_right _ (by decide +kernel)
    obtain ⟨value, isPlace, _⟩ :=
      DecimalArithmetic.notAbove (F := F) _ _ _ le_rfl below
    exact ⟨value, (OrderedArithmetic.rational?_eq_some_iff _ _).mpr isPlace⟩

theorem zoom_of_textKey {text : String} :
    Ensures (fun found => ∀ zoom ∈ found, IsZoomOf (.text text) zoom) (textKey (F := F) text) := by
  unfold textKey
  split
  · rename_i whole isSplit
    split_ifs
    · simp
    · simp only [Ensures.ok_iff, Option.mem_def, Option.some.injEq, forall_eq']
      refine isZoomOf_of_plain ?_ ?_ (isPlain_int _)
      · rintro ⟨_, _, _, same, isFraction⟩
        cases same
        cases isSplit.symm.trans isFraction
      · exact ⟨_, rfl, Place.ofRat_le_ofRat.mpr (by exact_mod_cast Nat.zero_le _)⟩
  · rename_i whole fraction isSplit
    simp only [Ensures.ok_iff, Option.mem_def, Option.some.injEq, forall_eq']
    exact zoom_of_fraction isSplit
  · simp

/-- A key names a zoom that is not below zero, or none. -/
theorem zoom_of_parseKey {key : Json F} :
    Ensures (fun found => ∀ zoom ∈ found, IsZoomOf key zoom) (parseKey key) := by
  cases key with
  | number value =>
      refine zoom_of_numberKey.mono fun found each zoom isZoom => ?_
      refine isZoomOf_of_plain ?_ (each zoom isZoom).1 (each zoom isZoom).2
      rintro ⟨_, _, _, impossible, _⟩
      cases impossible
  | text value => exact zoom_of_textKey
  | _ => simp [parseKey]

end Zooms

end Zoom

end MapStyle
