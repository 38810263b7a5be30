import MapStyle.Proofs.Expr.Shown
import MapStyle.Proofs.Number.Valued

/-!
# Curves that are compared

A renderer that mixes the values of the two stops around a zoom, in parts that do not depend on
these values. Of two curves of one shape over the same stops, the one whose values are nowhere below
those of the other is then nowhere shown below it.
-/

namespace MapStyle

set_option autoImplicit false

open Set (Icc)

variable {F : Type} [Arithmetic F] [ExactArithmetic F]

namespace Renderer

/-- Between two stops of a curve the values of both are mixed. In which parts depends on the shape
of the curve, on the zooms of the stops and on the input, but not on the values. -/
def Mixes (renderer : Renderer F) (shape : Expr F) : Prop :=
  ∀ low high input : Number F, input.le low = false → input.lt high = true →
    ∃ part ∈ Icc (0 : ℝ) 1, ∀ lower upper : Number F,
      ∃ number, renderer.between? shape (low, lower) (high, upper) input = some number ∧
        number.value = (1 - part) * lower.value + part * upper.value

/-- Two stops at one zoom, of which the value of the first is not above that of the second. -/
def StopNotAbove (stop other : Number F × Json F) : Prop :=
  stop.1 = other.1 ∧ ∃ value otherValue, stop.2 = .number value ∧ other.2 = .number otherValue ∧
    value.value ≤ otherValue.value

variable {renderer : Renderer F} {shape : Expr F} {stops others : List (Number F × Json F)}
  {input : Number F}

/-- Mixing in equal parts keeps an order. -/
theorem mixture_mono {lower upper otherLower otherUpper part : ℝ} (within : part ∈ Icc (0 : ℝ) 1)
    (lowerBelow : lower ≤ otherLower) (upperBelow : upper ≤ otherUpper) :
    (1 - part) * lower + part * upper ≤ (1 - part) * otherLower + part * otherUpper :=
  add_le_add (mul_le_mul_of_nonneg_left lowerBelow (sub_nonneg.mpr within.2))
    (mul_le_mul_of_nonneg_left upperBelow within.1)

/-- Along stops of which none is above the other one, no value is above the other one. -/
theorem Mixes.along_le (mixes : renderer.Mixes shape)
    (related : List.Forall₂ StopNotAbove stops others) (given : stops ≠ []) :
    ∃ value other, renderer.along shape input stops = some (.number value) ∧
      renderer.along shape input others = some (.number other) ∧ value.value ≤ other.value := by
  induction related with
  | nil => exact absurd rfl given
  | @cons stop other _ _ notAbove rest ih =>
      obtain ⟨key, value⟩ := stop
      obtain ⟨otherKey, otherValue⟩ := other
      obtain ⟨rfl, low, otherLow, rfl, rfl, lowBelow⟩ := notAbove
      cases rest with
      | nil => exact ⟨low, otherLow, rfl, rfl, lowBelow⟩
      | @cons next otherNext _ _ nextNotAbove more =>
          obtain ⟨nextKey, nextValue⟩ := next
          obtain ⟨otherNextKey, otherNextValue⟩ := otherNext
          obtain ⟨rfl, high, otherHigh, rfl, rfl, highBelow⟩ := nextNotAbove
          rw [along, along]
          cases notAfter : input.le key with
          | true => exact ⟨low, otherLow, rfl, rfl, lowBelow⟩
          | false =>
              cases before : input.lt nextKey with
              | true =>
                  obtain ⟨part, within, mixed⟩ := mixes key nextKey input notAfter before
                  obtain ⟨number, found, isMixture⟩ := mixed low high
                  obtain ⟨otherNumber, otherFound, otherMixture⟩ := mixed otherLow otherHigh
                  refine ⟨number, otherNumber, ?_, ?_, ?_⟩
                  · simp [Json.number?, found]
                  · simp [Json.number?, otherFound]
                  · rw [isMixture, otherMixture]
                    exact mixture_mono within lowBelow highBelow
              | false => exact ih (by simp)

/-! ### A renderer that mixes -/

/-- The part that is taken of the upper one of two stops: that of the way between them, for an
exponential curve with every step twice as long as the one before. -/
def partAt (shape : Expr Rat) (low high input : Rat) : Rat :=
  let part :=
    match shape with
    | .op "exponential" _ => (Exact.power (input - low) - 1) / (Exact.power (high - low) - 1)
    | _ => (input - low) / (high - low)
  max 0 (min 1 part)

def blending : Renderer Rat where
  between? shape lower upper input :=
    let part := partAt shape lower.1.exact upper.1.exact input.exact
    some (.real ((1 - part) * lower.2.exact + part * upper.2.exact))
  compute? _ _ := none

theorem mixes_blending (shape : Expr Rat) : blending.Mixes shape := by
  intro low high input _ _
  have notNegative : 0 ≤ partAt shape low.exact high.exact input.exact := le_max_left _ _
  have atMostOne : partAt shape low.exact high.exact input.exact ≤ 1 :=
    max_le zero_le_one (min_le_left _ _)
  refine ⟨partAt shape low.exact high.exact input.exact,
    ⟨by exact_mod_cast notNegative, by exact_mod_cast atMostOne⟩, fun lower upper => ?_⟩
  refine ⟨_, rfl, ?_⟩
  simp [Number.value_rat]

end Renderer

namespace Expr

/-- Two stops at one zoom, both shown as numbers, of which the first is not above the second. -/
def ShownNotAbove (renderer : Renderer F) (scene : Scene F) (stop other : Expr F × Expr F) : Prop :=
  ∃ key value otherValue, stop.1 = .number key ∧ other.1 = .number key ∧
    stop.2.shown renderer scene = some (.number value) ∧
    other.2.shown renderer scene = some (.number otherValue) ∧ value.value ≤ otherValue.value

variable {renderer : Renderer F} {scene : Scene F} {shape input : Expr F} {found : Number F}
  {stops others : List (Expr F × Expr F)}

theorem exists_stopsNotAbove (related : List.Forall₂ (ShownNotAbove renderer scene) stops others) :
    ∃ values otherValues, ShowPairs renderer scene stops values ∧
      ShowPairs renderer scene others otherValues ∧
      List.Forall₂ Renderer.StopNotAbove values otherValues := by
  induction related with
  | nil => exact ⟨[], [], .nil, .nil, .nil⟩
  | cons notAbove _ ih =>
      obtain ⟨key, value, otherValue, isKey, isOtherKey, shown, otherShown, below⟩ := notAbove
      obtain ⟨values, otherValues, pairs, otherPairs, rest⟩ := ih
      exact ⟨(key, .number value) :: values, (key, .number otherValue) :: otherValues,
        .cons ⟨isKey, shown⟩ pairs, .cons ⟨isOtherKey, otherShown⟩ otherPairs,
        .cons ⟨rfl, value, otherValue, rfl, rfl, below⟩ rest⟩

/-- A curve is nowhere shown above another one if none of its stops is. -/
theorem curveNode_shown_le (mixes : renderer.Mixes shape)
    (inputShown : input.shown renderer scene = some (.number found))
    (related : List.Forall₂ (ShownNotAbove renderer scene) stops others) (given : stops ≠ []) :
    ∃ value other, (curveNode shape input stops).shown renderer scene = some (.number value) ∧
      (curveNode shape input others).shown renderer scene = some (.number other) ∧
      value.value ≤ other.value := by
  obtain ⟨values, otherValues, pairs, otherPairs, notAbove⟩ := exists_stopsNotAbove related
  have valuesGiven : values ≠ [] := by
    rintro rfl
    cases pairs
    exact given rfl
  rw [shown_curveNode inputShown pairs, shown_curveNode inputShown otherPairs]
  exact mixes.along_le notAbove valuesGiven

end Expr

end MapStyle
