import Mathlib.Algebra.Order.Field.Power
import Mathlib.Tactic.FieldSimp
import Mathlib.Tactic.Ring
import MapStyle.Proofs.Expr.Shown
import MapStyle.Proofs.Number.Exact

/-!
# Curves with base two, exactly

At integer zooms a curve with base two has rational values: from stop to stop they follow the
powers of two, and they are held beyond the ends. Such a curve hits each of its stops, depends on
the stops around a zoom only, and does not fall where its stops do not.
-/

namespace MapStyle

set_option autoImplicit false

/-- A value at an integer zoom. -/
abbrev Level := Int × Rat

namespace Level

/-- Which part of a way has been made if every step is twice as long as the one before. -/
def powerPart (way whole : Int) : Rat :=
  (2 ^ way - 1) / (2 ^ whole - 1)

theorem powerPart_zero (whole : Int) : powerPart 0 whole = 0 := by
  simp [powerPart]

theorem one_lt_power {whole : Int} (positive : 0 < whole) : (1 : Rat) < 2 ^ whole :=
  one_lt_zpow₀ (by norm_num) positive

theorem powerPart_self {whole : Int} (positive : 0 < whole) : powerPart whole whole = 1 :=
  div_self (sub_ne_zero_of_ne (one_lt_power positive).ne')

theorem powerPart_mono {whole earlier later : Int} (positive : 0 < whole)
    (notLater : earlier ≤ later) : powerPart earlier whole ≤ powerPart later whole := by
  have denominator : (0 : Rat) < 2 ^ whole - 1 := sub_pos.mpr (one_lt_power positive)
  have powers : (2 : Rat) ^ earlier ≤ 2 ^ later := zpow_le_zpow_right₀ (by norm_num) notLater
  exact div_le_div_of_nonneg_right (sub_le_sub_right powers 1) denominator.le

/-- The value at a zoom between two levels. -/
def eased (lower upper : Level) (zoom : Int) : Rat :=
  lower.2 + (upper.2 - lower.2) * powerPart (zoom - lower.1) (upper.1 - lower.1)

variable {lower upper : Level} {zoom earlier later : Int}

theorem eased_lower : eased lower upper lower.1 = lower.2 := by
  rw [eased, sub_self, powerPart_zero, mul_zero, add_zero]

theorem eased_upper (apart : lower.1 < upper.1) : eased lower upper upper.1 = upper.2 := by
  rw [eased, powerPart_self (sub_pos.mpr apart), mul_one, add_sub_cancel]

theorem eased_mono (apart : lower.1 < upper.1) (grows : lower.2 ≤ upper.2)
    (notLater : earlier ≤ later) : eased lower upper earlier ≤ eased lower upper later := by
  have parts := powerPart_mono (sub_pos.mpr apart) (sub_le_sub_right notLater lower.1)
  have growth : 0 ≤ upper.2 - lower.2 := sub_nonneg.mpr grows
  exact add_le_add_right (mul_le_mul_of_nonneg_left parts growth) lower.2

/-- Between a level and what has become of it by doubling, the value doubles with every zoom. -/
theorem eased_doubling {first last : Int} {value : Rat} (apart : first < last) :
    eased (first, value) (last, value * 2 ^ (last - first)) zoom = value * 2 ^ (zoom - first) := by
  have nonzero : (2 : Rat) ^ (last - first) - 1 ≠ 0 :=
    sub_ne_zero_of_ne (one_lt_power (sub_pos.mpr apart)).ne'
  simp only [eased, powerPart]
  field_simp
  ring

/-! ### Several levels -/

/-- The value at a zoom, held before the first level and after the last one. -/
def along : List Level → Int → Rat
  | [], _ => 0
  | [last], _ => last.2
  | lower :: upper :: rest, zoom =>
      if zoom ≤ lower.1 then lower.2
      else if zoom < upper.1 then eased lower upper zoom
      else along (upper :: rest) zoom

def Rising (levels : List Level) : Prop :=
  levels.Pairwise fun lower upper => lower.1 < upper.1

def Growing (levels : List Level) : Prop :=
  levels.Pairwise fun lower upper => lower.2 ≤ upper.2

variable {first : Level} {rest before levels : List Level}

/-- What comes before a level does not matter from it on. -/
theorem along_append (rising : Rising (before ++ first :: rest)) (reached : first.1 ≤ zoom) :
    along (before ++ first :: rest) zoom = along (first :: rest) zoom := by
  induction before with
  | nil => rfl
  | cons level others ih =>
      obtain ⟨above, othersRising⟩ := List.pairwise_cons.mp rising
      rw [← ih othersRising]
      have belowFirst := above first (List.mem_append_right others List.mem_cons_self)
      cases others with
      | nil =>
          show along (level :: first :: rest) zoom = _
          rw [along, if_neg (by omega), if_neg (by omega)]
          rfl
      | cons next more =>
          have nextBelow : next.1 < first.1 :=
            (List.pairwise_cons.mp othersRising).1 first
              (List.mem_append_right more List.mem_cons_self)
          show along (level :: next :: (more ++ first :: rest)) zoom = _
          rw [along, if_neg (by omega), if_neg (by omega)]
          rfl

theorem along_of_le_first (notAfter : zoom ≤ first.1) : along (first :: rest) zoom = first.2 := by
  cases rest with
  | nil => rfl
  | cons next others => rw [along, if_pos notAfter]

/-- No value lies below the first one. -/
theorem first_le_along (rising : Rising (first :: rest)) (growing : Growing (first :: rest)) :
    first.2 ≤ along (first :: rest) zoom := by
  induction rest generalizing first with
  | nil => exact le_refl first.2
  | cons next others ih =>
      obtain ⟨above, othersRising⟩ := List.pairwise_cons.mp rising
      obtain ⟨atLeast, othersGrowing⟩ := List.pairwise_cons.mp growing
      have apart : first.1 < next.1 := above next List.mem_cons_self
      have grows : first.2 ≤ next.2 := atLeast next List.mem_cons_self
      rw [along]
      split
      · exact le_refl first.2
      · rename_i after
        split
        · calc first.2 = eased first next first.1 := eased_lower.symm
            _ ≤ eased first next zoom := eased_mono apart grows (by omega)
        · exact grows.trans (ih othersRising othersGrowing)

/-- Where the levels do not fall, no value falls. -/
theorem along_mono (rising : Rising levels) (growing : Growing levels)
    (notLater : earlier ≤ later) : along levels earlier ≤ along levels later := by
  induction levels with
  | nil => exact le_refl 0
  | cons first rest ih =>
      by_cases before : earlier ≤ first.1
      · rw [along_of_le_first before]
        exact first_le_along rising growing
      · cases rest with
        | nil => exact le_refl first.2
        | cons next others =>
            obtain ⟨above, othersRising⟩ := List.pairwise_cons.mp rising
            obtain ⟨atLeast, othersGrowing⟩ := List.pairwise_cons.mp growing
            have apart : first.1 < next.1 := above next List.mem_cons_self
            have grows : first.2 ≤ next.2 := atLeast next List.mem_cons_self
            have laterAfter : ¬ later ≤ first.1 := by omega
            rw [along, along, if_neg before, if_neg laterAfter]
            by_cases laterUnder : later < next.1
            · have earlierUnder : earlier < next.1 := by omega
              rw [if_pos earlierUnder, if_pos laterUnder]
              exact eased_mono apart grows notLater
            · rw [if_neg laterUnder]
              by_cases earlierUnder : earlier < next.1
              · rw [if_pos earlierUnder]
                calc eased first next earlier ≤ eased first next next.1 :=
                      eased_mono apart grows earlierUnder.le
                  _ = next.2 := eased_upper apart
                  _ ≤ along (next :: others) later := first_le_along othersRising othersGrowing
              · rw [if_neg earlierUnder]
                exact ih othersRising othersGrowing

end Level

/-! ### As rendered -/

/-- What is shown as a number of some value. -/
def Expr.ShownAs (renderer : Renderer Rat) (scene : Scene Rat) (expression : Expr Rat)
    (value : Rat) : Prop :=
  ∃ number, expression.shown renderer scene = some (.number number) ∧ number.exact = value

namespace Renderer

open Level (eased)

/-- A renderer that joins the stops of a curve with base two by the powers of two. -/
def EasesByPowers (renderer : Renderer Rat) : Prop :=
  ∀ (lower upper : Number Rat × Number Rat) (input : Number Rat) (low high zoom : Int),
    lower.1.exact = low → upper.1.exact = high → input.exact = zoom → low ≤ zoom → zoom < high →
    ∃ value, renderer.between? (.op "exponential" [2]) lower upper input = some value ∧
      value.exact = eased (low, lower.2.exact) (high, upper.2.exact) zoom

/-- A renderer over exact arithmetic. Powers are rational at integer steps only, so elsewhere it
shows no value of an exponential curve. -/
def exact : Renderer Rat where
  between? shape lower upper input :=
    let way := input.exact - lower.1.exact
    let whole := upper.1.exact - lower.1.exact
    let growth := upper.2.exact - lower.2.exact
    match shape with
    | .op "linear" [] => some (.real (lower.2.exact + growth * (way / whole)))
    | .op "exponential" [.number base] =>
        if way.den = 1 ∧ whole.den = 1 ∧ base.exact ≠ 1 then
          let part := (base.exact ^ way.num - 1) / (base.exact ^ whole.num - 1)
          some (.real (lower.2.exact + growth * part))
        else none
    | _ => none
  compute? _ _ := none

theorem easesByPowers_exact : exact.EasesByPowers := by
  intro lower upper input low high zoom lowZoom highZoom atZoom _ _
  have way : input.exact - lower.1.exact = ((zoom - low : Int) : Rat) := by
    rw [atZoom, lowZoom, Int.cast_sub]
  have whole : upper.1.exact - lower.1.exact = ((high - low : Int) : Rat) := by
    rw [highZoom, lowZoom, Int.cast_sub]
  refine ⟨.real (eased (low, lower.2.exact) (high, upper.2.exact) zoom), ?_, rfl⟩
  have noLine : (Number.int 2 : Number Rat).exact ≠ 1 := by decide
  show (if _ ∧ _ ∧ (Number.int 2 : Number Rat).exact ≠ 1 then _ else none) = _
  rw [way, whole, if_pos ⟨Rat.den_intCast _, Rat.den_intCast _, noLine⟩]
  rfl

/-- A stop of a curve with an integer zoom and a number as its value. -/
def IsLevel (stop : Number Rat × Json Rat) (level : Level) : Prop :=
  stop.1.exact = level.1 ∧ ∃ number, stop.2 = .number number ∧ number.exact = level.2

variable {renderer : Renderer Rat} {stops : List (Number Rat × Json Rat)} {levels : List Level}
  {input : Number Rat} {zoom : Int}

theorem along_eq_levels (eases : renderer.EasesByPowers) (atZoom : input.exact = zoom)
    (related : List.Forall₂ IsLevel stops levels) (given : levels ≠ []) :
    ∃ number, renderer.along (.op "exponential" [2]) input stops = some (.number number) ∧
      number.exact = Level.along levels zoom := by
  induction related with
  | nil => exact absurd rfl given
  | @cons stop level otherStops otherLevels isLevel others ih =>
      obtain ⟨stopZoom, number, isNumber, value⟩ := isLevel
      cases others with
      | nil => exact ⟨number, congrArg some isNumber, value⟩
      | @cons next nextLevel moreStops moreLevels nextIsLevel more =>
          obtain ⟨nextZoom, nextNumber, nextIsNumber, nextValue⟩ := nextIsLevel
          rw [Renderer.along, Level.along, Number.le_eq_decide, Number.lt_eq_decide, atZoom,
            stopZoom, nextZoom]
          simp only [decide_eq_true_eq, Int.cast_le, Int.cast_lt]
          by_cases notAfter : zoom ≤ level.1
          · rw [if_pos notAfter, if_pos notAfter]
            exact ⟨number, congrArg some isNumber, value⟩
          · rw [if_neg notAfter, if_neg notAfter]
            by_cases under : zoom < nextLevel.1
            · rw [if_pos under, if_pos under, isNumber, nextIsNumber]
              obtain ⟨between, found, betweenValue⟩ := eases (stop.1, number) (next.1, nextNumber)
                input level.1 nextLevel.1 zoom stopZoom nextZoom atZoom (by omega) under
              refine ⟨between, ?_, ?_⟩
              · simp [Json.number?, found]
              · rw [betweenValue, value, nextValue]
            · rw [if_neg under, if_neg under]
              exact ih (by simp)

end Renderer

end MapStyle
