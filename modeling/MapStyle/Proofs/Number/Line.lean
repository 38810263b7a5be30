import Mathlib.Algebra.Order.Field.Rat
import Mathlib.Order.Interval.Set.Defs
import Mathlib.Tactic.Ring

/-!
# Straight lines from point to point

A value that runs straight from one point to the next and is held beyond both ends. It passes
through each of its points, never leaves the range of their values, and does not change where a
point is left out that its neighbours already hold.
-/

namespace MapStyle

set_option autoImplicit false

open Set (Icc)

/-- A value at a zoom. -/
abbrev Point := Rat × Rat

namespace Point

/-- The value at a zoom on the straight line through two points. -/
def between (lower upper : Point) (zoom : Rat) : Rat :=
  lower.2 + (upper.2 - lower.2) * ((zoom - lower.1) / (upper.1 - lower.1))

/-- The value at a zoom on straight lines from point to point. -/
def along : List Point → Rat → Option Rat
  | [], _ => none
  | [last], _ => some last.2
  | lower :: upper :: rest, zoom =>
      if zoom ≤ lower.1 then some lower.2
      else if zoom < upper.1 then some (between lower upper zoom)
      else along (upper :: rest) zoom

/-- Points at strictly ascending zooms. -/
def Rising (points : List Point) : Prop :=
  points.Pairwise fun lower upper => lower.1 < upper.1

variable {first second point : Point} {points rest : List Point} {zoom least largest : Rat}

/-! ### Between two points -/

theorem between_lower : between first second first.1 = first.2 := by
  rw [between, sub_self, zero_div, mul_zero, add_zero]

theorem between_upper (apart : first.1 < second.1) :
    between first second second.1 = second.2 := by
  rw [between, div_self (sub_pos.mpr apart).ne', mul_one, add_sub_cancel]

theorem between_level (level : first.2 = second.2) : between first second zoom = second.2 := by
  rw [between, level, sub_self, zero_mul, add_zero]

/-- A mixture of two values lies between any bounds of both. -/
theorem mixture_mem {low high part : Rat} (lowWithin : low ∈ Icc least largest)
    (highWithin : high ∈ Icc least largest) (notNegative : 0 ≤ part) (atMostOne : part ≤ 1) :
    low + (high - low) * part ∈ Icc least largest := by
  have rest : 0 ≤ 1 - part := sub_nonneg.mpr atMostOne
  constructor
  · calc least = least * (1 - part) + least * part := by ring
      _ ≤ low * (1 - part) + high * part :=
        add_le_add (mul_le_mul_of_nonneg_right lowWithin.1 rest)
          (mul_le_mul_of_nonneg_right highWithin.1 notNegative)
      _ = low + (high - low) * part := by ring
  · calc low + (high - low) * part = low * (1 - part) + high * part := by ring
      _ ≤ largest * (1 - part) + largest * part :=
        add_le_add (mul_le_mul_of_nonneg_right lowWithin.2 rest)
          (mul_le_mul_of_nonneg_right highWithin.2 notNegative)
      _ = largest := by ring

theorem between_mem (reached : first.1 < zoom) (before : zoom < second.1)
    (firstWithin : first.2 ∈ Icc least largest) (secondWithin : second.2 ∈ Icc least largest) :
    between first second zoom ∈ Icc least largest := by
  have way : 0 ≤ zoom - first.1 := (sub_pos.mpr reached).le
  have whole : 0 < second.1 - first.1 := sub_pos.mpr (reached.trans before)
  have notLonger : zoom - first.1 ≤ second.1 - first.1 := sub_le_sub_right before.le first.1
  exact mixture_mem firstWithin secondWithin (div_nonneg way whole.le)
    ((div_le_one₀ whole).mpr notLonger)

/-! ### Along several points -/

theorem along_of_le_first (notAfter : zoom ≤ first.1) :
    along (first :: rest) zoom = some first.2 := by
  cases rest with
  | nil => rfl
  | cons second others => rw [along, if_pos notAfter]

theorem along_of_passed (passed : second.1 ≤ zoom) (apart : first.1 < second.1) :
    along (first :: second :: rest) zoom = along (second :: rest) zoom := by
  rw [along, if_neg (not_le.mpr (apart.trans_le passed)), if_neg (not_lt.mpr passed)]

/-- Between the first two points the value runs straight, up to both ends. -/
theorem along_first (apart : first.1 < second.1) (reached : first.1 ≤ zoom)
    (notAfter : zoom ≤ second.1) :
    along (first :: second :: rest) zoom = some (between first second zoom) := by
  obtain rfl | after := eq_or_lt_of_le reached
  · rw [along_of_le_first le_rfl, between_lower]
  obtain before | atSecond := lt_or_eq_of_le notAfter
  · rw [along, if_neg (not_le.mpr after), if_pos before]
  · rw [along_of_passed atSecond.ge apart, along_of_le_first notAfter, atSecond,
      between_upper apart]

/-- A first stretch on which the value stays the same may be left out. -/
theorem along_level (apart : first.1 < second.1) (level : first.2 = second.2) :
    along (first :: second :: rest) zoom = along (second :: rest) zoom := by
  rw [along]
  split
  · rename_i notAfter
    rw [level, along_of_le_first (notAfter.trans apart.le)]
  · split
    · rename_i before
      rw [between_level level, along_of_le_first before.le]
    · rfl

/-- The last value is held. -/
theorem along_of_last_le (rising : Rising (first :: rest))
    (reached : (rest.getLastD first).1 ≤ zoom) :
    along (first :: rest) zoom = some (rest.getLastD first).2 := by
  induction rest generalizing first with
  | nil => rfl
  | cons second others ih =>
      obtain ⟨above, othersRising⟩ := List.pairwise_cons.mp rising
      rw [List.getLastD_cons] at reached ⊢
      have apart : first.1 < second.1 := above second List.mem_cons_self
      have secondReached : second.1 ≤ zoom := by
        obtain isSecond | inOthers := List.mem_cons.mp (List.getLastD_mem_cons : _ ∈ second :: others)
        · rw [isSecond] at reached
          exact reached
        · exact ((List.pairwise_cons.mp othersRising).1 _ inOthers).le.trans reached
      rw [along_of_passed secondReached apart]
      exact ih othersRising reached

/-- The value passes through every point. -/
theorem along_self (rising : Rising points) (member : point ∈ points) :
    along points point.1 = some point.2 := by
  induction points with
  | nil => cases member
  | cons first rest ih =>
      obtain ⟨above, restRising⟩ := List.pairwise_cons.mp rising
      obtain rfl | inRest := List.mem_cons.mp member
      · exact along_of_le_first le_rfl
      · cases rest with
        | nil => cases inRest
        | cons second others =>
            have secondReached : second.1 ≤ point.1 := by
              obtain rfl | inOthers := List.mem_cons.mp inRest
              · exact le_rfl
              · exact ((List.pairwise_cons.mp restRising).1 point inOthers).le
            rw [along_of_passed secondReached (above second List.mem_cons_self)]
            exact ih restRising inRest

/-- There is a value wherever there is a point, and none leaves the range of the points. -/
theorem along_mem (given : points ≠ []) (each : ∀ point ∈ points, point.2 ∈ Icc least largest) :
    ∃ value, along points zoom = some value ∧ value ∈ Icc least largest := by
  induction points with
  | nil => exact absurd rfl given
  | cons first rest ih =>
      obtain ⟨firstWithin, restWithin⟩ := List.forall_mem_cons.mp each
      cases rest with
      | nil => exact ⟨first.2, rfl, firstWithin⟩
      | cons second others =>
          have secondWithin := restWithin second List.mem_cons_self
          rw [along]
          split
          · exact ⟨first.2, rfl, firstWithin⟩
          · rename_i after
            split
            · rename_i before
              exact ⟨_, rfl, between_mem (not_le.mp after) before firstWithin secondWithin⟩
            · exact ih (by simp) restWithin

end Point

end MapStyle
