import Mathlib.Algebra.Order.Group.MinMax
import Mathlib.Tactic.Ring
import MapStyle.Colour.Ramp
import MapStyle.Proofs.Number.Exact

/-!
# Channels around the wheel of hues

Over exact arithmetic a channel takes a share of its range that depends on the hue alone. The share
rises through one sixth of the turn, is full for two, falls through one and is nothing for the last
two. Red, green and blue lie a third of a turn apart, so that at every hue one of them has nothing
and one of them has all.
-/

namespace MapStyle.Colour

set_option autoImplicit false

/-! ### One channel -/

/-- What the first turn gives a channel, and nothing on either side of it. -/
def turnShare (turn : Rat) : Rat :=
  max 0 (min 1 (min (6 * turn) (4 - 6 * turn)))

/-- The share of a channel, for turns that lie no more than one turn beside the first. -/
def wheelShare (turn : Rat) : Rat :=
  turnShare (turn - 1) + turnShare turn + turnShare (turn + 1)

section Channel

variable {turn : Rat}

theorem turnShare_before (notAfter : turn ≤ 0) : turnShare turn = 0 :=
  max_eq_left ((min_le_right _ _).trans ((min_le_left _ _).trans (by linarith)))

theorem turnShare_rising (notBefore : 0 ≤ turn) (notAfter : turn ≤ 1 / 6) :
    turnShare turn = 6 * turn := by
  unfold turnShare
  rw [min_eq_left (by linarith : 6 * turn ≤ 4 - 6 * turn), min_eq_right (by linarith),
    max_eq_right (by linarith)]

theorem turnShare_full (notBefore : 1 / 6 ≤ turn) (notAfter : turn ≤ 1 / 2) :
    turnShare turn = 1 := by
  unfold turnShare
  rw [min_eq_left (le_min (by linarith) (by linarith)), max_eq_right zero_le_one]

theorem turnShare_falling (notBefore : 1 / 2 ≤ turn) (notAfter : turn ≤ 2 / 3) :
    turnShare turn = 4 - 6 * turn := by
  unfold turnShare
  rw [min_eq_right (by linarith : 4 - 6 * turn ≤ 6 * turn), min_eq_right (by linarith),
    max_eq_right (by linarith)]

theorem turnShare_after (notBefore : 2 / 3 ≤ turn) : turnShare turn = 0 :=
  max_eq_left ((min_le_right _ _).trans ((min_le_right _ _).trans (by linarith)))

theorem wheelShare_first (notBefore : 0 ≤ turn) (notAfter : turn ≤ 1) :
    wheelShare turn = turnShare turn := by
  rw [wheelShare, turnShare_before (by linarith : turn - 1 ≤ 0),
    turnShare_after (by linarith : 2 / 3 ≤ turn + 1), zero_add, add_zero]

theorem wheelShare_before (notAfter : turn ≤ 0) :
    wheelShare turn = turnShare (turn + 1) := by
  rw [wheelShare, turnShare_before (by linarith : turn - 1 ≤ 0), turnShare_before notAfter,
    zero_add, zero_add]

theorem wheelShare_behind (notBefore : 1 ≤ turn) : wheelShare turn = turnShare (turn - 1) := by
  rw [wheelShare, turnShare_after (by linarith : 2 / 3 ≤ turn),
    turnShare_after (by linarith : 2 / 3 ≤ turn + 1), add_zero, add_zero]

/-- A whole turn changes nothing. -/
theorem wheelShare_add_one (notBefore : -1 ≤ turn) (notAfter : turn ≤ 1) :
    wheelShare (turn + 1) = wheelShare turn := by
  obtain before | first := le_total turn 0
  · rw [wheelShare_first (by linarith) (by linarith), wheelShare_before before]
  · rw [wheelShare_behind (by linarith), wheelShare_first first notAfter, add_sub_cancel_right]

/-- A turn within one turn beside the first is a turn of the first. -/
theorem exists_first (notBefore : -1 ≤ turn) (notAfter : turn ≤ 2) :
    ∃ place, 0 ≤ place ∧ place ≤ 1 ∧ wheelShare turn = turnShare place := by
  obtain before | first := le_total turn 0
  · exact ⟨turn + 1, by linarith, by linarith, wheelShare_before before⟩
  obtain within | behind := le_total turn 1
  · exact ⟨turn, first, within, wheelShare_first first within⟩
  · exact ⟨turn - 1, by linarith, by linarith, wheelShare_behind behind⟩

theorem turnShare_mem (turn : Rat) : 0 ≤ turnShare turn ∧ turnShare turn ≤ 1 :=
  ⟨le_max_left _ _, max_le zero_le_one (min_le_left _ _)⟩

theorem wheelShare_mem (notBefore : -1 ≤ turn) (notAfter : turn ≤ 2) :
    0 ≤ wheelShare turn ∧ wheelShare turn ≤ 1 := by
  obtain ⟨place, _, _, same⟩ := exists_first notBefore notAfter
  rw [same]
  exact turnShare_mem place

/-- On the first turn the four stretches of the channel are those of its share. -/
theorem hueToChannel_first (low high : Rat) (notBefore : 0 ≤ turn) (notAfter : turn ≤ 1) :
    hueToChannel low high turn = low + (high - low) * turnShare turn := by
  have stretches : hueToChannel low high turn =
      if turn < 1 / 6 then low + (high - low) * 6 * turn
      else if turn < 1 / 2 then high
      else if turn < 2 / 3 then low + (high - low) * (2 / 3 - turn) * 6
      else low := by
    norm_num [hueToChannel, Exact.lt_eq_decide, notBefore.not_gt, notAfter.not_gt]
  rw [stretches]
  split_ifs with rising full falling
  · rw [turnShare_rising notBefore rising.le]
    ring
  · rw [turnShare_full (not_lt.mp rising) full.le]
    ring
  · rw [turnShare_falling (not_lt.mp full) falling.le]
    ring
  · rw [turnShare_after (not_lt.mp falling)]
    ring

theorem hueToChannel_before (low high : Rat) (notBefore : -1 ≤ turn) (before : turn < 0) :
    hueToChannel low high turn = hueToChannel low high (turn + 1) := by
  norm_num [hueToChannel, Exact.lt_eq_decide, before, before.not_gt,
    not_lt.mpr (by linarith : 0 ≤ turn + 1)]

theorem hueToChannel_behind (low high : Rat) (behind : 1 < turn) (notAfter : turn ≤ 2) :
    hueToChannel low high turn = hueToChannel low high (turn - 1) := by
  norm_num [hueToChannel, Exact.lt_eq_decide, behind, not_lt.mpr (by linarith : 0 ≤ turn),
    not_lt.mpr (by linarith : turn - 1 ≤ 1), behind.not_gt]

/-- A channel has its share of the range. -/
theorem hueToChannel_eq (low high : Rat) (notBefore : -1 ≤ turn) (notAfter : turn ≤ 2) :
    hueToChannel low high turn = low + (high - low) * wheelShare turn := by
  obtain before | first := lt_or_ge turn 0
  · rw [hueToChannel_before low high notBefore before, wheelShare_before before.le]
    exact hueToChannel_first low high (by linarith) (by linarith)
  obtain within | behind := le_or_gt turn 1
  · rw [wheelShare_first first within]
    exact hueToChannel_first low high first within
  · rw [hueToChannel_behind low high behind notAfter, wheelShare_behind behind.le]
    exact hueToChannel_first low high (by linarith) (by linarith)

end Channel

/-! ### All three channels -/

/-- The shares of red, green and blue at a hue: red is a third of the turn ahead of green, and blue
as far behind. -/
structure SharesAt (turn red green blue : Rat) : Prop where
  red : wheelShare (turn + 1 / 3) = red
  green : wheelShare turn = green
  blue : wheelShare (turn - 1 / 3) = blue

section Shares

variable {turn share red green blue : Rat}

/-- A third of the turn further on each channel has what the one before it had. -/
theorem SharesAt.rotate (shares : SharesAt turn red green blue) (notBefore : 0 ≤ turn)
    (notAfter : turn ≤ 2 / 3) : SharesAt (turn + 1 / 3) blue red green where
  red := by
    have isBehind : turn + 1 / 3 + 1 / 3 = turn - 1 / 3 + 1 := by ring
    rw [isBehind, wheelShare_add_one (by linarith) (by linarith), shares.blue]
  green := shares.red
  blue := by rw [add_sub_cancel_right, shares.green]

/-- A whole turn further on the shares are the same. -/
theorem shares_add_one (notBefore : -2 / 3 ≤ turn) (notAfter : turn ≤ 2 / 3) :
    SharesAt (turn + 1) red green blue ↔ SharesAt turn red green blue := by
  have same {place : Rat} (first : -1 ≤ place) (last : place ≤ 1) :
      wheelShare (place + 1) = wheelShare place :=
    wheelShare_add_one first last
  have further : turn + 1 + 1 / 3 = turn + 1 / 3 + 1 := by ring
  have back : turn + 1 - 1 / 3 = turn - 1 / 3 + 1 := by ring
  constructor
  · rintro ⟨isRed, isGreen, isBlue⟩
    rw [further, same (by linarith) (by linarith)] at isRed
    rw [same (by linarith) (by linarith)] at isGreen
    rw [back, same (by linarith) (by linarith)] at isBlue
    exact ⟨isRed, isGreen, isBlue⟩
  · rintro ⟨isRed, isGreen, isBlue⟩
    rw [← same (by linarith) (by linarith), ← further] at isRed
    rw [← same (by linarith) (by linarith)] at isGreen
    rw [← same (by linarith) (by linarith), ← back] at isBlue
    exact ⟨isRed, isGreen, isBlue⟩

/-- From red on green rises. -/
theorem sharesAt_rising (notBelow : 0 ≤ share) (notAbove : share ≤ 1) :
    SharesAt (share / 6) 1 share 0 where
  red := by
    rw [wheelShare_first (by linarith) (by linarith),
      turnShare_full (by linarith) (by linarith)]
  green := by
    rw [wheelShare_first (by linarith) (by linarith),
      turnShare_rising (by linarith) (by linarith)]
    ring
  blue := by
    rw [wheelShare_before (by linarith), turnShare_after (by linarith)]

/-- Up to green red falls. -/
theorem sharesAt_falling (notBelow : 0 ≤ share) (notAbove : share ≤ 1) :
    SharesAt (1 / 3 - share / 6) share 1 0 where
  red := by
    rw [wheelShare_first (by linarith) (by linarith),
      turnShare_falling (by linarith) (by linarith)]
    ring
  green := by
    rw [wheelShare_first (by linarith) (by linarith),
      turnShare_full (by linarith) (by linarith)]
  blue := by
    rw [wheelShare_before (by linarith), turnShare_after (by linarith)]

/-- One channel has all, and one has nothing. -/
def FullSpread (red green blue : Rat) : Prop :=
  max (max red green) blue = 1 ∧ min (min red green) blue = 0

theorem FullSpread.rotate (spread : FullSpread red green blue) : FullSpread blue red green := by
  obtain ⟨all, nothing⟩ := spread
  exact ⟨by rw [max_assoc, max_comm, all], by rw [min_assoc, min_comm, nothing]⟩

/-- Between red and green blue has nothing, and one of the two has all. -/
theorem exists_sharesAt_third (notBefore : 0 ≤ turn) (notAfter : turn ≤ 1 / 3) :
    ∃ red green, SharesAt turn red green 0 ∧ FullSpread red green 0 := by
  obtain rising | falling := le_total turn (1 / 6)
  · have place : 6 * turn / 6 = turn := by ring
    have shares : SharesAt (6 * turn / 6) 1 (6 * turn) 0 :=
      sharesAt_rising (by linarith) (by linarith)
    rw [place] at shares
    refine ⟨1, 6 * turn, shares, ?_, ?_⟩
    · rw [max_eq_left (by linarith : 6 * turn ≤ 1), max_eq_left zero_le_one]
    · rw [min_eq_right (by linarith : 6 * turn ≤ 1), min_eq_right (by linarith)]
  · have place : 1 / 3 - (2 - 6 * turn) / 6 = turn := by ring
    have shares : SharesAt (1 / 3 - (2 - 6 * turn) / 6) (2 - 6 * turn) 1 0 :=
      sharesAt_falling (by linarith) (by linarith)
    rw [place] at shares
    refine ⟨2 - 6 * turn, 1, shares, ?_, ?_⟩
    · rw [max_eq_right (by linarith : 2 - 6 * turn ≤ 1), max_eq_left zero_le_one]
    · rw [min_eq_left (by linarith : 2 - 6 * turn ≤ 1), min_eq_right (by linarith)]

theorem exists_sharesAt_first (notBefore : 0 ≤ turn) (notAfter : turn ≤ 1) :
    ∃ red green blue, SharesAt turn red green blue ∧ FullSpread red green blue := by
  obtain first | further := le_total turn (1 / 3)
  · obtain ⟨red, green, shares, spread⟩ := exists_sharesAt_third notBefore first
    exact ⟨red, green, 0, shares, spread⟩
  obtain second | last := le_total turn (2 / 3)
  · obtain ⟨red, green, shares, spread⟩ :=
      exists_sharesAt_third (by linarith : 0 ≤ turn - 1 / 3) (by linarith)
    have place : turn - 1 / 3 + 1 / 3 = turn := by ring
    exact ⟨0, red, green, place ▸ shares.rotate (by linarith) (by linarith), spread.rotate⟩
  · obtain ⟨red, green, shares, spread⟩ :=
      exists_sharesAt_third (by linarith : 0 ≤ turn - 2 / 3) (by linarith)
    have place : turn - 2 / 3 + 1 / 3 + 1 / 3 = turn := by ring
    have rotated := (shares.rotate (by linarith) (by linarith)).rotate (by linarith) (by linarith)
    exact ⟨green, 0, red, place ▸ rotated, spread.rotate.rotate⟩

/-- At every hue one channel has all, and one has nothing. -/
theorem exists_sharesAt (notBefore : -2 / 3 ≤ turn) (notAfter : turn ≤ 5 / 3) :
    ∃ red green blue, SharesAt turn red green blue ∧ FullSpread red green blue := by
  obtain before | first := lt_or_ge turn 0
  · obtain ⟨red, green, blue, shares, spread⟩ :=
      exists_sharesAt_first (by linarith : 0 ≤ turn + 1) (by linarith)
    exact ⟨red, green, blue, (shares_add_one (by linarith) (by linarith)).mp shares, spread⟩
  obtain within | behind := le_or_gt turn 1
  · exact exists_sharesAt_first first within
  · obtain ⟨red, green, blue, shares, spread⟩ :=
      exists_sharesAt_first (by linarith : 0 ≤ turn - 1) (by linarith)
    have next := (shares_add_one (by linarith) (by linarith)).mpr shares
    rw [sub_add_cancel] at next
    exact ⟨red, green, blue, next, spread⟩

end Shares

end MapStyle.Colour
