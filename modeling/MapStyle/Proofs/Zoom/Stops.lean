import MapStyle.Proofs.Number.Line
import MapStyle.Proofs.Zoom.Key
import MapStyle.Proofs.Zoom.Merged

/-!
# Stops over exact arithmetic

A mapping with short textual keys always yields stops, in strictly ascending order, whatever its
keys and values are. Since neighbouring stops lie apart there is a value at any zoom, and it is the
one on the line from stop to stop.
-/

namespace MapStyle.Zoom

set_option autoImplicit false

/-! ### Order -/

/-- Stops at strictly ascending zooms. -/
def Rising (stops : Stops Rat) : Prop :=
  stops.Pairwise fun lower upper => lower.1.exact < upper.1.exact

theorem rising_iff_ascends {stops : Stops Rat} : Rising stops ↔ Ascends stops := by
  have apart_iff (lower upper : Number Rat × Number Rat) :
      lower.1.exact < upper.1.exact ↔ lower.1.lt upper.1 = true := by
    rw [Number.lt_eq_decide, decide_eq_true_eq]
  constructor
  · intro rising
    refine ⟨rising.imp fun {lower upper} => (apart_iff lower upper).mp, fun stop _ => ?_⟩
    exact ⟨_, Number.place?_exact stop.1⟩
  · intro ascends
    exact ascends.apart.imp fun {lower upper} => (apart_iff lower upper).mpr

theorem rising_setStop {zoom value : Number Rat} {stops : Stops Rat} (rising : Rising stops) :
    Rising (setStop zoom value stops) :=
  rising_iff_ascends.mpr ((rising_iff_ascends.mp rising).setStop (Number.place?_exact zoom))

theorem rising_foldl_setStop {stops own : Stops Rat} (rising : Rising stops) :
    Rising (own.foldl (fun merged stop => setStop stop.1 stop.2 merged) stops) := by
  induction own generalizing stops with
  | nil => exact rising
  | cons stop rest ih => exact ih (rising_setStop rising)

/-- Stops that were read ascend, whatever the texts among their keys are. -/
theorem ensures_normalize {stops : ZoomStops Rat} : Ensures Rising (normalize stops) := by
  refine Ensures.foldlM List.Pairwise.nil fun found entry rising => ?_
  refine Ensures.bind fun stop _ => ?_
  cases stop with
  | none => exact Ensures.ok_iff.mpr rising
  | some stop => exact Ensures.ok_iff.mpr (rising_setStop rising)

/-- All exact numbers fit. -/
theorem fits_rat (value : Json Rat) : value.Fits := by
  cases value with
  | number number => cases number <;> simp [Json.Fits, Number.Fits, Arithmetic.ofRat?]
  | _ => trivial

/-- The stops of a mapping exist and ascend. -/
theorem returns_normalize {stops : ZoomStops Rat} (short : ShortKeys stops) :
    Returns Rising (normalize stops) := by
  refine (succeeds_normalize_iff.mpr fun entry member => ?_).returns ensures_normalize
  exact ⟨readable_of_short (fits_rat entry.1) (short entry member), fun _ => fits_rat entry.2⟩

/-! ### Values -/

/-- A stop as a point. -/
def point (stop : Number Rat × Number Rat) : Point :=
  (stop.1.exact, stop.2.exact)

def points (stops : Stops Rat) : List Point :=
  stops.map point

theorem rising_points {stops : Stops Rat} (rising : Rising stops) : Point.Rising (points stops) :=
  List.pairwise_map.mpr rising

variable {first lower upper : Number Rat × Number Rat} {rest : Stops Rat} {zoom : Number Rat}

theorem returns_between (apart : lower.1.exact < upper.1.exact) :
    Returns (fun value => value.exact = Point.between (point lower) (point upper) zoom.exact)
      (between lower upper zoom) := by
  unfold between
  apply Number.returns_sub.bind
  intro way wayExact
  apply Number.returns_sub.bind
  intro whole wholeExact
  have wholeGiven : whole.exact ≠ 0 := by
    rw [wholeExact]
    exact sub_ne_zero_of_ne apart.ne'
  apply (Number.returns_div wholeGiven).bind
  intro part partExact
  apply Number.returns_sub.bind
  intro growth growthExact
  apply Number.returns_mul.bind
  intro grown grownExact
  apply Number.returns_add.mono
  intro value valueExact
  rw [valueExact, grownExact, growthExact, partExact, wholeExact, wayExact, mul_comm]
  rfl

/-- From the first stop on, the first segment that holds the zoom gives the value on the line from
stop to stop. -/
theorem returns_alongSegments (rising : Rising (first :: rest))
    (reached : first.1.exact ≤ zoom.exact) :
    Returns (fun value => Point.along (points (first :: rest)) zoom.exact = some value.exact)
      (alongSegments zoom first rest) := by
  induction rest generalizing first with
  | nil => exact Returns.ok_iff.mpr rfl
  | cons next others ih =>
      obtain ⟨above, restRising⟩ := List.pairwise_cons.mp rising
      have apart : (point first).1 < (point next).1 := above next List.mem_cons_self
      have unfolded : points (first :: next :: others) =
          point first :: point next :: points others := rfl
      rw [alongSegments, Number.le_eq_decide, Number.le_eq_decide, decide_eq_true reached,
        Bool.true_and, unfolded]
      by_cases notAfter : zoom.exact ≤ next.1.exact
      · rw [if_pos (decide_eq_true notAfter)]
        apply (returns_between apart).mono
        intro value valueExact
        have pointReached : (point first).1 ≤ zoom.exact := reached
        have notAfterPoint : zoom.exact ≤ (point next).1 := notAfter
        rw [Point.along_first apart pointReached notAfterPoint, valueExact]
      · rw [if_neg (by simpa using notAfter)]
        have nextReached : (point next).1 ≤ zoom.exact := (not_le.mp notAfter).le
        rw [Point.along_of_passed nextReached apart]
        exact ih restRising nextReached

/-- The value of stops at a zoom is the one on the line from stop to stop. -/
theorem returns_valueAt (rising : Rising (first :: rest)) :
    Returns (fun value => Point.along (points (first :: rest)) zoom.exact = some value.exact)
      (valueAt first rest zoom) := by
  have unfolded : points (first :: rest) = point first :: points rest := rfl
  have pointsRising : Point.Rising (point first :: points rest) := rising_points rising
  have last : (points rest).getLastD (point first) = point (rest.getLastD first) := by
    rw [points, List.getLastD_map]
  unfold valueAt
  simp only [Number.le_eq_decide, decide_eq_true_eq]
  split
  · rename_i notAfter
    rw [unfolded, Point.along_of_le_first notAfter]
    exact Returns.ok_iff.mpr rfl
  · rename_i after
    split
    · rename_i beyond
      have lastReached : ((points rest).getLastD (point first)).1 ≤ zoom.exact := by
        rw [last]
        exact beyond
      rw [unfolded, Point.along_of_last_le pointsRising lastReached, last]
      exact Returns.ok_iff.mpr rfl
    · exact returns_alongSegments rising (not_le.mp after).le

theorem succeeds_valueAt (rising : Rising (first :: rest)) : Succeeds (valueAt first rest zoom) :=
  (returns_valueAt rising).succeeds

theorem succeeds_valueOr {α : Type} {ofNumber : Number Rat → α} {stops : ZoomStops Rat}
    {default : α} (short : ShortKeys stops) :
    Succeeds (valueOr ofNumber stops zoom default) :=
  (returns_normalize short).bind fun _ _ => Returns.pure_iff.mpr trivial

end MapStyle.Zoom
