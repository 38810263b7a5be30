import MapStyle.Proofs.Zoom.Evaluated

/-!
# Stops set over others

Where stops are set over others, a zoom has its value from the upper ones, and from the lower ones
if those have none there. What such stops say of all other zooms is told without them: it follows
from which values are given at which zooms.
-/

namespace MapStyle.Zoom

set_option autoImplicit false

open Set (Icc)

section Lookup

variable {F : Type} [Arithmetic F] [OrderedArithmetic F] {zoom value wanted : Number F}
  {found own : Stops F}

/-! ### Values by their zooms -/

theorem at?_eq_stopAt? : at? zoom found = (stopAt? zoom found).map Prod.snd := by
  induction found with
  | nil => rfl
  | cons first rest ih =>
      rw [at?, stopAt?_cons, Number.same_comm, ih]
      split_ifs <;> rfl

theorem at?_setStop (ascends : Ascends found) :
    at? wanted (setStop zoom value found) =
      if zoom.same wanted then some value else at? wanted found := by
  rw [at?_eq_stopAt?, at?_eq_stopAt?, stopAt?_setStop ascends]
  split_ifs <;> rfl

/-- The value at a zoom is that of the upper stops, else that of the lower ones. -/
theorem at?_overlaid (ownAscends : Ascends own) (ascends : Ascends found) :
    at? wanted (own.foldl (fun merged stop => setStop stop.1 stop.2 merged) found) =
      (at? wanted own).or (at? wanted found) := by
  induction own generalizing found with
  | nil => rfl
  | cons stop rest ih =>
      obtain ⟨place, isPlace⟩ := ownAscends.placed stop List.mem_cons_self
      obtain ⟨above, _⟩ := List.pairwise_cons.mp ownAscends.apart
      rw [List.foldl_cons, ih ownAscends.tail (ascends.setStop isPlace), at?_setStop ascends,
        at?, @Number.same_comm _ _ _ wanted]
      split_ifs with isWanted
      · -- No later stop of the upper ones is at this zoom again.
        have noOther : at? wanted rest = none := by
          rw [at?_eq_stopAt?, Option.map_eq_none_iff]
          apply stopAt?_eq_none
          intro later member
          obtain ⟨_, _, isStop, isLater, apart⟩ := Number.lt_iff_places.mp (above later member)
          obtain ⟨_, sameStop, wantedPlace⟩ := Number.same_iff_places.mp isWanted
          cases isStop.symm.trans sameStop
          exact Number.lt_iff_places.mpr ⟨_, _, wantedPlace, isLater, apart⟩
        rw [noOther]
        rfl
      · rfl

/-! ### Values of mappings -/

variable [DecimalArithmetic F] {stops : ZoomStops F}

/-- The value that a mapping gives at a zoom: that of the last entry for it. -/
def HasValue (stops : ZoomStops F) (zoom value : Number F) : Prop :=
  ∃ entry own, (entriesAt zoom stops).getLast? = some entry ∧ Gives entry own value

omit [OrderedArithmetic F] [DecimalArithmetic F] in
/-- There is a value at a zoom where an entry gives one. -/
theorem exists_hasValue_iff :
    (∃ value, HasValue stops zoom value) ↔ ∃ entry ∈ stops, GivesAt zoom entry := by
  constructor
  · rintro ⟨value, entry, own, isLast, _⟩
    exact ⟨entry, mem_entriesAt.mp (List.mem_of_getLast? isLast)⟩
  · rintro ⟨entry, member, givesAt⟩
    have given : entriesAt zoom stops ≠ [] :=
      List.ne_nil_of_mem (mem_entriesAt.mpr ⟨member, givesAt⟩)
    have isLast := List.getLast?_eq_some_getLast given
    obtain ⟨_, own, value, gives, _⟩ := mem_entriesAt.mp (List.getLast_mem given)
    exact ⟨value, _, own, isLast, gives⟩

/-- Where its integers fit, a mapping has at a zoom the value that it gives there. -/
theorem at?_normalized_iff (fits : ∀ entry ∈ stops, entry.2.Fits)
    (normalized : normalize stops = .ok found) :
    at? zoom found = some value ↔ HasValue stops zoom value := by
  cases eq_merge_of_normalize normalized
  have last := (ends_filterMap (exists_ownStop zoom fits)).2
  rw [at?_eq_stopAt?, stopAt?_normalized fits, Option.map_eq_some_iff]
  constructor
  · rintro ⟨stop, isJoined, rfl⟩
    obtain ⟨first, final, _, isFinal, rfl⟩ := joined?_eq_some_iff.mp isJoined
    obtain ⟨entry, isLast, isOwn⟩ := Option.bind_eq_some_iff.mp (last.symm.trans isFinal)
    have inStops := (mem_entriesAt.mp (List.mem_of_getLast? isLast)).1
    exact ⟨entry, final.1, isLast, (ownStop?_eq_some_iff (fits entry inStops)).mp isOwn⟩
  · rintro ⟨entry, own, isLast, gives⟩
    have inStops := (mem_entriesAt.mp (List.mem_of_getLast? isLast)).1
    have isOwn : ownStop? entry = some (own, value) :=
      (ownStop?_eq_some_iff (fits entry inStops)).mpr gives
    have isFinal : ((entriesAt zoom stops).filterMap ownStop?).getLast? = some (own, value) := by
      rw [last, isLast]
      exact isOwn
    obtain ⟨first, rest, isSplit⟩ := List.exists_cons_of_ne_nil
      (List.ne_nil_of_mem (List.mem_of_getLast? isFinal))
    exact ⟨(first.1, value), joined?_eq_some_iff.mpr
      ⟨first, (own, value), by rw [isSplit]; rfl, isFinal, rfl⟩, rfl⟩

end Lookup

/-! ### Between and beyond the zooms with a value -/

/-- The value at a zoom, where values are given at some zooms: the one at the zoom itself, or on
the straight line between those at the nearest zooms below and above, or beyond the ends the one
at the nearest zoom; and a fallback where nothing is given. -/
inductive Interpolates (given : Number Rat → Number Rat → Prop) (zoom fallback : Number Rat) :
    Number Rat → Prop
  | hit {value : Number Rat} (isGiven : given zoom value) : Interpolates given zoom fallback value
  | between {lower upper : Number Rat × Number Rat} {value : Number Rat}
      (lowerGiven : given lower.1 lower.2) (upperGiven : given upper.1 upper.2)
      (passed : lower.1.exact < zoom.exact) (before : zoom.exact < upper.1.exact)
      (nearest : ∀ other value, given other value →
        other.exact ≤ lower.1.exact ∨ upper.1.exact ≤ other.exact)
      (onLine : value.exact = Point.between (point lower) (point upper) zoom.exact) :
      Interpolates given zoom fallback value
  | below {first : Number Rat × Number Rat} (firstGiven : given first.1 first.2)
      (before : zoom.exact < first.1.exact)
      (least : ∀ other value, given other value → first.1.exact ≤ other.exact) :
      Interpolates given zoom fallback first.2
  | above {last : Number Rat × Number Rat} (lastGiven : given last.1 last.2)
      (passed : last.1.exact < zoom.exact)
      (largest : ∀ other value, given other value → other.exact ≤ last.1.exact) :
      Interpolates given zoom fallback last.2
  | without (nothing : ∀ other value, ¬given other value) :
      Interpolates given zoom fallback fallback

/-- Where nothing is given there is only the fallback. -/
theorem Interpolates.eq_fallback {given : Number Rat → Number Rat → Prop}
    {zoom fallback value : Number Rat} (interpolates : Interpolates given zoom fallback value)
    (nothing : ∀ other value, ¬given other value) : value = fallback := by
  cases interpolates with
  | hit isGiven => exact absurd isGiven (nothing _ _)
  | between lowerGiven => exact absurd lowerGiven (nothing _ _)
  | below firstGiven => exact absurd firstGiven (nothing _ _)
  | above lastGiven => exact absurd lastGiven (nothing _ _)
  | without => rfl

/-- What is interpolated stays within the range of the values that are given. -/
theorem Interpolates.mem {given : Number Rat → Number Rat → Prop}
    {zoom fallback value : Number Rat} {least largest : Rat}
    (interpolates : Interpolates given zoom fallback value)
    (usable : ∃ other value, given other value)
    (each : ∀ other value, given other value → value.exact ∈ Icc least largest) :
    value.exact ∈ Icc least largest := by
  cases interpolates with
  | hit isGiven => exact each _ _ isGiven
  | between lowerGiven upperGiven passed before _ onLine =>
      rw [onLine]
      exact Point.between_mem passed before (each _ _ lowerGiven) (each _ _ upperGiven)
  | below firstGiven _ _ => exact each _ _ firstGiven
  | above lastGiven _ _ => exact each _ _ lastGiven
  | without nothing =>
      obtain ⟨other, value, isGiven⟩ := usable
      exact absurd isGiven (nothing other value)

section Rising

variable {found : Stops Rat} {first lower upper stop : Number Rat × Number Rat}
  {rest : Stops Rat} {zoom value fallback : Number Rat}

/-- Stops that have a value at a zoom. -/
def Holds (found : Stops Rat) (zoom value : Number Rat) : Prop :=
  at? zoom found = some value

theorem holds_iff (rising : Rising found) :
    Holds found zoom value ↔ ∃ stop ∈ found, stop.1.exact = zoom.exact ∧ stop.2 = value := by
  rw [Holds, at?_eq_stopAt?, Option.map_eq_some_iff]
  simp only [stopAt?_eq_some_iff (rising_iff_ascends.mp rising), Number.same_eq_decide,
    decide_eq_true_eq, and_assoc]

theorem holds_self (rising : Rising found) (member : stop ∈ found) : Holds found stop.1 stop.2 :=
  (holds_iff rising).mpr ⟨stop, member, rfl, rfl⟩

theorem Holds.unique {other otherValue : Number Rat} (holds : Holds found zoom value)
    (holdsOther : Holds found other otherValue) (same : zoom.exact = other.exact) :
    value = otherValue := by
  have alike : at? zoom found = at? other found := by
    clear holds holdsOther
    induction found with
    | nil => rfl
    | cons first rest ih => simp only [at?, Number.same_eq_decide, same, ih]
  exact Option.some.inj (holds.symm.trans (alike.trans holdsOther))

theorem ne_nil_of_holds (holds : Holds found zoom value) : found ≠ [] := by
  rintro rfl
  cases holds

/-- Stops without one between them follow each other. -/
theorem infix_of_nearest (rising : Rising found) (lowerMember : lower ∈ found)
    (upperMember : upper ∈ found) (apart : lower.1.exact < upper.1.exact)
    (nearest : ∀ stop ∈ found, stop.1.exact ≤ lower.1.exact ∨ upper.1.exact ≤ stop.1.exact) :
    [lower, upper] <:+: found := by
  induction found with
  | nil => cases lowerMember
  | cons first rest ih =>
      obtain ⟨above, restRising⟩ := List.pairwise_cons.mp rising
      have upperInRest : upper ∈ rest := by
        obtain rfl | inRest := List.mem_cons.mp upperMember
        · obtain rfl | lowerInRest := List.mem_cons.mp lowerMember
          · exact absurd apart (lt_irrefl _)
          · exact absurd apart (above lower lowerInRest).not_gt
        · exact inRest
      obtain rfl | lowerInRest := List.mem_cons.mp lowerMember
      · obtain ⟨second, others, rfl⟩ := List.exists_cons_of_ne_nil (List.ne_nil_of_mem upperInRest)
        obtain rfl | inOthers := List.mem_cons.mp upperInRest
        · exact (List.prefix_append [lower, upper] others).isInfix
        · have second_lt : second.1.exact < upper.1.exact :=
            (List.pairwise_cons.mp restRising).1 upper inOthers
          have lower_lt := above second List.mem_cons_self
          obtain notAfter | notBefore := nearest second (by simp)
          · exact absurd lower_lt notAfter.not_gt
          · exact absurd second_lt notBefore.not_gt
      · have next := ih restRising lowerInRest upperInRest fun stop member =>
          nearest stop (List.mem_cons_of_mem first member)
        exact next.trans (List.suffix_cons first rest).isInfix

/-- No stop lies between two that follow each other. -/
theorem nearest_of_infix (rising : Rising found) (next : [lower, upper] <:+: found)
    (member : stop ∈ found) : stop.1.exact ≤ lower.1.exact ∨ upper.1.exact ≤ stop.1.exact := by
  obtain ⟨front, back, rfl⟩ := next
  obtain ⟨pairRising, _, backAbove⟩ := List.pairwise_append.mp rising
  obtain ⟨_, _, frontBelow⟩ := List.pairwise_append.mp pairRising
  obtain inPair | inBack := List.mem_append.mp member
  · obtain inFront | isOne := List.mem_append.mp inPair
    · exact .inl (frontBelow stop inFront lower (by simp)).le
    · simp only [List.mem_cons, List.not_mem_nil, or_false] at isOne
      obtain rfl | rfl := isOne
      · exact .inl le_rfl
      · exact .inr le_rfl
  · exact .inr (backAbove upper (by simp) stop inBack).le

theorem first_le_of_holds (rising : Rising (first :: rest))
    (holds : Holds (first :: rest) zoom value) :
    first.1.exact ≤ zoom.exact := by
  obtain ⟨stop, member, same, _⟩ := (holds_iff rising).mp holds
  have pointsRising : Point.Rising (points (first :: rest)) := rising_points rising
  rw [← same]
  exact pointsRising.first_le (List.mem_map_of_mem member)

theorem le_last (rising : Rising (first :: rest)) (member : stop ∈ first :: rest) :
    stop.1.exact ≤ (rest.getLastD first).1.exact := by
  induction rest generalizing first with
  | nil =>
      cases List.mem_singleton.mp member
      exact le_rfl
  | cons second others ih =>
      obtain ⟨above, restRising⟩ := List.pairwise_cons.mp rising
      rw [List.getLastD_cons]
      obtain rfl | inRest := List.mem_cons.mp member
      · have lastMember : others.getLastD second ∈ second :: others := List.getLastD_mem_cons
        exact (above _ lastMember).le
      · exact ih restRising inRest

theorem le_last_of_holds (rising : Rising (first :: rest))
    (holds : Holds (first :: rest) zoom value) :
    zoom.exact ≤ (rest.getLastD first).1.exact := by
  obtain ⟨stop, member, same, _⟩ := (holds_iff rising).mp holds
  rw [← same]
  exact le_last rising member

/-- Between the ends a zoom without a stop lies between two stops that follow each other. -/
theorem exists_neighbours (onStop : ∀ stop ∈ first :: rest, stop.1.exact ≠ zoom.exact)
    (reached : first.1.exact < zoom.exact) (before : zoom.exact < (rest.getLastD first).1.exact) :
    ∃ lower upper, [lower, upper] <:+: first :: rest ∧
      lower.1.exact < zoom.exact ∧ zoom.exact < upper.1.exact := by
  have several : points rest ≠ [] := by
    intro alone
    rw [List.map_eq_nil_iff.mp alone] at before
    exact absurd before reached.not_gt
  have notAfter : zoom.exact ≤ ((points rest).getLastD (point first)).1 := by
    rw [points, List.getLastD_map]
    exact before.le
  obtain ⟨_, _, next, above, below⟩ := Point.exists_segment reached.le notAfter several
  obtain ⟨pair, isInfix, isPair⟩ := List.infix_map_iff.mp
    (show _ <:+: List.map point (first :: rest) from next)
  obtain ⟨lower, upper, rfl⟩ : ∃ lower upper, pair = [lower, upper] :=
    List.length_eq_two.mp (by simpa using (congrArg List.length isPair).symm)
  cases isPair
  have lowerMember : lower ∈ first :: rest := isInfix.mem (by simp)
  have upperMember : upper ∈ first :: rest := isInfix.mem (by simp)
  exact ⟨lower, upper, isInfix, lt_of_le_of_ne above (onStop lower lowerMember),
    lt_of_le_of_ne below (onStop upper upperMember).symm⟩

/-- Ascending stops have a value between and beyond their zooms as well. -/
theorem returns_interpolates (rising : Rising (first :: rest))
    (noHit : at? zoom (first :: rest) = none) :
    Returns (Interpolates (Holds (first :: rest)) zoom fallback) (valueAt first rest zoom) := by
  have onStop (stop) (member : stop ∈ first :: rest) : stop.1.exact ≠ zoom.exact := by
    intro same
    have holds : Holds (first :: rest) zoom stop.2 := (holds_iff rising).mpr ⟨_, member, same, rfl⟩
    cases noHit.symm.trans holds
  have lastMember : rest.getLastD first ∈ first :: rest := List.getLastD_mem_cons
  obtain ⟨value, found, onLine⟩ := @returns_valueAt first rest zoom rising
  refine ⟨value, found, ?_⟩
  simp only [valueAt, Number.le_eq_decide, decide_eq_true_eq] at found
  split at found
  · rename_i notAfter
    cases found
    have before := lt_of_le_of_ne notAfter (onStop first List.mem_cons_self).symm
    exact .below (holds_self rising List.mem_cons_self) before fun _ _ => first_le_of_holds rising
  rename_i afterFirst
  split at found
  · rename_i reached
    cases found
    have passed := lt_of_le_of_ne reached (onStop _ lastMember)
    exact .above (holds_self rising lastMember) passed fun _ _ => le_last_of_holds rising
  · rename_i beforeLast
    obtain ⟨lower, upper, next, passed, before⟩ :=
      exists_neighbours onStop (not_le.mp afterFirst) (not_le.mp beforeLast)
    have lowerHolds := holds_self rising (next.mem List.mem_cons_self)
    have upperHolds := holds_self rising (next.mem (by simp : upper ∈ [lower, upper]))
    refine .between lowerHolds upperHolds passed before ?_ ?_
    · intro other otherValue holds
      obtain ⟨stop, member, same, _⟩ := (holds_iff rising).mp holds
      rw [← same]
      exact nearest_of_infix rising next member
    · rw [Point.along_eq_path (by simp [points])] at onLine
      rw [← Option.some.inj onLine]
      exact Point.path_between (rising_points rising) (next.map point) passed.le before.le

/-- What is interpolated lies on the path through the stops. -/
theorem Interpolates.exact_eq_path (rising : Rising found) (given : found ≠ [])
    (interpolates : Interpolates (Holds found) zoom fallback value) :
    value.exact = Point.path (points found) zoom.exact := by
  have pointsRising := rising_points rising
  obtain ⟨first, rest, rfl⟩ := List.exists_cons_of_ne_nil given
  cases interpolates with
  | hit holds =>
      obtain ⟨stop, member, same, rfl⟩ := (holds_iff rising).mp holds
      rw [← same]
      exact (Point.path_self pointsRising (List.mem_map_of_mem member : point stop ∈ _)).symm
  | @between lower upper _ lowerHolds upperHolds passed before nearest onLine =>
      obtain ⟨lowerStop, lowerMember, lowerSame, lowerValue⟩ := (holds_iff rising).mp lowerHolds
      obtain ⟨upperStop, upperMember, upperSame, upperValue⟩ := (holds_iff rising).mp upperHolds
      rw [← lowerSame] at passed
      rw [← upperSame] at before
      have next : [lowerStop, upperStop] <:+: first :: rest := by
        refine infix_of_nearest rising lowerMember upperMember (passed.trans before) ?_
        intro stop member
        rw [lowerSame, upperSame]
        exact nearest _ _ (holds_self rising member)
      have lowerPoint : point lowerStop = point lower := by rw [point, lowerSame, lowerValue]; rfl
      have upperPoint : point upperStop = point upper := by rw [point, upperSame, upperValue]; rfl
      rw [onLine, ← lowerPoint, ← upperPoint]
      exact (Point.path_between pointsRising (next.map point) passed.le before.le).symm
  | @below lowest firstHolds before least =>
      have firstHere := holds_self rising List.mem_cons_self
      have same : lowest.1.exact = first.1.exact :=
        (least _ _ firstHere).antisymm (first_le_of_holds rising firstHolds)
      rw [firstHolds.unique firstHere same]
      rw [same] at before
      have notAfter : zoom.exact ≤ (point first).1 := before.le
      exact (Point.path_of_le_first notAfter).symm
  | @above highest lastHolds passed largest =>
      have lastHere := holds_self rising (List.getLastD_mem_cons : rest.getLastD first ∈ _)
      have same : highest.1.exact = (rest.getLastD first).1.exact :=
        (le_last_of_holds rising lastHolds).antisymm (largest _ _ lastHere)
      rw [lastHolds.unique lastHere same]
      rw [same] at passed
      have isLast : (points (first :: rest)).getLast? = some (point (rest.getLastD first)) := by
        rw [points, List.getLast?_map, List.getLast?_cons, List.getLastD_eq_getLast?]
        rfl
      exact ((Point.follows_path pointsRising).heldAfter _ isLast _ passed.le).symm
  | without nothing => exact absurd (holds_self rising List.mem_cons_self) (nothing _ _)

end Rising

end MapStyle.Zoom
