import Mathlib.Data.List.Sort
import MapStyle.Colour.Density
import MapStyle.Proofs.Number.Laws

/-!
# Density ranges by threshold

Ranges whose thresholds are defined numbers can be sorted. The sort keeps ranges of one threshold in
their order, and of these only the first is kept; so what is left ascends strictly and is, for each
threshold, the range that was given first.
-/

namespace MapStyle

set_option autoImplicit false

namespace DensityRange

variable {F : Type} [Arithmetic F]

/-- A threshold is a number, and no undefined one. -/
def HasThreshold (range : DensityRange F) : Prop :=
  ∃ threshold : Number F, range.threshold = .number threshold ∧ threshold.same threshold = true

variable [OrderedArithmetic F] {range left right : DensityRange F}
  {ranges descending : List (DensityRange F)}

/-! ### Places of thresholds -/

/-- The place of a threshold on the line; ranges without one are put at its lower end. -/
def place (range : DensityRange F) : Place :=
  match range.threshold with
  | .number threshold => threshold.place?.getD ⊥
  | _ => ⊥

theorem HasThreshold.place? (given : range.HasThreshold) :
    ∃ threshold : Number F, range.threshold = .number threshold ∧
      threshold.place? = some range.place := by
  obtain ⟨threshold, isNumber, defined⟩ := given
  obtain ⟨place, found⟩ := Number.same_self_iff.mp defined
  refine ⟨threshold, isNumber, ?_⟩
  simp only [DensityRange.place, isNumber, found, Option.getD_some]

theorem precedes?_eq (leftGiven : left.HasThreshold) (rightGiven : right.HasThreshold) :
    left.precedes? right = some (decide (left.place < right.place)) := by
  obtain ⟨leftThreshold, leftNumber, leftPlace⟩ := leftGiven.place?
  obtain ⟨rightThreshold, rightNumber, rightPlace⟩ := rightGiven.place?
  rw [precedes?, leftNumber, rightNumber, ← Number.lt_of_places leftPlace rightPlace]
  rfl

theorem sameThreshold_eq (leftGiven : left.HasThreshold) (rightGiven : right.HasThreshold) :
    left.sameThreshold right = decide (left.place = right.place) := by
  obtain ⟨leftThreshold, leftNumber, leftPlace⟩ := leftGiven.place?
  obtain ⟨rightThreshold, rightNumber, rightPlace⟩ := rightGiven.place?
  rw [sameThreshold, leftNumber, rightNumber, ← Number.same_of_places leftPlace rightPlace]
  rfl

/-! ### The stable sort -/

def NotBelow (left right : DensityRange F) : Prop :=
  right.place ≤ left.place

instance : DecidableRel (NotBelow (F := F)) :=
  fun left right => inferInstanceAs (Decidable (right.place ≤ left.place))

instance : Std.Total (NotBelow (F := F)) :=
  ⟨fun left right => le_total right.place left.place⟩

instance : IsTrans (DensityRange F) NotBelow :=
  ⟨fun _ _ _ first second => le_trans second first⟩

def HaveThresholds (ranges : List (DensityRange F)) : Prop :=
  ∀ range ∈ ranges, range.HasThreshold

theorem insertDescending_eq (given : range.HasThreshold) (allGiven : HaveThresholds descending) :
    insertDescending range descending = some (descending.orderedInsert NotBelow range) := by
  induction descending with
  | nil => rfl
  | cons last rest ih =>
      obtain ⟨lastGiven, restGiven⟩ := List.forall_mem_cons.mp allGiven
      rw [insertDescending, precedes?_eq given lastGiven, List.orderedInsert_cons]
      by_cases below : range.place < last.place
      · have notInserted : ¬ NotBelow range last := not_le.mpr below
        rw [if_neg notInserted, decide_eq_true below, ih restGiven]
        rfl
      · have inserted : NotBelow range last := not_lt.mp below
        rw [if_pos inserted, decide_eq_false below]

/-- The ranges in ascending order. -/
def sorted (ranges : List (DensityRange F)) : List (DensityRange F) :=
  (ranges.reverse.insertionSort NotBelow).reverse

theorem foldlM_insertDescending (given : HaveThresholds ranges)
    (descendingGiven : HaveThresholds descending) :
    ranges.foldlM (fun descending range => insertDescending range descending) descending =
      some (ranges.foldl (fun descending range => descending.orderedInsert NotBelow range)
        descending) := by
  induction ranges generalizing descending with
  | nil => rfl
  | cons range rest ih =>
      obtain ⟨rangeGiven, restGiven⟩ := List.forall_mem_cons.mp given
      have nextGiven : HaveThresholds (descending.orderedInsert NotBelow range) := by
        intro other member
        obtain rfl | old := (List.mem_orderedInsert NotBelow).mp member
        · exact rangeGiven
        · exact descendingGiven other old
      rw [List.foldlM_cons, insertDescending_eq rangeGiven descendingGiven]
      exact ih restGiven nextGiven

theorem sorted?_eq (given : HaveThresholds ranges) : sorted? ranges = some (sorted ranges) := by
  have noneGiven : HaveThresholds ([] : List (DensityRange F)) := by simp [HaveThresholds]
  rw [sorted?, foldlM_insertDescending given noneGiven, List.foldl_eq_foldr_reverse]
  rfl

theorem mem_sorted : range ∈ sorted ranges ↔ range ∈ ranges := by
  rw [sorted, List.mem_reverse, List.mem_insertionSort, List.mem_reverse]

theorem pairwise_sorted (ranges : List (DensityRange F)) :
    (sorted ranges).Pairwise fun lower upper => lower.place ≤ upper.place :=
  List.pairwise_reverse.mpr (List.pairwise_insertionSort NotBelow ranges.reverse)

/-- Ranges of one threshold stay in their order. -/
theorem filter_insertionSort (ranges : List (DensityRange F)) (place : Place) :
    (ranges.insertionSort NotBelow).filter (fun range => range.place = place) =
      ranges.filter fun range => range.place = place := by
  have alike : (ranges.filter fun range => range.place = place).Pairwise NotBelow := by
    apply List.pairwise_of_forall_mem_list
    intro left leftMember right rightMember
    have leftPlace : left.place = place := by simpa using (List.mem_filter.mp leftMember).2
    have rightPlace : right.place = place := by simpa using (List.mem_filter.mp rightMember).2
    exact (rightPlace.trans leftPlace.symm).le
  have kept := (List.sublist_insertionSort alike List.filter_sublist).filter
    fun range => decide (range.place = place)
  rw [List.filter_filter] at kept
  simp only [Bool.and_self] at kept
  have sameLength := ((List.perm_insertionSort NotBelow ranges).filter
    fun range => decide (range.place = place)).length_eq
  exact (kept.eq_of_length sameLength.symm).symm

theorem filter_sorted (place : Place) :
    (sorted ranges).filter (fun range => range.place = place) =
      ranges.filter fun range => range.place = place := by
  rw [sorted, List.filter_reverse, filter_insertionSort, ← List.filter_reverse,
    List.reverse_reverse]

theorem find?_sorted (place : Place) :
    (sorted ranges).find? (fun range => range.place = place) =
      ranges.find? fun range => range.place = place := by
  rw [← List.head?_filter, filter_sorted, List.head?_filter]

/-! ### The first range of each threshold -/

/-- A range is the first of its threshold among several ones. -/
def IsFirst (ranges : List (DensityRange F)) (range : DensityRange F) : Prop :=
  ranges.find? (fun other => other.place = range.place) = some range

variable {first earlier next : DensityRange F} {rest : List (DensityRange F)}

theorem isFirst_cons :
    IsFirst (first :: rest) range ↔
      range = first ∨ (first.place ≠ range.place ∧ IsFirst rest range) := by
  unfold IsFirst
  rw [List.find?_cons]
  by_cases same : first.place = range.place
  · simp [same, eq_comm]
  · have different : range ≠ first := by
      rintro rfl
      exact same rfl
    simp [same, different]

/-- Ranges with thresholds that do not fall. -/
structure Ascends (ranges : List (DensityRange F)) : Prop where
  given : HaveThresholds ranges
  notFalling : ranges.Pairwise fun lower upper => lower.place ≤ upper.place

theorem Ascends.sublist {some : List (DensityRange F)} (ascends : Ascends ranges)
    (part : some.Sublist ranges) : Ascends some :=
  ⟨fun range member => ascends.given range (part.subset member), ascends.notFalling.sublist part⟩

theorem Ascends.tail (ascends : Ascends (earlier :: ranges)) : Ascends ranges :=
  ascends.sublist (List.sublist_cons_self earlier ranges)

/-- The second range may be left out. -/
theorem Ascends.skip (ascends : Ascends (earlier :: next :: rest)) : Ascends (earlier :: rest) :=
  ascends.sublist ((List.sublist_cons_self next rest).cons_cons earlier)

theorem Ascends.lt_next (ascends : Ascends (earlier :: next :: rest))
    (apart : next.place ≠ earlier.place) : earlier.place < next.place :=
  lt_of_le_of_ne ((List.pairwise_cons.mp ascends.notFalling).1 next List.mem_cons_self) apart.symm

theorem ascends_sorted (given : HaveThresholds ranges) : Ascends (sorted ranges) :=
  ⟨fun range member => given range (mem_sorted.mp member), pairwise_sorted ranges⟩

/-- A range behind another one is kept exactly if its threshold differs. -/
theorem firstOfEach_cons (ascends : Ascends (earlier :: next :: rest)) :
    firstOfEach (some earlier) (next :: rest) =
      if next.place = earlier.place then firstOfEach (some earlier) rest
      else next :: firstOfEach (some next) rest := by
  have earlierGiven := ascends.given earlier (by simp)
  have nextGiven := ascends.given next (by simp)
  rw [firstOfEach, Option.any_some, sameThreshold_eq nextGiven earlierGiven]
  simp only [decide_eq_true_eq]

/-- Of ascending ranges behind an earlier one, the first of each other threshold is kept. -/
theorem mem_firstOfEach (ascends : Ascends (earlier :: ranges)) :
    range ∈ firstOfEach (some earlier) ranges ↔
      earlier.place ≠ range.place ∧ IsFirst ranges range := by
  induction ranges generalizing earlier with
  | nil => simp [firstOfEach, IsFirst]
  | cons next rest ih =>
      rw [isFirst_cons, firstOfEach_cons ascends]
      by_cases same : next.place = earlier.place
      · rw [if_pos same, ih ascends.skip]
        constructor
        · rintro ⟨apart, isFirst⟩
          exact ⟨apart, .inr ⟨same ▸ apart, isFirst⟩⟩
        · rintro ⟨apart, rfl | ⟨_, isFirst⟩⟩
          · exact absurd same.symm apart
          · exact ⟨apart, isFirst⟩
      · rw [if_neg same, List.mem_cons, ih ascends.tail]
        have below := ascends.lt_next same
        have nextUnder := (List.pairwise_cons.mp ascends.tail.notFalling).1
        constructor
        · rintro (rfl | ⟨apart, isFirst⟩)
          · exact ⟨below.ne, .inl rfl⟩
          · have member : range ∈ rest := List.mem_of_find?_eq_some isFirst
            exact ⟨(below.trans_le (nextUnder range member)).ne, .inr ⟨apart, isFirst⟩⟩
        · rintro ⟨_, isNext | later⟩
          · exact .inl isNext
          · exact .inr later

theorem rising_firstOfEach (ascends : Ascends (earlier :: ranges)) :
    (earlier :: firstOfEach (some earlier) ranges).Pairwise fun lower upper =>
      lower.place < upper.place := by
  induction ranges generalizing earlier with
  | nil => exact List.pairwise_singleton _ _
  | cons next rest ih =>
      rw [firstOfEach_cons ascends]
      by_cases same : next.place = earlier.place
      · rw [if_pos same]
        exact ih ascends.skip
      · rw [if_neg same]
        have rising := ih ascends.tail
        have below := ascends.lt_next same
        refine List.pairwise_cons.mpr ⟨?_, rising⟩
        intro range member
        obtain rfl | later := List.mem_cons.mp member
        · exact below
        · exact below.trans ((List.pairwise_cons.mp rising).1 range later)

/-! ### The selection -/

/-- The first range of each threshold, by strictly ascending threshold. -/
structure Selected (ranges found : List (DensityRange F)) : Prop where
  rising : found.Pairwise fun lower upper => lower.place < upper.place
  mem_iff : ∀ range, range ∈ found ↔ IsFirst ranges range

theorem selected_firstOfEach (ascends : Ascends ranges) :
    Selected ranges (firstOfEach none ranges) := by
  cases ranges with
  | nil => exact ⟨List.Pairwise.nil, by simp [firstOfEach, IsFirst]⟩
  | cons first rest =>
      have unfolded : firstOfEach none (first :: rest) = first :: firstOfEach (some first) rest :=
        rfl
      rw [unfolded]
      refine ⟨rising_firstOfEach ascends, fun range => ?_⟩
      rw [List.mem_cons, isFirst_cons, mem_firstOfEach ascends]

theorem returns_ascending (given : HaveThresholds ranges) :
    Returns (Selected ranges) (ascending ranges) := by
  have selected := selected_firstOfEach (ascends_sorted given)
  rw [ascending, sorted?_eq given]
  refine Returns.ok_iff.mpr ⟨selected.rising, fun range => ?_⟩
  rw [selected.mem_iff, IsFirst, find?_sorted]
  rfl

/-- The selection is determined by which ranges are the first of their threshold. -/
theorem Selected.unique {other found otherFound : List (DensityRange F)}
    (selected : Selected ranges found) (otherSelected : Selected other otherFound)
    (sameFirsts : ∀ range, IsFirst ranges range ↔ IsFirst other range) : found = otherFound := by
  have nodup {items : List (DensityRange F)}
      (rising : items.Pairwise fun lower upper => lower.place < upper.place) : items.Nodup := by
    apply rising.imp
    rintro lower _ below rfl
    exact lt_irrefl _ below
  have permuted : found.Perm otherFound := by
    rw [List.perm_ext_iff_of_nodup (nodup selected.rising) (nodup otherSelected.rising)]
    intro range
    rw [selected.mem_iff, otherSelected.mem_iff, sameFirsts]
  refine permuted.eq_of_pairwise ?_ selected.rising otherSelected.rising
  intro lower upper _ _ below above
  exact absurd below above.not_gt

/-- Where all thresholds differ, every range is the first of its threshold. -/
theorem isFirst_iff_mem (distinct : ranges.Pairwise fun left right => left.place ≠ right.place) :
    IsFirst ranges range ↔ range ∈ ranges := by
  constructor
  · intro isFirst
    exact List.mem_of_find?_eq_some isFirst
  · intro member
    induction distinct with
    | nil => cases member
    | @cons first rest apart _ ih =>
        rw [isFirst_cons]
        obtain same | later := List.mem_cons.mp member
        · exact .inl same
        · exact .inr ⟨apart range later, ih later⟩

/-- The order in which ranges with different thresholds are given does not matter. -/
theorem ascending_perm {other : List (DensityRange F)} (given : HaveThresholds ranges)
    (permuted : other.Perm ranges)
    (distinct : ranges.Pairwise fun left right => left.place ≠ right.place) :
    ascending other = ascending ranges := by
  have otherGiven : HaveThresholds other := fun range member =>
    given range (permuted.mem_iff.mp member)
  have otherDistinct : other.Pairwise fun left right => left.place ≠ right.place :=
    (permuted.symm.pairwise_iff Ne.symm).mp distinct
  obtain ⟨found, ascended, selected⟩ := returns_ascending given
  obtain ⟨otherFound, otherAscended, otherSelected⟩ := returns_ascending otherGiven
  have same : otherFound = found := by
    apply otherSelected.unique selected
    intro range
    rw [isFirst_iff_mem otherDistinct, isFirst_iff_mem distinct, permuted.mem_iff]
  rw [ascended, otherAscended, same]

end DensityRange

end MapStyle
