import Mathlib.Data.List.Induction
import Mathlib.Data.List.Sort
import MapStyle.Proofs.Zoom.Key

/-!
# Stops that are merged

The entries of a mapping give their stops one after the other. A stop at a new zoom is put in its
place, and one at a zoom that is there already replaces the value, so the stops ascend and are
found by their zooms: each zoom is written as in the first entry that names it and has the value
of the last one. Stops that ascend are determined by what is found in them. Hence a mapping with the
entries for every zoom in the same order has the same stops.
-/

namespace MapStyle

set_option autoImplicit false

variable {F : Type} [Arithmetic F]

namespace Zoom

variable [OrderedArithmetic F] {stop : Number F × Number F} {zoom value wanted : Number F}
  {found other : Stops F}

/-! ### Stops by their zooms -/

/-- The stop at a zoom. -/
def stopAt? (wanted : Number F) (found : Stops F) : Option (Number F × Number F) :=
  found.find? fun stop => stop.1.same wanted

/-- Stops at strictly ascending zooms, none of which is undefined. -/
structure Ascends (found : Stops F) : Prop where
  apart : found.Pairwise fun lower upper => lower.1.lt upper.1 = true
  placed : ∀ stop ∈ found, ∃ place, stop.1.place? = some place

theorem Ascends.nil : Ascends ([] : Stops F) :=
  ⟨List.Pairwise.nil, by simp⟩

theorem Ascends.tail (ascends : Ascends (stop :: found)) : Ascends found where
  apart := (List.pairwise_cons.mp ascends.apart).2
  placed := (List.forall_mem_cons.mp ascends.placed).2

omit [OrderedArithmetic F] in
theorem stopAt?_cons : stopAt? wanted (stop :: found) =
    if stop.1.same wanted then some stop else stopAt? wanted found := by
  rw [stopAt?, List.find?_cons]
  cases stop.1.same wanted <;> rfl

/-- Below the first stop there is none. -/
theorem stopAt?_eq_none (below : ∀ stop ∈ found, zoom.lt stop.1 = true) :
    stopAt? zoom found = none := by
  apply List.find?_eq_none.mpr
  intro stop member same
  obtain ⟨zoomPlace, place, isZoom, isPlace, apart⟩ := Number.lt_iff_places.mp (below stop member)
  obtain ⟨both, isStop, isBoth⟩ := Number.same_iff_places.mp same
  cases isPlace.symm.trans isStop
  cases isZoom.symm.trans isBoth
  exact apart.false

/-- A stop is found by its zoom. -/
theorem stopAt?_eq_some_iff (ascends : Ascends found) :
    stopAt? wanted found = some stop ↔ stop ∈ found ∧ stop.1.same wanted = true := by
  constructor
  · intro isFound
    obtain ⟨same, front, back, isSplit, _⟩ := List.find?_eq_some_iff_append.mp isFound
    exact ⟨isSplit ▸ by simp, same⟩
  · rintro ⟨member, same⟩
    induction found with
    | nil => cases member
    | cons first rest ih =>
        obtain ⟨above, _⟩ := List.pairwise_cons.mp ascends.apart
        obtain rfl | inRest := List.mem_cons.mp member
        · rw [stopAt?_cons, if_pos same]
        · rw [stopAt?_cons, if_neg]
          · exact ih ascends.tail inRest
          · intro firstSame
            obtain ⟨_, _, isFirst, isStop, apart⟩ := Number.lt_iff_places.mp (above stop inRest)
            obtain ⟨_, stopFound, isWanted⟩ := Number.same_iff_places.mp same
            obtain ⟨_, firstFound, alsoWanted⟩ := Number.same_iff_places.mp firstSame
            cases isFirst.symm.trans firstFound
            cases isStop.symm.trans stopFound
            cases isWanted.symm.trans alsoWanted
            exact apart.false

/-- Ascending stops are determined by what is found in them. -/
theorem eq_of_stopAt? (ascends : Ascends found) (otherAscends : Ascends other)
    (same : ∀ wanted, stopAt? wanted found = stopAt? wanted other) : found = other := by
  have irreflexive : Std.Irrefl fun lower upper : Number F × Number F =>
      lower.1.lt upper.1 = true := ⟨fun stop below => by simpa [below] using Number.lt_asymm below⟩
  have antisymmetric : Std.Antisymm fun lower upper : Number F × Number F =>
      lower.1.lt upper.1 = true :=
    ⟨fun lower upper below above => by simp [Number.lt_asymm below] at above⟩
  apply ascends.apart.eq_of_mem_iff otherAscends.apart
  intro stop
  have self {stops : Stops F} (stopsAscend : Ascends stops) (member : stop ∈ stops) :
      stop.1.same stop.1 = true :=
    Number.same_self_iff.mpr (stopsAscend.placed stop member)
  constructor
  · intro member
    have isFound := (stopAt?_eq_some_iff ascends).mpr ⟨member, self ascends member⟩
    rw [same] at isFound
    exact ((stopAt?_eq_some_iff otherAscends).mp isFound).1
  · intro member
    have isFound := (stopAt?_eq_some_iff otherAscends).mpr ⟨member, self otherAscends member⟩
    rw [← same] at isFound
    exact ((stopAt?_eq_some_iff ascends).mp isFound).1

/-! ### Setting a stop -/

omit [OrderedArithmetic F] in
theorem zoom_eq_of_mem_setStop (member : stop ∈ setStop zoom value found) :
    stop.1 = zoom ∨ ∃ old ∈ found, stop.1 = old.1 := by
  induction found with
  | nil =>
      cases List.mem_singleton.mp member
      exact .inl rfl
  | cons first rest ih =>
      obtain ⟨other, old⟩ := first
      simp only [setStop] at member
      split at member
      · obtain rfl | inOld := List.mem_cons.mp member
        · exact .inl rfl
        · exact .inr ⟨stop, inOld, rfl⟩
      · split at member
        · obtain rfl | inRest := List.mem_cons.mp member
          · exact .inr ⟨_, List.mem_cons_self, rfl⟩
          · exact .inr ⟨stop, List.mem_cons_of_mem _ inRest, rfl⟩
        · obtain rfl | inRest := List.mem_cons.mp member
          · exact .inr ⟨_, List.mem_cons_self, rfl⟩
          · exact (ih inRest).imp_right fun ⟨earlier, earlierMember, same⟩ =>
              ⟨earlier, List.mem_cons_of_mem _ earlierMember, same⟩

theorem Ascends.setStop {place : Place} (ascends : Ascends found)
    (isPlace : zoom.place? = some place) : Ascends (Zoom.setStop zoom value found) := by
  constructor
  · induction found with
    | nil => exact List.pairwise_singleton _ _
    | cons first rest ih =>
        obtain ⟨other, old⟩ := first
        obtain ⟨above, _⟩ := List.pairwise_cons.mp ascends.apart
        obtain ⟨otherPlace, isOther⟩ := ascends.placed _ List.mem_cons_self
        rw [Zoom.setStop, Number.lt_of_places isPlace isOther,
          Number.same_of_places isPlace isOther]
        simp only [decide_eq_true_eq]
        split_ifs with below level
        · refine List.pairwise_cons.mpr ⟨?_, ascends.apart⟩
          intro stop member
          obtain rfl | inRest := List.mem_cons.mp member
          · exact Number.lt_iff_places.mpr ⟨_, _, isPlace, isOther, below⟩
          · obtain ⟨_, stopPlace, isFirst, isStop, apart⟩ :=
              Number.lt_iff_places.mp (above stop inRest)
            cases isOther.symm.trans isFirst
            exact Number.lt_iff_places.mpr ⟨_, _, isPlace, isStop, below.trans apart⟩
        · exact List.pairwise_cons.mpr ⟨above, ascends.tail.apart⟩
        · refine List.pairwise_cons.mpr ⟨?_, ih ascends.tail⟩
          intro stop member
          have beyond : otherPlace < place := lt_of_le_of_ne (not_lt.mp below) (Ne.symm level)
          obtain same | ⟨earlier, inRest, same⟩ := zoom_eq_of_mem_setStop member
          · rw [same]
            exact Number.lt_iff_places.mpr ⟨_, _, isOther, isPlace, beyond⟩
          · rw [same]
            exact above earlier inRest
  · intro stop member
    obtain same | ⟨earlier, inFound, same⟩ := zoom_eq_of_mem_setStop member
    · exact ⟨place, same ▸ isPlace⟩
    · exact same ▸ ascends.placed earlier inFound

/-- A stop that is set is found by its zoom, which keeps the way it was written; all others are
found as before. -/
theorem stopAt?_setStop (ascends : Ascends found) :
    stopAt? wanted (setStop zoom value found) =
      if zoom.same wanted then some (((stopAt? zoom found).map Prod.fst).getD zoom, value)
      else stopAt? wanted found := by
  induction found with
  | nil => rw [setStop, stopAt?_cons]; rfl
  | cons first rest ih =>
      obtain ⟨other, old⟩ := first
      obtain ⟨above, _⟩ := List.pairwise_cons.mp ascends.apart
      by_cases below : zoom.lt other = true
      · have nothing : stopAt? zoom ((other, old) :: rest) = none := by
          apply stopAt?_eq_none
          intro stop member
          obtain rfl | inRest := List.mem_cons.mp member
          · exact below
          · exact Number.lt_trans below (above stop inRest)
        rw [setStop, if_pos below, stopAt?_cons, nothing]
        rfl
      by_cases level : zoom.same other = true
      · have isOther : other.same zoom = true := Number.same_comm.trans level
        rw [setStop, if_neg below, if_pos level, stopAt?_cons, ← Number.same_congr level]
        split_ifs with isWanted
        · rw [stopAt?_cons, if_pos isOther]
          rfl
        · rw [stopAt?_cons, ← Number.same_congr level, if_neg isWanted]
      · have notOther : ¬other.same zoom = true := Number.same_comm.trans_ne level
        rw [setStop, if_neg below, if_neg level, stopAt?_cons, ih ascends.tail,
          @stopAt?_cons _ _ _ zoom, if_neg notOther, stopAt?_cons]
        dsimp only
        by_cases otherWanted : other.same wanted = true
        · have notWanted : ¬zoom.same wanted = true := by
            intro isWanted
            rw [Number.same_congr isWanted, Number.same_comm] at level
            exact level otherWanted
          rw [if_pos otherWanted, if_neg notWanted, if_pos otherWanted]
        · rw [if_neg otherWanted, if_neg otherWanted]

/-! ### Merging -/

/-- Stops that are set one after the other. -/
def merge (given : Stops F) : Stops F :=
  given.foldl (fun merged stop => setStop stop.1 stop.2 merged) []

omit [OrderedArithmetic F] in
theorem merge_append_singleton :
    merge (found ++ [stop]) = setStop stop.1 stop.2 (merge found) := by
  rw [merge, List.foldl_append]
  rfl

/-- Several stops at one zoom as a single one: the zoom of the first and the value of the last. -/
def joined? (given : Stops F) : Option (Number F × Number F) :=
  given.head?.bind fun first => given.getLast?.map fun last => (first.1, last.2)

omit [Arithmetic F] [OrderedArithmetic F] in
theorem joined?_append_singleton :
    joined? (found ++ [stop]) = some (((joined? found).map Prod.fst).getD stop.1, stop.2) := by
  cases found with
  | nil => rfl
  | cons first rest =>
      have ends : (first :: rest).getLast? = some (rest.getLastD first) := by
        rw [List.getLast?_cons, List.getLastD_eq_getLast?]
      rw [joined?, joined?, List.getLast?_concat, ends]
      rfl

omit [Arithmetic F] [OrderedArithmetic F] in
theorem joined?_eq_some_iff : joined? found = some stop ↔
    ∃ first last, found.head? = some first ∧ found.getLast? = some last ∧
      (first.1, last.2) = stop := by
  simp [joined?, Option.bind_eq_some_iff]

omit [Arithmetic F] [OrderedArithmetic F] in
theorem joined?_eq_none_iff : joined? found = none ↔ found = [] := by
  cases found <;> simp [joined?]

theorem ascends_merge (placed : ∀ stop ∈ found, ∃ place, stop.1.place? = some place) :
    Ascends (merge found) := by
  induction found using List.reverseRecOn with
  | nil => exact Ascends.nil
  | append_singleton front last ih =>
      obtain ⟨place, isPlace⟩ := placed last (by simp)
      rw [merge_append_singleton]
      exact (ih fun stop member => placed stop (by simp [member])).setStop isPlace

/-- Merged stops are found by their zooms. -/
theorem stopAt?_merge (placed : ∀ stop ∈ found, ∃ place, stop.1.place? = some place) :
    stopAt? wanted (merge found) = joined? (found.filter fun stop => stop.1.same wanted) := by
  induction found using List.reverseRecOn generalizing wanted with
  | nil => rfl
  | append_singleton front last ih =>
      have frontPlaced : ∀ stop ∈ front, ∃ place, stop.1.place? = some place :=
        fun stop member => placed stop (by simp [member])
      rw [merge_append_singleton, stopAt?_setStop (ascends_merge frontPlaced), List.filter_append]
      split_ifs with isWanted
      · have alike : (fun stop : Number F × Number F => stop.1.same last.1) =
            fun stop => stop.1.same wanted := by
          funext stop
          rw [Number.same_comm, Number.same_congr isWanted, Number.same_comm]
        rw [ih frontPlaced, alike, List.filter_cons, if_pos isWanted, List.filter_nil,
          joined?_append_singleton]
      · rw [ih frontPlaced, List.filter_cons, if_neg isWanted, List.filter_nil, List.append_nil]

end Zoom

end MapStyle
