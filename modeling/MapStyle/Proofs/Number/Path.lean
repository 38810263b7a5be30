import Mathlib
import MapStyle.Proofs.Number.Line

/-!
# The path through points

The values along points at strictly ascending zooms are those of one function: it is continuous, it
runs straight from point to point and is held beyond the first and the last one. There is no other
such function. Its values stay between those of the points, and where these do not fall it does not
fall either.
-/

namespace MapStyle.Point

set_option autoImplicit false

open Set (Icc)

variable {first second lower upper point : Point} {points rest : List Point}
  {zoom earlier later least largest : Rat}

/-- A function that runs straight through points and is held beyond them. -/
structure Follows (points : List Point) (path : Rat → Rat) : Prop where
  heldBefore : ∀ first, points.head? = some first → ∀ zoom, zoom ≤ first.1 → path zoom = first.2
  straight : ∀ lower upper, [lower, upper] <:+: points → ∀ zoom, lower.1 ≤ zoom → zoom ≤ upper.1 →
    path zoom = between lower upper zoom
  heldAfter : ∀ last, points.getLast? = some last → ∀ zoom, last.1 ≤ zoom → path zoom = last.2

/-- The values along points as a function. -/
def path (points : List Point) (zoom : Rat) : Rat :=
  (along points zoom).getD 0

theorem path_of_le_first (notAfter : zoom ≤ first.1) : path (first :: rest) zoom = first.2 := by
  rw [path, along_of_le_first notAfter]
  rfl

theorem path_of_passed (passed : second.1 ≤ zoom) (apart : first.1 < second.1) :
    path (first :: second :: rest) zoom = path (second :: rest) zoom := by
  rw [path, along_of_passed passed apart]
  rfl

theorem path_first (apart : first.1 < second.1) (reached : first.1 ≤ zoom)
    (notAfter : zoom ≤ second.1) :
    path (first :: second :: rest) zoom = between first second zoom := by
  rw [path, along_first apart reached notAfter]
  rfl

theorem along_eq_path (given : points ≠ []) : along points zoom = some (path points zoom) := by
  induction points with
  | nil => exact absurd rfl given
  | cons first rest ih =>
      cases rest with
      | nil => rfl
      | cons second others =>
          rw [path, along]
          split
          · rfl
          · split
            · rfl
            · exact ih (by simp)

theorem path_self (rising : Rising points) (member : point ∈ points) :
    path points point.1 = point.2 := by
  rw [path, along_self rising member]
  rfl

/-! ### From point to point -/

theorem Rising.apart (rising : Rising (first :: second :: rest)) : first.1 < second.1 :=
  (List.pairwise_cons.mp rising).1 second List.mem_cons_self

theorem Rising.tail (rising : Rising (first :: rest)) : Rising rest :=
  (List.pairwise_cons.mp rising).2

/-- The first zoom is not after that of any point. -/
theorem Rising.first_le (rising : Rising (first :: rest)) (member : point ∈ first :: rest) :
    first.1 ≤ point.1 := by
  obtain rfl | inRest := List.mem_cons.mp member
  · exact le_rfl
  · exact ((List.pairwise_cons.mp rising).1 point inRest).le

theorem path_between (rising : Rising points) (next : [lower, upper] <:+: points)
    (reached : lower.1 ≤ zoom) (notAfter : zoom ≤ upper.1) :
    path points zoom = between lower upper zoom := by
  induction points with
  | nil => simp at next
  | cons first rest ih =>
      obtain isFirst | inRest := List.infix_cons_iff.mp next
      · obtain ⟨others, isPoints⟩ := isFirst
        cases isPoints
        exact path_first rising.apart reached notAfter
      · have lowerInRest : lower ∈ rest := inRest.mem (by simp)
        cases rest with
        | nil => cases lowerInRest
        | cons second others =>
            have passed : second.1 ≤ zoom := (rising.tail.first_le lowerInRest).trans reached
            rw [path_of_passed passed rising.apart]
            exact ih rising.tail inRest

/-- The values along points at ascending zooms follow them. -/
theorem follows_path (rising : Rising points) : Follows points (path points) where
  heldBefore first isFirst zoom notAfter := by
    obtain ⟨rest, rfl⟩ := List.head?_eq_some_iff.mp isFirst
    exact path_of_le_first notAfter
  straight lower upper next zoom reached notAfter := path_between rising next reached notAfter
  heldAfter last isLast zoom reached := by
    cases points with
    | nil => cases isLast
    | cons first rest =>
        have same : rest.getLastD first = last := by
          rw [List.getLast?_cons, Option.some_inj] at isLast
          rw [← isLast, List.getLastD_eq_getLast?]
        subst same
        rw [path, along_of_last_le rising reached]
        rfl

/-- A zoom between the ends lies between two points that follow each other. -/
theorem exists_segment (reached : first.1 ≤ zoom)
    (notAfter : zoom ≤ (rest.getLastD first).1) (several : rest ≠ []) :
    ∃ lower upper, [lower, upper] <:+: first :: rest ∧ lower.1 ≤ zoom ∧ zoom ≤ upper.1 := by
  induction rest generalizing first with
  | nil => exact absurd rfl several
  | cons second others ih =>
      rw [List.getLastD_cons] at notAfter
      by_cases inFirst : zoom ≤ second.1
      · exact ⟨first, second, (List.prefix_append [first, second] others).isInfix, reached, inFirst⟩
      · have passed := (not_le.mp inFirst).le
        cases others with
        | nil => exact absurd notAfter inFirst
        | cons third more =>
            obtain ⟨lower, upper, next, above, below⟩ := ih passed notAfter (by simp)
            exact ⟨lower, upper, next.trans (List.suffix_cons _ _).isInfix, above, below⟩

/-- Points are followed by one function only. -/
theorem Follows.unique {function other : Rat → Rat} (given : points ≠ [])
    (follows : Follows points function) (otherFollows : Follows points other) :
    function = other := by
  funext zoom
  cases points with
  | nil => exact absurd rfl given
  | cons first rest =>
      by_cases before : zoom ≤ first.1
      · rw [follows.heldBefore first rfl zoom before, otherFollows.heldBefore first rfl zoom before]
      by_cases after : (rest.getLastD first).1 ≤ zoom
      · have isLast : (first :: rest).getLast? = some (rest.getLastD first) := by
          rw [List.getLast?_cons, List.getLastD_eq_getLast?]
        rw [follows.heldAfter _ isLast zoom after, otherFollows.heldAfter _ isLast zoom after]
      · have several : rest ≠ [] := by
          rintro rfl
          exact after (not_le.mp before).le
        obtain ⟨lower, upper, next, reached, notAfter⟩ :=
          exists_segment (not_le.mp before).le (not_le.mp after).le several
        rw [follows.straight lower upper next zoom reached notAfter,
          otherFollows.straight lower upper next zoom reached notAfter]

/-! ### Continuity -/

theorem continuous_between : Continuous (between lower upper) := by
  unfold between
  fun_prop

theorem continuous_path (rising : Rising points) : Continuous (path points) := by
  induction points with
  | nil => exact continuous_const
  | cons first rest ih =>
      cases rest with
      | nil => exact continuous_const
      | cons second others =>
          have pieces : path (first :: second :: others) = fun zoom =>
              if zoom ≤ first.1 then first.2
              else if second.1 ≤ zoom then path (second :: others) zoom
              else between first second zoom := by
            funext zoom
            split_ifs with before passed
            · exact path_of_le_first before
            · exact path_of_passed passed rising.apart
            · exact path_first rising.apart (not_le.mp before).le (not_le.mp passed).le
          rw [pieces]
          apply Continuous.if_le continuous_const _ continuous_id continuous_const
          · rintro zoom rfl
            rw [if_neg (not_le.mpr rising.apart), between_lower]
          · apply Continuous.if_le (ih rising.tail) continuous_between continuous_const
              continuous_id
            rintro zoom rfl
            rw [path_of_le_first le_rfl, between_upper rising.apart]

/-! ### Bounds and growth -/

theorem path_mem (given : points ≠ []) (each : ∀ point ∈ points, point.2 ∈ Icc least largest) :
    path points zoom ∈ Icc least largest := by
  obtain ⟨value, isValue, within⟩ :
      ∃ value, along points zoom = some value ∧ value ∈ Icc least largest := along_mem given each
  rw [path, isValue]
  exact within

/-- Points with values that do not fall. -/
def Growing (points : List Point) : Prop :=
  points.Pairwise fun lower upper => lower.2 ≤ upper.2

theorem between_mono (apart : lower.1 < upper.1) (grows : lower.2 ≤ upper.2) :
    Monotone (between lower upper) := by
  intro earlier later notLater
  have whole : 0 < upper.1 - lower.1 := sub_pos.mpr apart
  have growth : 0 ≤ upper.2 - lower.2 := sub_nonneg.mpr grows
  unfold between
  gcongr

/-- The values do not fall below that of the first point. -/
theorem first_le_path (rising : Rising (first :: rest)) (growing : Growing (first :: rest)) :
    first.2 ≤ path (first :: rest) zoom := by
  induction rest generalizing first with
  | nil => exact le_rfl
  | cons second others ih =>
      obtain ⟨atLeast, othersGrowing⟩ := List.pairwise_cons.mp growing
      have grows : first.2 ≤ second.2 := atLeast second List.mem_cons_self
      by_cases before : zoom ≤ first.1
      · rw [path_of_le_first before]
      by_cases inFirst : zoom ≤ second.1
      · have reached := (not_le.mp before).le
        rw [path_first rising.apart reached inFirst]
        calc first.2 = between first second first.1 := between_lower.symm
          _ ≤ between first second zoom := between_mono rising.apart grows reached
      · rw [path_of_passed (not_le.mp inFirst).le rising.apart]
        exact grows.trans (ih rising.tail othersGrowing)

/-- Where the values of the points do not fall, the path does not fall. -/
theorem monotone_path (rising : Rising points) (growing : Growing points) :
    Monotone (path points) := by
  intro earlier later notLater
  induction points with
  | nil => exact le_rfl
  | cons first rest ih =>
      by_cases before : earlier ≤ first.1
      · rw [path_of_le_first before]
        exact first_le_path rising growing
      have reached := (not_le.mp before).le
      cases rest with
      | nil => exact le_rfl
      | cons second others =>
          obtain ⟨atLeast, othersGrowing⟩ := List.pairwise_cons.mp growing
          have grows : first.2 ≤ second.2 := atLeast second List.mem_cons_self
          have rises := between_mono rising.apart grows
          by_cases inFirst : later ≤ second.1
          · rw [path_first rising.apart reached (notLater.trans inFirst),
              path_first rising.apart (reached.trans notLater) inFirst]
            exact rises notLater
          rw [path_of_passed (not_le.mp inFirst).le rising.apart]
          by_cases earlierInFirst : earlier ≤ second.1
          · rw [path_first rising.apart reached earlierInFirst]
            calc between first second earlier ≤ between first second second.1 :=
                  rises earlierInFirst
              _ = second.2 := between_upper rising.apart
              _ ≤ path (second :: others) later := first_le_path rising.tail othersGrowing
          · rw [path_of_passed (not_le.mp earlierInFirst).le rising.apart]
            exact ih rising.tail othersGrowing

end MapStyle.Point
