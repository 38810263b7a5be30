import MapStyle.Layer.Population
import MapStyle.Proofs.Colour.Ramp
import MapStyle.Proofs.Colour.Sorted
import MapStyle.Proofs.Expr.Choice
import MapStyle.Proofs.Expr.Shown
import MapStyle.Proofs.Number.Double

/-!
# Colours by density as shown

Whatever the order of the ranges is and however many of them share a threshold, an area is shown in
the colour of the first range with the greatest threshold that its density reaches. Fills and
outlines change their colour at the same densities, and an area without a density has a flat colour.
-/

namespace MapStyle

set_option autoImplicit false

variable {F : Type} [Arithmetic F]

/-! ### What is to be shown -/

/-- The colour of an area: as an outline a colour of its own, else that of the fill, darkened. -/
def IsAreaColour (F : Type) [Arithmetic F] (outline : Bool) (fill own : Option String)
    (colour : String) : Prop :=
  if outline then
    givenColour? own = some colour ∨ (givenColour? own = none ∧ ∃ base, fill = some base ∧
      Colour.darken base (Colour.outlineFactor (F := F)) = .ok colour)
  else fill = some colour

namespace DensityRange

def Reached (density : Number F) (range : DensityRange F) : Prop :=
  ∃ threshold, range.threshold = .number threshold ∧ threshold.le density = true

/-- The first range with the greatest threshold that a density reaches. -/
structure Governs (ranges : List (DensityRange F)) (density : Number F)
    (range : DensityRange F) : Prop where
  first : ranges.find? (sameThreshold range) = some range
  reached : range.Reached density
  greatest : ∀ other ∈ ranges, other.Reached density → range.precedes? other = some false

end DensityRange

namespace DensityColours

open DensityRange (HasThreshold Reached Governs)

/-- Thresholds are defined numbers, and fills hexadecimal colours. -/
structure WellFormed (colours : DensityColours F) : Prop where
  thresholds : ∀ range ∈ colours.ranges, range.HasThreshold
  fills : ∀ range ∈ colours.ranges, ∃ fill, range.fillColour = some fill ∧
    Colour.isHexCharacters fill.toList = true
  fallback : ∃ fill, colours.fallbackFill = some fill ∧
    Colour.isHexCharacters fill.toList = true

/-- The colour at a density: that of the range that governs it, else the default one. -/
def IsColourAt (colours : DensityColours F) (outline : Bool) (density : Number F)
    (colour : String) : Prop :=
  (∃ range, Governs colours.ranges density range ∧
    IsAreaColour F outline range.fillColour range.outlineColour colour) ∨
  ((∀ range ∈ colours.ranges, ¬ range.Reached density) ∧
    IsAreaColour F outline colours.fallbackFill colours.fallbackOutline colour)

end DensityColours

/-! ### Colours of areas -/

namespace Colour

variable [RoundedArithmetic F]

theorem succeeds_darken {text : String} {factor : Number F}
    (isHex : isHexCharacters text.toList = true) (factorSucceeds : Succeeds factor.toReal) :
    Succeeds (darken text factor) := by
  obtain ⟨red, green, blue, hex⟩ := isHexCharacters_iff.mp isHex
  obtain ⟨redFits, greenFits, blueFits⟩ := hex.le
  have read := hex.spells.returns_hexToRgb (F := F) (fun _ _ => True)
    (Number.succeeds_toReal_byte redFits) (Number.succeeds_toReal_byte greenFits)
    (Number.succeeds_toReal_byte blueFits)
  exact succeeds_darken_of_read read.succeeds factorSucceeds

omit [RoundedArithmetic F] in
theorem outlineOf_eq_ok {fill own : Option String} {colour : String}
    (isColour : IsAreaColour F true fill own colour) :
    outlineOf (F := F) fill own = .ok colour := by
  unfold outlineOf
  obtain given | ⟨none, base, rfl, darkened⟩ := isColour
  · rw [given]
    rfl
  · rw [none]
    exact darkened

theorem exists_areaColour {fill : Option String} (outline : Bool) (own : Option String)
    (isHex : ∃ base, fill = some base ∧ isHexCharacters base.toList = true) :
    ∃ colour, IsAreaColour F outline fill own colour := by
  obtain ⟨base, rfl, baseHex⟩ := isHex
  cases outline with
  | false => exact ⟨base, rfl⟩
  | true =>
      cases given : givenColour? own with
      | some colour => exact ⟨colour, .inl given⟩
      | none =>
          have factor : Succeeds (outlineFactor (F := F)).toReal := Returns.ok_iff.mpr trivial
          obtain ⟨colour, darkened⟩ := succeeds_iff.mp (succeeds_darken baseHex factor)
          exact ⟨colour, .inr ⟨given, base, rfl, darkened⟩⟩

end Colour

/-! ### The governing range -/

namespace DensityRange

variable {range : DensityRange F} {ranges found : List (DensityRange F)} {density : Number F}

/-- The threshold as a number. -/
def number (range : DensityRange F) : Number F :=
  match range.threshold with
  | .number threshold => threshold
  | _ => 0

theorem HasThreshold.number_eq (given : range.HasThreshold) :
    range.threshold = .number range.number := by
  obtain ⟨threshold, isNumber, _⟩ := given
  simp only [number, isNumber]

theorem reached_iff (given : range.HasThreshold) :
    range.Reached density ↔ range.number.le density = true := by
  constructor
  · rintro ⟨threshold, isNumber, reached⟩
    simpa only [number, isNumber] using reached
  · intro reached
    exact ⟨range.number, given.number_eq, reached⟩

variable [OrderedArithmetic F]

theorem HasThreshold.place_eq (given : range.HasThreshold) :
    range.number.place? = some range.place := by
  obtain ⟨threshold, isNumber, found⟩ := given.place?
  simpa only [number, isNumber] using found

/-- Whether a density reaches a threshold depends on the place of the threshold only. -/
theorem le_congr {left right : DensityRange F} (leftGiven : left.HasThreshold)
    (rightGiven : right.HasThreshold) (same : left.place = right.place) :
    left.number.le density = right.number.le density := by
  unfold Number.le
  rw [Number.order?_eq_place, Number.order?_eq_place, leftGiven.place_eq, rightGiven.place_eq, same]

/-- Every range has the threshold of one of the selected ones. -/
theorem Selected.exists_same (selected : Selected ranges found) (member : range ∈ ranges) :
    ∃ chosen ∈ found, chosen.place = range.place := by
  have exists_first : (ranges.find? fun other => other.place = range.place).isSome :=
    List.find?_isSome.mpr ⟨range, member, decide_eq_true rfl⟩
  obtain ⟨chosen, isFound⟩ := Option.isSome_iff_exists.mp exists_first
  have same : chosen.place = range.place := by simpa using List.find?_some isFound
  refine ⟨chosen, (selected.mem_iff chosen).mpr ?_, same⟩
  rw [IsFirst, same]
  exact isFound

theorem Selected.mem (selected : Selected ranges found) (member : range ∈ found) :
    range ∈ ranges :=
  List.mem_of_find?_eq_some ((selected.mem_iff range).mp member)

theorem find?_sameThreshold (given : HaveThresholds ranges) (rangeGiven : range.HasThreshold) :
    ranges.find? (sameThreshold range) = ranges.find? fun other => other.place = range.place := by
  induction ranges with
  | nil => rfl
  | cons first rest ih =>
      obtain ⟨firstGiven, restGiven⟩ := List.forall_mem_cons.mp given
      rw [List.find?_cons, List.find?_cons, ih restGiven, sameThreshold_eq rangeGiven firstGiven]
      simp only [eq_comm]

/-- Every range that a density reaches has the threshold of a selected one that it reaches. -/
theorem Selected.exists_reached (selected : Selected ranges found) (given : HaveThresholds ranges)
    (member : range ∈ ranges) (reached : range.Reached density) :
    ∃ chosen ∈ found.filter fun other => other.number.le density, chosen.place = range.place := by
  obtain ⟨chosen, chosenMember, same⟩ := selected.exists_same member
  have chosenReached : chosen.number.le density = true := by
    rw [le_congr (given chosen (selected.mem chosenMember)) (given range member) same]
    exact (reached_iff (given range member)).mp reached
  exact ⟨chosen, List.mem_filter.mpr ⟨chosenMember, chosenReached⟩, same⟩

/-- The last selected range that a density reaches governs it. -/
theorem Selected.governs (selected : Selected ranges found) (given : HaveThresholds ranges)
    (last : (found.filter fun other => other.number.le density).getLast? = some range) :
    Governs ranges density range := by
  obtain ⟨front, split⟩ := List.getLast?_eq_some_iff.mp last
  have inFilter : range ∈ found.filter fun other => other.number.le density := by
    rw [split]
    simp
  obtain ⟨member, reached⟩ := List.mem_filter.mp inFilter
  have rangeGiven := given range (selected.mem member)
  constructor
  case first =>
    rw [find?_sameThreshold given rangeGiven]
    exact (selected.mem_iff range).mp member
  case reached => exact (reached_iff rangeGiven).mpr reached
  case greatest =>
    intro other otherMember otherReached
    obtain ⟨chosen, chosenInFilter, same⟩ := selected.exists_reached given otherMember otherReached
    rw [split] at chosenInFilter
    have rising := selected.rising.filter fun other => other.number.le density
    rw [split] at rising
    have notAbove : chosen.place ≤ range.place := by
      obtain earlier | isLast := List.mem_append.mp chosenInFilter
      · have below := (List.pairwise_append.mp rising).2.2 chosen earlier range (by simp)
        exact below.le
      · rw [List.mem_singleton.mp isLast]
    rw [precedes?_eq rangeGiven (given other otherMember), ← same]
    exact congrArg some (decide_eq_false (not_lt.mpr notAbove))

/-- If no selected range is reached, none is. -/
theorem Selected.not_reached (selected : Selected ranges found) (given : HaveThresholds ranges)
    (none : (found.filter fun other => other.number.le density) = []) :
    ∀ range ∈ ranges, ¬ range.Reached density := by
  intro range member reached
  obtain ⟨chosen, inFilter, _⟩ := selected.exists_reached given member reached
  rw [none] at inFilter
  cases inFilter

end DensityRange

/-! ### The expressions -/

/-- The breakpoints of a step; other expressions have none. -/
def Expr.breakpoints : Expr F → List (Expr F)
  | .op "step" (_ :: _ :: pairs) => keys pairs
  | _ => []
where
  /-- Every other item, from the first one on. -/
  keys : List (Expr F) → List (Expr F)
    | key :: _ :: rest => key :: keys rest
    | _ => []

omit [Arithmetic F] in
theorem Expr.breakpoints_stepNode {input fallback : Expr F} {pairs : List (Expr F × Expr F)} :
    (stepNode input fallback pairs).breakpoints = pairs.map Prod.fst := by
  show breakpoints.keys (alternating pairs) = pairs.map Prod.fst
  induction pairs with
  | nil => rfl
  | cons pair rest ih => exact congrArg (pair.1 :: ·) ih

namespace DensityColours

open DensityRange (ascending number)

variable {colours : DensityColours F} {outline : Bool} {fallback : String}
  {colour : DensityRange F → String} {found : List (DensityRange F)}

def stepsAt (colour : DensityRange F → String) (found : List (DensityRange F)) :
    List (Expr F × Expr F) :=
  found.map fun range => (.number range.number, .text (colour range))

/-- The colours by density of selected ranges. -/
def steppedExpr (fallback : String) (colour : DensityRange F → String)
    (found : List (DensityRange F)) : Expr F :=
  if found.isEmpty then .text fallback
  else Expr.stepNode (.featureState "pop_density_sqmi") (.text fallback) (stepsAt colour found)

theorem steps_eq (ascended : ascending colours.ranges = .ok found)
    (fallbackIs : IsAreaColour F outline colours.fallbackFill colours.fallbackOutline fallback)
    (coloursAre : ∀ range ∈ found,
      IsAreaColour F outline range.fillColour range.outlineColour (colour range)) :
    colours.steps outline =
      .ok ⟨some fallback, found.map fun range => (range.threshold, some (colour range))⟩ := by
  unfold steps
  rw [ascended]
  cases outline with
  | true =>
      have pairs : found.mapM (fun range => do
          return (range.threshold,
            some (← Colour.outlineOf (F := F) range.fillColour range.outlineColour)) :
          DensityRange F → Result F (Json F × Option String)) =
          .ok (found.map fun range => (range.threshold, some (colour range))) := by
        apply mapM_eq_ok_map
        intro range member
        rw [Colour.outlineOf_eq_ok (coloursAre range member)]
        rfl
      show (do
        let fallback ← Colour.outlineOf (F := F) colours.fallbackFill colours.fallbackOutline
        let pairs ← found.mapM _
        return (⟨some fallback, pairs⟩ : Steps F)) = _
      rw [Colour.outlineOf_eq_ok fallbackIs, pairs]
      rfl
  | false =>
      have fills : (found.map fun range => (range.threshold, range.fillColour)) =
          found.map fun range => (range.threshold, some (colour range)) := by
        apply List.map_congr_left
        intro range member
        exact congrArg (range.threshold, ·) (coloursAre range member)
      have fallbackFill : colours.fallbackFill = some fallback := fallbackIs
      show Except.ok (⟨_, _⟩ : Steps F) = _
      rw [fills, fallbackFill]

theorem reachedOutput_stops {density : Number F} :
    reachedOutput density (.text fallback)
      (found.map fun range => (range.number, .text (colour range))) =
      .text (((found.filter fun range => range.number.le density).getLast?.map colour).getD
        fallback) := by
  rw [reachedOutput, List.filter_map, List.getLast?_map]
  simp only [Function.comp_def]
  cases (found.filter fun range => range.number.le density).getLast? <;> rfl

/-- The colour that is shown at a density: that of the last selected range that it reaches. -/
theorem shown_steppedExpr {renderer : Renderer F} {scene : Scene F} {density : Number F}
    (atDensity : scene.state "pop_density_sqmi" = some (.number density)) :
    (steppedExpr fallback colour found).shown renderer scene =
      some (.text (((found.filter fun range => range.number.le density).getLast?.map colour).getD
        fallback)) := by
  have input : (Expr.featureState "pop_density_sqmi" : Expr F).shown renderer scene =
      some (.number density) := by
    rw [Expr.shown_featureState, atDensity]
    rfl
  have pairs : Expr.ShowPairs renderer scene (stepsAt colour found)
      (found.map fun range => (range.number, .text (colour range))) := by
    refine List.forall₂_map_left_iff.mpr (List.forall₂_map_right_iff.mpr ?_)
    exact List.forall₂_same.mpr fun range _ => ⟨rfl, rfl⟩
  unfold steppedExpr
  cases empty : found.isEmpty with
  | true =>
      rw [List.isEmpty_iff.mp empty]
      rfl
  | false =>
      rw [if_neg Bool.false_ne_true, Expr.shown_stepNode input (Expr.shown_text fallback) pairs,
        reachedOutput_stops]

omit [Arithmetic F] in
theorem breakpoints_steppedExpr :
    (steppedExpr fallback colour found).breakpoints = (found.map number).map Expr.number := by
  unfold steppedExpr
  cases empty : found.isEmpty with
  | true =>
      rw [List.isEmpty_iff.mp empty]
      rfl
  | false =>
      rw [if_neg Bool.false_ne_true, Expr.breakpoints_stepNode]
      simp [stepsAt]

section Selected

variable [OrderedArithmetic F]

open DensityRange (HaveThresholds Selected)

theorem climb_numbers (given : HaveThresholds found)
    (rising : found.Pairwise fun lower upper => lower.place < upper.place) :
    (found.map number).Pairwise fun lower upper => lower.lt upper = true := by
  refine List.pairwise_map.mpr (rising.imp_of_mem ?_)
  intro lower upper lowerMember upperMember below
  rw [Number.lt_of_places (given lower lowerMember).place_eq (given upper upperMember).place_eq]
  exact decide_eq_true below

/-- The colour by density is not refused. -/
theorem stepExpr_eq (given : HaveThresholds colours.ranges)
    (selected : Selected colours.ranges found) (ascended : ascending colours.ranges = .ok found)
    (fallbackIs : IsAreaColour F outline colours.fallbackFill colours.fallbackOutline fallback)
    (coloursAre : ∀ range ∈ found,
      IsAreaColour F outline range.fillColour range.outlineColour (colour range)) :
    colours.stepExpr outline = .ok (steppedExpr fallback colour found) := by
  have foundGiven : HaveThresholds found := fun range member => given range (selected.mem member)
  have pairs : (found.map fun range => (range.threshold, some (colour range))).map
      (fun pair => (Expr.ofJson pair.1, Expr.ofText? pair.2)) = stepsAt colour found := by
    rw [List.map_map]
    apply List.map_congr_left
    intro range member
    show (Expr.ofJson range.threshold, _) = _
    rw [(foundGiven range member).number_eq]
    rfl
  unfold stepExpr
  rw [steps_eq ascended fallbackIs coloursAre]
  show (if (found.map _).isEmpty then _ else _) = _
  rw [List.isEmpty_map, pairs, steppedExpr]
  cases empty : found.isEmpty with
  | true => rfl
  | false =>
      have stepped : stepsAt colour found ≠ [] := by
        simpa [stepsAt] using List.isEmpty_eq_false_iff.mp empty
      have keys : (stepsAt colour found).map Prod.fst = (found.map number).map Expr.number := by
        simp [stepsAt]
      have climb : Expr.Climb (found.map number) :=
        (climb_numbers foundGiven selected.rising).isChain
      have ascends : Expr.Ascending ((stepsAt colour found).map Prod.fst) :=
        keys ▸ Expr.ascending_of_climb climb
      exact Expr.step_eq_ok.mpr ⟨stepped, ascends, rfl⟩

/-- In both modes there is a colour for each selected range and one below all of them. -/
theorem exists_colours [RoundedArithmetic F] (wellFormed : colours.WellFormed)
    (selected : Selected colours.ranges found) (outline : Bool) :
    ∃ (fallback : String) (colour : DensityRange F → String),
      IsAreaColour F outline colours.fallbackFill colours.fallbackOutline fallback ∧
      ∀ range ∈ found,
        IsAreaColour F outline range.fillColour range.outlineColour (colour range) := by
  obtain ⟨fallback, fallbackIs⟩ := Colour.exists_areaColour (F := F) outline
    colours.fallbackOutline wellFormed.fallback
  have each : ∀ range : DensityRange F, ∃ colour, range ∈ found →
      IsAreaColour F outline range.fillColour range.outlineColour colour := by
    intro range
    by_cases member : range ∈ found
    · obtain ⟨colour, isColour⟩ := Colour.exists_areaColour (F := F) outline
        range.outlineColour (wellFormed.fills range (selected.mem member))
      exact ⟨colour, fun _ => isColour⟩
    · exact ⟨"", fun inFound => absurd inFound member⟩
  choose colour coloursAre using each
  exact ⟨fallback, colour, fallbackIs, coloursAre⟩

/-- What is shown at a density is its colour. -/
theorem isColourAt_shown (given : HaveThresholds colours.ranges)
    (selected : Selected colours.ranges found) (density : Number F)
    (fallbackIs : IsAreaColour F outline colours.fallbackFill colours.fallbackOutline fallback)
    (coloursAre : ∀ range ∈ found,
      IsAreaColour F outline range.fillColour range.outlineColour (colour range)) :
    colours.IsColourAt outline density
      (((found.filter fun range => range.number.le density).getLast?.map colour).getD
        fallback) := by
  cases last : (found.filter fun range => range.number.le density).getLast? with
  | none =>
      have noneReached := List.getLast?_eq_none_iff.mp last
      exact .inr ⟨selected.not_reached given noneReached, fallbackIs⟩
  | some range =>
      have member := (List.mem_filter.mp (List.mem_of_getLast? last)).1
      exact .inl ⟨range, selected.governs given last, coloursAre range member⟩

/-- The colour by density has the thresholds of the selected ranges as breakpoints, and at every
density the colour that is wanted there. -/
theorem returns_stepExpr [RoundedArithmetic F] (wellFormed : colours.WellFormed)
    (selected : Selected colours.ranges found) (ascended : ascending colours.ranges = .ok found)
    (outline : Bool) :
    Returns (fun expression => expression.breakpoints = (found.map number).map Expr.number ∧
        ∀ (renderer : Renderer F) (scene : Scene F) (density : Number F),
          scene.state "pop_density_sqmi" = some (.number density) →
          ∃ colour, expression.shown renderer scene = some (.text colour) ∧
            colours.IsColourAt outline density colour)
      (colours.stepExpr outline) := by
  obtain ⟨fallback, colour, fallbackIs, coloursAre⟩ := exists_colours wellFormed selected outline
  refine ⟨_, stepExpr_eq wellFormed.thresholds selected ascended fallbackIs coloursAre,
    breakpoints_steppedExpr, ?_⟩
  intro renderer scene density atDensity
  exact ⟨_, shown_steppedExpr atDensity,
    isColourAt_shown wellFormed.thresholds selected density fallbackIs coloursAre⟩

end Selected

/-- The order of the ranges matters only through the selected ones. -/
theorem stepExpr_congr {ranges : List (DensityRange F)}
    (same : ascending ranges = ascending colours.ranges) (outline : Bool) :
    { colours with ranges := ranges }.stepExpr outline = colours.stepExpr outline := by
  unfold stepExpr steps
  rw [same]

/-- A flat colour is shown exactly where no density is known. -/
theorem shown_colourExpr {flat byDensity expression : Expr F} {renderer : Renderer F}
    {scene : Scene F} (stepped : colours.stepExpr outline = .ok byDensity)
    (found : colours.colourExpr flat outline = .ok expression) :
    expression.shown renderer scene =
      if ((scene.state "pop_density_sqmi").getD .null).isSame .null then
        flat.shown renderer scene
      else byDensity.shown renderer scene := by
  unfold colourExpr at found
  rw [stepped] at found
  cases found
  exact Expr.shown_ifKnown

/-- Colours by density are right for ranges in any order: at every density the colour of the range
that governs it is shown, in both modes; fills and outlines share their strictly ascending
breakpoints; ranges with different thresholds may be given in any order; and a flat colour is shown
exactly where no density is known. -/
theorem coloured_by_density [OrderedArithmetic F] [RoundedArithmetic F]
    (colours : DensityColours F) (wellFormed : colours.WellFormed) :
    (∀ outline, Returns (fun expression =>
        ∀ (renderer : Renderer F) (scene : Scene F) (density : Number F),
          scene.state "pop_density_sqmi" = some (.number density) →
          ∃ colour, expression.shown renderer scene = some (.text colour) ∧
            colours.IsColourAt outline density colour)
      (colours.stepExpr outline)) ∧
    (∃ thresholds : List (Number F),
      (thresholds.Pairwise fun lower upper => lower.lt upper = true) ∧
      ∀ outline, Returns (fun expression => expression.breakpoints = thresholds.map Expr.number)
        (colours.stepExpr outline)) ∧
    (∀ ranges, ranges.Perm colours.ranges →
      (colours.ranges.Pairwise fun left right => left.sameThreshold right = false) →
      ∀ outline, { colours with ranges := ranges }.stepExpr outline = colours.stepExpr outline) ∧
    (∀ flat outline, Returns (fun expression =>
        ∃ byDensity, colours.stepExpr outline = .ok byDensity ∧
          ∀ (renderer : Renderer F) (scene : Scene F),
            (scene.state "pop_density_sqmi" = none ∨
              scene.state "pop_density_sqmi" = some .null →
              expression.shown renderer scene = flat.shown renderer scene) ∧
            (∀ value, scene.state "pop_density_sqmi" = some value → value ≠ .null →
              expression.shown renderer scene = byDensity.shown renderer scene))
      (colours.colourExpr flat outline)) := by
  obtain ⟨found, ascended, selected⟩ := DensityRange.returns_ascending wellFormed.thresholds
  have foundGiven : DensityRange.HaveThresholds found :=
    fun range member => wellFormed.thresholds range (selected.mem member)
  have stepped := returns_stepExpr wellFormed selected ascended
  refine ⟨?_, ?_, ?_, ?_⟩
  · intro outline
    exact (stepped outline).mono fun _ both => both.2
  · refine ⟨found.map number, climb_numbers foundGiven selected.rising, ?_⟩
    intro outline
    exact (stepped outline).mono fun _ both => both.1
  · intro ranges permuted different outline
    refine stepExpr_congr (DensityRange.ascending_perm wellFormed.thresholds permuted ?_) outline
    refine different.imp_of_mem ?_
    intro left right leftMember rightMember apart
    rw [DensityRange.sameThreshold_eq (wellFormed.thresholds left leftMember)
      (wellFormed.thresholds right rightMember)] at apart
    exact of_decide_eq_false apart
  · intro flat outline
    obtain ⟨byDensity, byDensityFound, _⟩ := stepped outline
    obtain ⟨expression, built⟩ : ∃ expression, colours.colourExpr flat outline = .ok expression :=
      ⟨_, bind_eq_ok.mpr ⟨byDensity, byDensityFound, rfl⟩⟩
    refine ⟨expression, built, byDensity, byDensityFound, ?_⟩
    intro renderer scene
    rw [shown_colourExpr byDensityFound built]
    constructor
    · rintro (absent | absent)
      · rw [absent]
        rfl
      · rw [absent]
        rfl
    · intro value given notNull
      rw [given, Option.getD_some, Json.isSame_null notNull]
      rfl

/-- The standard colours in double precision, at any density and in reverse order. -/
theorem standard_coloured :
    (Population.standardColours : DensityColours Float).WellFormed ∧
      (∀ outline, Returns (fun expression =>
          ∀ (renderer : Renderer Float) (scene : Scene Float) (density : Number Float),
            scene.state "pop_density_sqmi" = some (.number density) →
            ∃ colour, expression.shown renderer scene = some (.text colour) ∧
              Population.standardColours.IsColourAt outline density colour)
        ((Population.standardColours : DensityColours Float).stepExpr outline)) ∧
      ∀ outline,
        { (Population.standardColours : DensityColours Float) with
          ranges := Population.standardColours.ranges.reverse }.stepExpr outline =
            (Population.standardColours : DensityColours Float).stepExpr outline := by
  have wellFormed : (Population.standardColours : DensityColours Float).WellFormed := by
    constructor
    case thresholds =>
      simp only [Population.standardColours, List.forall_mem_cons]
      exact ⟨⟨100, rfl, rfl⟩, ⟨300, rfl, rfl⟩, ⟨1000, rfl, rfl⟩, ⟨2000, rfl, rfl⟩,
        ⟨5000, rfl, rfl⟩, ⟨10000, rfl, rfl⟩, by simp⟩
    case fills =>
      simp only [Population.standardColours, List.forall_mem_cons]
      exact ⟨⟨_, rfl, by decide⟩, ⟨_, rfl, by decide⟩, ⟨_, rfl, by decide⟩, ⟨_, rfl, by decide⟩,
        ⟨_, rfl, by decide⟩, ⟨_, rfl, by decide⟩, by simp⟩
    case fallback => exact ⟨_, rfl, by decide⟩
  obtain ⟨shown, _, anyOrder, _⟩ := coloured_by_density _ wellFormed
  exact ⟨wellFormed, shown, anyOrder _ (List.reverse_perm _) (by decide +kernel)⟩

end DensityColours

end MapStyle
