import Mathlib.Tactic.NormNum
import MapStyle.Expr.ClassColour
import MapStyle.Expr.Width
import MapStyle.Proofs.Expr.Choice
import MapStyle.Proofs.Width.Match
import MapStyle.Proofs.Zoom.Stops

/-!
# Expressions that can always be built

Over exact arithmetic a curve, a step or a match is refused only for its breakpoints or labels. So
the values that layers share always exist, whatever a theme says: colours by class and by height,
curves through the stops of a mapping, and the widths of roads.
-/

namespace MapStyle

set_option autoImplicit false

open Number (Ascend)

namespace Expr

/-! ### Curves, steps and matches -/

theorem precedes?_numbers (left right : Number Rat) :
    (Expr.number left).precedes? (.number right) = some (decide (left.exact < right.exact)) := by
  simp [precedes?]

theorem climb_of_ascend {numbers : List (Number Rat)} (ascend : Ascend numbers) :
    Climb numbers := by
  apply ascend.isChain.imp
  intro lower upper below
  simpa using below

variable {shape input fallback : Expr Rat} {stops : List (Expr Rat × Expr Rat)}

theorem succeeds_curve (zooms : List (Number Rat))
    (keys : stops.map Prod.fst = zooms.map Expr.number) (given : zooms ≠ [])
    (ascend : Ascend zooms) : Succeeds (curve shape input stops) :=
  succeeds_iff.mpr ⟨_, curve_of_climb (climb_of_ascend ascend) keys given⟩

theorem succeeds_linear (zooms : List (Number Rat))
    (keys : stops.map Prod.fst = zooms.map Expr.number) (given : zooms ≠ [])
    (ascend : Ascend zooms) : Succeeds (linear input stops) :=
  succeeds_curve zooms keys given ascend

theorem succeeds_exponential {base : Expr Rat} (zooms : List (Number Rat))
    (keys : stops.map Prod.fst = zooms.map Expr.number)
    (given : zooms ≠ []) (ascend : Ascend zooms) : Succeeds (exponential base input stops) :=
  succeeds_curve zooms keys given ascend

theorem succeeds_oneStep (breakpoint output : Expr Rat) :
    Succeeds (step input fallback [(breakpoint, output)]) := by
  have ascending : Ascending ([(breakpoint, output)].map Prod.fst) := List.isChain_singleton _
  exact succeeds_iff.mpr ⟨_, step_eq_ok.mpr ⟨by simp, ascending, rfl⟩⟩

theorem succeeds_matching {branches : List (Expr Rat × Expr Rat)} {labels : List (Expr Rat)}
    (keys : branches.map Prod.fst = labels) (given : labels ≠ [])
    (checked : (checkLabels labels).isOk = true) :
    Succeeds (matching input branches fallback) := by
  obtain ⟨_, found⟩ := exists_of_isOk checked
  obtain ⟨groupsGiven, distinct⟩ := checkLabels_eq_ok.mp found
  subst keys
  have branchesGiven : branches ≠ [] := by
    rintro rfl
    exact given rfl
  refine succeeds_iff.mpr ⟨_, matching_eq_ok.mpr ⟨branchesGiven, ?_, distinct, rfl⟩⟩
  exact fun branch member => groupsGiven _ (List.mem_map_of_mem member)

/-- Numbers always have an order. -/
theorem increasing?_ne_none {breakpoints : List (Expr Rat)}
    (numbers : ∀ breakpoint ∈ breakpoints, IsNumber breakpoint) :
    increasing? breakpoints ≠ none := by
  induction breakpoints with
  | nil => simp [increasing?]
  | cons first rest ih =>
      cases rest with
      | nil => simp [increasing?]
      | cons second others =>
          obtain ⟨⟨left, rfl⟩, restNumbers⟩ := List.forall_mem_cons.mp numbers
          obtain ⟨⟨right, rfl⟩, _⟩ := List.forall_mem_cons.mp restNumbers
          simp only [increasing?, precedes?_numbers]
          cases decide (left.exact < right.exact) with
          | true => exact ih restNumbers
          | false => simp

/-- A curve through numbers is refused as invalid, if it is refused. -/
theorem faults_linear (numbers : ∀ stop ∈ stops, IsNumber stop.1) :
    Faults (fun fault => fault.nature = .invalid) (linear input stops) := by
  have checked : Faults (fun fault => fault.nature = .invalid)
      (checkIncreasing .interpolate (stops.map Prod.fst) : Result Rat Unit) := by
    unfold checkIncreasing
    split
    · exact Faults.ok
    · exact Faults.error_iff.mpr rfl
    · rename_i unordered
      exact absurd unordered (increasing?_ne_none (List.forall_mem_map.mpr numbers))
  unfold linear curve
  cases stops with
  | nil => exact Faults.error_iff.mpr rfl
  | cons first rest => exact checked.bind fun _ _ => Faults.pure

/-! ### Values that change with the zoom -/

/-- Stops that ascend make a curve, if there are any. -/
theorem succeeds_linear_stopPairs {found : Stops Rat} (rising : Zoom.Rising found)
    (given : found ≠ []) : Succeeds (linear input (stopPairs found)) := by
  have keys : (stopPairs found).map Prod.fst = (found.map Prod.fst).map Expr.number := by
    simp [stopPairs]
  exact succeeds_linear _ keys (mt List.map_eq_nil_iff.mp given) (List.pairwise_map.mpr rising)

theorem succeeds_zoomWidth {mapping : Option (ZoomStops Rat)}
    (short : ShortKeys (mapping.getD [])) : Succeeds (zoomWidth mapping fallback) := by
  apply (returns_lift.mpr (Zoom.returns_normalize short)).bind
  intro found rising
  split
  · exact Returns.pure_iff.mpr trivial
  · rename_i many
    apply succeeds_linear_stopPairs rising
    rintro rfl
    exact many (by simp)

/-- The curve always exists: before the largest zoom there is a stop only if it is larger. -/
theorem succeeds_zoomFade {minZoom maxZoom : Number Rat} {start full : Expr Rat} :
    Succeeds (zoomFade minZoom maxZoom start full) := by
  have later : maxZoom.exact < maxZoom.next.exact := by
    rw [Number.exact_next]
    linarith
  unfold zoomFade
  simp only [Number.lt_eq_decide, decide_eq_true_eq]
  split
  · rename_i rising
    apply succeeds_linear [minZoom, maxZoom, maxZoom.next] rfl (by simp)
    simp [Ascend, rising, later, rising.trans later]
  · apply succeeds_linear [maxZoom, maxZoom.next] rfl (by simp)
    simp [Ascend, later]

theorem succeeds_rangeCurve {range : ValueRange Rat} {minZoom maxZoom : Number Rat}
    (rising : minZoom.exact < maxZoom.exact) : Succeeds (rangeCurve range minZoom maxZoom) :=
  succeeds_linear [minZoom, maxZoom] rfl (by simp) (by simp [Ascend, rising])

theorem succeeds_rangeValue {setting : RangeSetting Rat} {minZoom maxZoom : Number Rat}
    {fallback : ValueRange Rat} (rising : minZoom.exact < maxZoom.exact) :
    Succeeds (rangeValue setting minZoom maxZoom fallback) := by
  cases setting with
  | unset => exact succeeds_rangeCurve rising
  | fixed value => exact Returns.ok_iff.mpr trivial
  | range range => exact succeeds_rangeCurve rising

theorem succeeds_zoomStops {mapping : Option (ZoomStops Rat)}
    {defaults : List (Number Rat × Expr Rat)}
    (short : ShortKeys (mapping.getD [])) (given : defaults.map Prod.fst ≠ [])
    (ascend : Ascend (defaults.map Prod.fst)) : Succeeds (zoomStops mapping defaults) := by
  unfold zoomStops
  refine (Returns.mapM_map (fun fallback => Expr.number fallback.1) Prod.fst ?_).bind ?_
  · rintro ⟨zoomLevel, fallback⟩ _
    apply (returns_lift.mpr (Zoom.succeeds_valueOr short)).bind
    intro value _
    exact Returns.pure_iff.mpr rfl
  · intro pairs keys
    exact succeeds_linear _ (keys.trans List.map_map.symm) given ascend

end Expr

namespace RoadWidths

/-- No text among the keys of any row is too long. -/
structure ShortKeys (widths : RoadWidths Rat) : Prop where
  fallback : MapStyle.ShortKeys (widths.fallback.getD [])
  row : ∀ roadClass, MapStyle.ShortKeys ((widths.row roadClass).getD [])

variable {widths : RoadWidths Rat} {featureClass : String}

theorem ShortKeys.rowOf (short : widths.ShortKeys) :
    MapStyle.ShortKeys (widths.rowOf featureClass) := by
  unfold RoadWidths.rowOf
  simp only
  cases RoadClass.ofName? _ with
  | none => simp [MapStyle.ShortKeys]
  | some roadClass => exact short.row roadClass

theorem returns_stopsOf (short : widths.ShortKeys) :
    Returns Zoom.Rising (widths.stopsOf featureClass) := by
  apply (Zoom.returns_normalize short.fallback).bind
  intro shared sharedRising
  apply (Zoom.returns_normalize short.rowOf).bind
  intro own _
  exact Returns.pure_iff.mpr (Zoom.rising_foldl_setStop sharedRising)

theorem succeeds_widthAt {zoom fallback : Number Rat} (short : widths.ShortKeys) :
    Succeeds (widths.widthAt featureClass zoom fallback) := by
  apply (returns_stopsOf short).bind
  intro stops rising
  cases stops with
  | nil => exact Returns.pure_iff.mpr trivial
  | cons first rest =>
      simp only
      split
      · exact Returns.pure_iff.mpr trivial
      · exact Zoom.succeeds_valueAt rising

theorem succeeds_widthMatch {zoom scale : Number Rat} (short : widths.ShortKeys) :
    Succeeds (widths.widthMatch zoom scale) := by
  apply succeeds_widthMatch_iff.mpr
  intro name
  apply (succeeds_widthAt short).bind
  intro width _
  exact Number.returns_mul.succeeds

/-- The widths by class at several zooms, as stops at these zooms. -/
theorem returns_widthStops {zooms : List (Number Rat)} (short : widths.ShortKeys) :
    Returns (fun stops => stops.map Prod.fst = zooms.map Expr.number)
      (zooms.mapM fun zoom => do
        return (Expr.number zoom, ← widths.widthMatch zoom 1) :
        Result Rat (List (Expr Rat × Expr Rat))) := by
  apply Returns.mapM_map Expr.number Prod.fst
  intro zoom _
  exact (succeeds_widthMatch short).bind fun _ _ => Returns.pure_iff.mpr rfl

theorem succeeds_linearWidth (short : widths.ShortKeys) : Succeeds widths.linearWidth := by
  apply (returns_widthStops short).bind
  intro stops keys
  exact Expr.succeeds_linear curveZooms keys (by simp [curveZooms])
    (by norm_num [Ascend, curveZooms])

/-- The stops below the start, the start and the last zoom ascend. -/
theorem ascend_realWorldZooms {start last : Number Rat} (below : start.exact < last.exact) :
    Ascend ((((curveZooms (F := Rat)).take 2).filter fun zoom => zoom.lt start) ++
      [start, last]) := by
  have fixed : Ascend ((curveZooms (F := Rat)).take 2) := by norm_num [Ascend, curveZooms]
  refine List.pairwise_append.mpr ⟨fixed.filter _, by simp [below], ?_⟩
  intro zoom member later laterMember
  have beforeStart : zoom.exact < start.exact := by simpa using (List.mem_filter.mp member).2
  simp only [List.mem_cons, List.not_mem_nil, or_false] at laterMember
  obtain rfl | rfl := laterMember
  · exact beforeStart
  · exact beforeStart.trans below

theorem succeeds_realWorldWidth {start : Number Rat} (short : widths.ShortKeys)
    (below : start.exact < lastScaleZoom) : Succeeds (widths.realWorldWidth start) := by
  unfold realWorldWidth
  have underLast : start.exact < (Number.int lastScaleZoom : Number Rat).exact := below
  have notOver : (Number.int lastScaleZoom : Number Rat).le start = false := by
    simpa using underLast
  simp only [notOver, Bool.false_eq_true, if_false]
  apply (returns_widthStops short).bind
  intro before beforeKeys
  apply (succeeds_widthMatch short).bind
  intro atStart _
  apply (returns_lift.mpr Number.returns_sub).bind
  intro distance _
  apply (returns_lift.mpr Number.succeeds_twoPow).bind
  intro scale _
  apply (succeeds_widthMatch short).bind
  intro atLast _
  refine Expr.succeeds_exponential _ ?_ ?_ (ascend_realWorldZooms underLast)
  · simp [beforeKeys]
  · simp

theorem succeeds_widthFor {settings : ThemeSettings Rat} (short : widths.ShortKeys)
    (startBelow : ∃ start, settings.realWorldScaleMinZoom = some start ∧
      start.exact < lastScaleZoom) : Succeeds (widths.widthFor settings) := by
  obtain ⟨start, found, below⟩ := startBelow
  unfold widthFor
  split
  · rw [found]
    exact succeeds_realWorldWidth short below
  · exact succeeds_linearWidth short

end RoadWidths

/-! ### Colours by class and by height -/

namespace Theme

variable {theme : Theme Rat} {category : Category} {property : String}

theorem succeeds_colourMatch {classes : List String} {fallback : Option String}
    (given : classes ≠ [])
    (checked : (Expr.checkLabels (classes.map Expr.text : List (Expr Rat))).isOk = true) :
    Succeeds (theme.colourMatch category classes property fallback) :=
  Expr.succeeds_matching (by rw [List.map_map]; rfl) (by simpa using given) checked

theorem checked_classes (category : Category) :
    (Expr.checkLabels (category.classes.map Expr.text : List (Expr Rat))).isOk = true := by
  cases category <;> decide +kernel

theorem succeeds_classColour : Succeeds (theme.classColour category property) := by
  unfold classColour
  split
  · exact Returns.ok_iff.mpr trivial
  · refine succeeds_colourMatch ?_ (checked_classes category)
    cases category <;> decide

theorem succeeds_majorRoadLine : Succeeds theme.majorRoadLine :=
  succeeds_colourMatch (by decide) (by decide +kernel)

theorem succeeds_buildingFill {heightsFrom : Option (Number Rat)} :
    Succeeds (theme.buildingFill heightsFrom) := by
  unfold buildingFill
  refine (Expr.succeeds_linear (tierHeights.map fun tier => .int tier.1) ?_ ?_ ?_).bind ?_
  · simp
  · simp [tierHeights]
  · norm_num [Ascend, tierHeights]
  · intro byHeight _
    cases heightsFrom with
    | none => exact Returns.pure_iff.mpr trivial
    | some zoom =>
        apply (returns_lift.mpr Number.returns_sub).bind
        intro breakpoint _
        exact Expr.succeeds_oneStep _ _

end Theme

end MapStyle
