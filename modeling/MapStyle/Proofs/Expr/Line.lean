import Mathlib.Tactic.FieldSimp
import MapStyle.Expr.Width
import MapStyle.Proofs.Expr.Choice
import MapStyle.Proofs.Number.Exact
import MapStyle.Proofs.Number.Laws
import MapStyle.Proofs.Number.Line

/-!
# Curves followed in straight lines

The value of a linear curve at a zoom, in exact numbers: it runs straight from stop to stop and is
held beyond the ends. All numbers of a curve have to be finite for it to have values, but nothing
is rounded on the way, in whichever arithmetic the curve was made.
-/

namespace MapStyle

set_option autoImplicit false

variable {F : Type} [Arithmetic F]

namespace Expr

/-- What a curve fades out to. -/
def nothing : Expr F := 0.0

/-- The value of a finite constant. -/
def rational? : Expr F → Option Rat
  | .number value => value.rational?
  | _ => none

/-- The points that the stops of a curve stand for. -/
def points? : List (Expr F) → Option (List Point)
  | [] => some []
  | [_] => none
  | key :: value :: rest => do return (← key.rational?, ← value.rational?) :: (← points? rest)

/-- The value at a zoom of a curve that is followed in straight lines, or of a constant. -/
def linearAt? (value : Expr F) (place : Rat) : Option Rat :=
  match value with
  | .op "interpolate" (.op "linear" [] :: .op "zoom" [] :: stops) => do
      Point.along (← points? stops) place
  | constant => constant.rational?

/-- A stop of a curve lies at a point. -/
def LiesAt (stop : Expr F × Expr F) (point : Point) : Prop :=
  stop.1.rational? = some point.1 ∧ stop.2.rational? = some point.2

variable {curve value : Expr F} {stops : List (Expr F × Expr F)} {points : List Point}

theorem points?_alternating (lie : List.Forall₂ LiesAt stops points) :
    points? (alternating stops) = some points := by
  induction lie with
  | nil => rfl
  | @cons stop point rest others lies _ ih =>
      show stop.1.rational?.bind (fun key => stop.2.rational?.bind fun value =>
        (points? (alternating rest)).bind fun tail => some ((key, value) :: tail)) = _
      rw [lies.1, lies.2, ih]
      rfl

/-- The points of the stops of a curve over the zoom that is followed in straight lines. -/
def stopPoints? : Expr F → Option (List Point)
  | .op "interpolate" (.op "linear" [] :: .op "zoom" [] :: stops) => points? stops
  | _ => none

theorem linearAt?_of_stopPoints? (found : curve.stopPoints? = some points) (place : Rat) :
    curve.linearAt? place = Point.along points place := by
  unfold stopPoints? at found
  split at found
  · rw [linearAt?, found]
    rfl
  · cases found

theorem stopPoints?_linear (found : linear zoom stops = .ok curve)
    (lie : List.Forall₂ LiesAt stops points) : curve.stopPoints? = some points := by
  obtain ⟨_, _, rfl⟩ := curve_eq_ok.mp found
  exact points?_alternating lie

theorem linearAt?_linear (found : linear zoom stops = .ok curve)
    (lie : List.Forall₂ LiesAt stops points) (place : Rat) :
    curve.linearAt? place = Point.along points place :=
  linearAt?_of_stopPoints? (stopPoints?_linear found lie) place

/-- Where two stops of a curve follow each other, so do their points. -/
theorem LiesAt.apart [OrderedArithmetic F] {first second : Number F} {firstValue secondValue : Rat}
    {rest : List (Expr F)} (ascending : Ascending (.number first :: .number second :: rest))
    (firstFinite : first.rational? = some firstValue)
    (secondFinite : second.rational? = some secondValue) : firstValue < secondValue := by
  obtain ⟨below, _⟩ := List.isChain_cons_cons.mp ascending
  rw [precedes?, Option.some_inj] at below
  exact decide_eq_true_iff.mp ((Number.lt_of_finite firstFinite secondFinite).symm.trans below)

section Fade

variable [OrderedArithmetic F] {minZoom maxZoom : Number F} {least largest last full : Rat}
  (found : zoomFade minZoom maxZoom value value = .ok curve)
  (isLeast : minZoom.rational? = some least) (isLargest : maxZoom.rational? = some largest)
  (isLast : maxZoom.next.rational? = some last) (isFull : value.rational? = some full)
  (isNothing : (nothing : Expr F).rational? = some 0)

include found isLeast isLargest isLast isFull isNothing

/-- A curve that starts with its full value need not have a stop for its start. -/
theorem linearAt?_zoomFade_eq_along :
    largest < last ∧
      ∀ place, curve.linearAt? place = Point.along [(largest, full), (last, 0)] place := by
  have ending : List.Forall₂ LiesAt [(.number maxZoom, value), (.number maxZoom.next, 0.0)]
      [(largest, full), (last, 0)] :=
    .cons ⟨isLargest, isFull⟩ (.cons ⟨isLast, isNothing⟩ .nil)
  have start : LiesAt (.number minZoom, value) (least, full) := ⟨isLeast, isFull⟩
  unfold zoomFade at found
  split at found
  · rename_i rises
    obtain ⟨_, ascending, _⟩ := curve_eq_ok.mp found
    have startApart : least < largest :=
      decide_eq_true_iff.mp ((Number.lt_of_finite isLeast isLargest).symm.trans rises)
    refine ⟨LiesAt.apart (List.isChain_cons_cons.mp ascending).2 isLargest isLast, fun place => ?_⟩
    have level : Point.along [(least, full), (largest, full), (last, 0)] place =
      Point.along [(largest, full), (last, 0)] place := Point.along_level startApart rfl
    exact (linearAt?_linear found (.cons start ending) place).trans level
  · obtain ⟨_, ascending, _⟩ := curve_eq_ok.mp found
    exact ⟨LiesAt.apart ascending isLargest isLast, linearAt?_linear found ending⟩

/-- What keeps its full value up to a largest zoom and fades out over the following one. -/
theorem linearAt?_zoomFade :
    largest < last ∧ (∀ place ≤ largest, curve.linearAt? place = some full) ∧
      ∀ place, largest ≤ place → place ≤ last →
        curve.linearAt? place = some (full * ((last - place) / (last - largest))) := by
  obtain ⟨apart, follows⟩ :=
    linearAt?_zoomFade_eq_along found isLeast isLargest isLast isFull isNothing
  refine ⟨apart, fun place notAfter => ?_, fun place reached notAfter => ?_⟩
  · rw [follows, Point.along_of_le_first notAfter]
  · have way : last - largest ≠ 0 := (sub_pos.mpr apart).ne'
    rw [follows, Point.along_first apart reached notAfter, Point.between, Option.some_inj]
    field_simp
    ring

end Fade

/-! ### Over exact arithmetic -/

theorem rational?_number (value : Number Rat) : (number value).rational? = some value.exact := by
  show value.rational? = _
  unfold Number.rational? Number.exact
  cases value.view <;> rfl

theorem linearAt?_number (value : Number Rat) (place : Rat) :
    (number value).linearAt? place = some value.exact :=
  rational?_number value

theorem liesAt_numbers (key value : Number Rat) :
    LiesAt (.number key, .number value) (key.exact, value.exact) :=
  ⟨rational?_number key, rational?_number value⟩

theorem rational?_nothing : (nothing : Expr Rat).rational? = some 0 := by
  decide +kernel

/-- A curve that starts below its largest zoom has three stops. -/
theorem stopPoints?_zoomFade {minZoom maxZoom start full : Number Rat} {curve : Expr Rat}
    (rises : minZoom.exact < maxZoom.exact)
    (found : zoomFade minZoom maxZoom (.number start) (.number full) = .ok curve) :
    curve.stopPoints? =
      some [(minZoom.exact, start.exact), (maxZoom.exact, full.exact), (maxZoom.exact + 1, 0)] := by
  have last : LiesAt (.number maxZoom.next, nothing) (maxZoom.exact + 1, 0) :=
    ⟨(rational?_number _).trans (congrArg some Number.exact_next), rational?_nothing⟩
  unfold zoomFade at found
  rw [if_pos (Number.lt_eq_decide.trans (decide_eq_true rises))] at found
  exact stopPoints?_linear found
    (.cons (liesAt_numbers minZoom start) (.cons (liesAt_numbers maxZoom full) (.cons last .nil)))

end Expr

end MapStyle
