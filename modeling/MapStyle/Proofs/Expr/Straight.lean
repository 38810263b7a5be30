import MapStyle.Proofs.Expr.Interpolated
import MapStyle.Proofs.Expr.Line
import MapStyle.Proofs.Expr.Total
import MapStyle.Proofs.Zoom.Stops

/-!
# What is shown in straight lines

A renderer over exact arithmetic that joins the stops of linear curves in straight lines, and that
adds and multiplies numbers. Whatever the outputs of a linear curve are shown as, the curve is shown
as the value on the line through them; so a curve may stand inside the output of another one. With
two stops or more the curve of a setting runs through all of them and is shown as the value along
them.
-/

namespace MapStyle

set_option autoImplicit false

namespace Renderer

/-- The value between two stops of a linear curve lies on the straight line through them, and sums
and products of numbers have the values that their names promise. -/
structure IsStraight (renderer : Renderer Rat) : Prop where
  joins : ∀ (lower upper : Number Rat × Number Rat) (input : Number Rat),
    lower.1.exact < input.exact → input.exact < upper.1.exact →
    ∃ value, renderer.between? (.op "linear" []) lower upper input = some value ∧
      value.exact = Point.between (Zoom.point lower) (Zoom.point upper) input.exact
  adds : ∀ numbers : List (Number Rat),
    ∃ total, renderer.compute? "+" (numbers.map .number) = some (.number total) ∧
      total.exact = (numbers.map Number.exact).sum
  multiplies : ∀ numbers : List (Number Rat),
    ∃ total, renderer.compute? "*" (numbers.map .number) = some (.number total) ∧
      total.exact = (numbers.map Number.exact).prod

/-- The exact renderer with sums and products. -/
def straight : Renderer Rat where
  between? := exact.between?
  compute? operator values := do
    let numbers ← values.mapM Json.number?
    match operator with
    | "+" => some (.number (.real (numbers.map Number.exact).sum))
    | "*" => some (.number (.real (numbers.map Number.exact).prod))
    | _ => none

theorem mapM_number? (numbers : List (Number Rat)) :
    (numbers.map Json.number).mapM Json.number? = some numbers := by
  induction numbers with
  | nil => rfl
  | cons first rest ih =>
      rw [List.map_cons, List.mapM_cons, ih]
      rfl

theorem isStraight_straight : straight.IsStraight where
  joins _ _ _ _ _ := ⟨_, rfl, rfl⟩
  adds numbers := by
    refine ⟨.real (numbers.map Number.exact).sum, ?_, rfl⟩
    simp only [straight, mapM_number?]
    rfl
  multiplies numbers := by
    refine ⟨.real (numbers.map Number.exact).prod, ?_, rfl⟩
    simp only [straight, mapM_number?]
    rfl

/-- A stop with a number as its value lies at a point. -/
def IsAt (stop : Number Rat × Json Rat) (point : Point) : Prop :=
  stop.1.exact = point.1 ∧ ∃ number, stop.2 = .number number ∧ number.exact = point.2

variable {renderer : Renderer Rat} {stops : List (Number Rat × Json Rat)} {points : List Point}
  {input : Number Rat} {value : Rat}

/-- A linear curve over stops that lie at points is shown on the line through these. -/
theorem along_of_points (isStraight : renderer.IsStraight)
    (related : List.Forall₂ IsAt stops points)
    (onLine : Point.along points input.exact = some value) :
    ∃ number, renderer.along (.op "linear" []) input stops = some (.number number) ∧
      number.exact = value := by
  induction related with
  | nil => cases onLine
  | @cons stop point _ _ isAt others ih =>
      obtain ⟨stopZoom, number, isNumber, isValue⟩ := isAt
      cases others with
      | nil =>
          cases onLine
          exact ⟨number, congrArg some isNumber, isValue⟩
      | @cons next nextPoint _ _ nextIsAt _ =>
          obtain ⟨nextZoom, nextNumber, nextIsNumber, nextIsValue⟩ := nextIsAt
          rw [Renderer.along, Number.le_eq_decide, Number.lt_eq_decide, stopZoom, nextZoom]
          rw [Point.along] at onLine
          simp only [decide_eq_true_eq]
          by_cases notAfter : input.exact ≤ point.1
          · rw [if_pos notAfter] at onLine ⊢
            cases onLine
            exact ⟨number, congrArg some isNumber, isValue⟩
          · rw [if_neg notAfter] at onLine ⊢
            by_cases before : input.exact < nextPoint.1
            · rw [if_pos before] at onLine ⊢
              cases onLine
              have after : stop.1.exact < input.exact := by
                rw [stopZoom]
                exact not_le.mp notAfter
              obtain ⟨between, found, betweenValue⟩ := isStraight.joins (stop.1, number)
                (next.1, nextNumber) input after (nextZoom ▸ before)
              rw [isNumber, nextIsNumber]
              refine ⟨between, ?_, ?_⟩
              · simp [Json.number?, found]
              · rw [betweenValue, Zoom.point, Zoom.point, stopZoom, isValue, nextZoom, nextIsValue]
            · rw [if_neg before] at onLine ⊢
              exact ih onLine

end Renderer

namespace Expr

variable {renderer : Renderer Rat} {scene : Scene Rat}

@[simp] theorem shownAs_number {number : Number Rat} {value : Rat} :
    (Expr.number number).ShownAs renderer scene value ↔ number.exact = value := by
  simp [ShownAs]

/-- An expression is shown as one value only. -/
theorem ShownAs.unique {expression : Expr Rat} {value other : Rat}
    (shown : expression.ShownAs renderer scene value)
    (otherShown : expression.ShownAs renderer scene other) : value = other := by
  obtain ⟨number, found, rfl⟩ := shown
  obtain ⟨otherNumber, otherFound, rfl⟩ := otherShown
  cases found.symm.trans otherFound
  rfl

/-- A stop of a curve is shown at a point. -/
def ShowsPoint (renderer : Renderer Rat) (scene : Scene Rat) (stop : Expr Rat × Expr Rat)
    (point : Point) : Prop :=
  ∃ key, stop.1 = .number key ∧ key.exact = point.1 ∧ stop.2.ShownAs renderer scene point.2

variable {input : Expr Rat} {stops : List (Expr Rat × Expr Rat)} {points : List Point}
  {found : Number Rat} {value : Rat}

theorem exists_showPairs (shows : List.Forall₂ (ShowsPoint renderer scene) stops points) :
    ∃ values, ShowPairs renderer scene stops values ∧
      List.Forall₂ Renderer.IsAt values points := by
  induction shows with
  | nil => exact ⟨[], .nil, .nil⟩
  | cons showsPoint _ ih =>
      obtain ⟨key, isKey, atKey, number, shown, isValue⟩ := showsPoint
      obtain ⟨values, pairs, lie⟩ := ih
      exact ⟨(key, .number number) :: values, .cons ⟨isKey, shown⟩ pairs,
        .cons ⟨atKey, number, rfl, isValue⟩ lie⟩

/-- A linear curve is shown on the line through the points at which its stops are shown. -/
theorem shownAs_linear (isStraight : renderer.IsStraight)
    (inputShown : input.shown renderer scene = some (.number found))
    (shows : List.Forall₂ (ShowsPoint renderer scene) stops points)
    (onLine : Point.along points found.exact = some value) :
    (curveNode (.op "linear" []) input stops).ShownAs renderer scene value := by
  obtain ⟨values, pairs, lie⟩ := exists_showPairs shows
  obtain ⟨number, isShown, isValue⟩ := Renderer.along_of_points isStraight lie onLine
  exact ⟨number, (shown_curveNode inputShown pairs).trans isShown, isValue⟩

variable {left right : Expr Rat} {leftValue rightValue : Rat}
  (leftShown : left.ShownAs renderer scene leftValue)
  (rightShown : right.ShownAs renderer scene rightValue)

include leftShown rightShown

theorem shownAs_sum (isStraight : renderer.IsStraight) :
    (sum [left, right]).ShownAs renderer scene (leftValue + rightValue) := by
  obtain ⟨leftNumber, leftFound, rfl⟩ := leftShown
  obtain ⟨rightNumber, rightFound, rfl⟩ := rightShown
  obtain ⟨total, isTotal, value⟩ := isStraight.adds [leftNumber, rightNumber]
  refine ⟨total, ?_, ?_⟩
  · simpa [sum, shown, shownAll, leftFound, rightFound] using isTotal
  · simpa using value

theorem shownAs_product (isStraight : renderer.IsStraight) :
    (product [left, right]).ShownAs renderer scene (leftValue * rightValue) := by
  obtain ⟨leftNumber, leftFound, rfl⟩ := leftShown
  obtain ⟨rightNumber, rightFound, rfl⟩ := rightShown
  obtain ⟨total, isTotal, value⟩ := isStraight.multiplies [leftNumber, rightNumber]
  refine ⟨total, ?_, ?_⟩
  · simpa [product, shown, shownAll, leftFound, rightFound] using isTotal
  · simpa using value

end Expr

/-! ### The stops of a setting -/

namespace Expr

/-- The stops of a setting lie at the points that they stand for. -/
theorem liesAt_stopPairs (stops : Stops Rat) :
    List.Forall₂ LiesAt (stopPairs stops) (Zoom.points stops) := by
  refine List.forall₂_map_left_iff.mpr (List.forall₂_map_right_iff.mpr (List.forall₂_same.mpr ?_))
  intro stop _
  exact liesAt_numbers stop.1 stop.2

theorem shows_stopPairs (renderer : Renderer Rat) (scene : Scene Rat) (stops : Stops Rat) :
    List.Forall₂ (ShowsPoint renderer scene) (stopPairs stops) (Zoom.points stops) := by
  refine List.forall₂_map_left_iff.mpr (List.forall₂_map_right_iff.mpr (List.forall₂_same.mpr ?_))
  intro stop _
  exact ⟨stop.1, rfl, rfl, shownAs_number.mpr rfl⟩

variable {stops : Option (ZoomStops Rat)} {found : Stops Rat} {fallback : Expr Rat}
  (normalized : Zoom.normalize (stops.getD []) = .ok found)

include normalized

theorem zoomWidth_of_normalize : zoomWidth stops fallback =
    if found.length < 2 then .ok fallback else linear zoom (stopPairs found) := by
  unfold zoomWidth
  rw [normalized]
  rfl

theorem zoomWidth_of_few (few : found.length < 2) : zoomWidth stops fallback = .ok fallback :=
  (zoomWidth_of_normalize normalized).trans (if_pos few)

/-- With two stops or more a setting has a curve of its own. -/
theorem exists_linear_of_many (many : 2 ≤ found.length) :
    ∃ curve, zoomWidth stops fallback = .ok curve ∧ linear zoom (stopPairs found) = .ok curve := by
  have given : found ≠ [] := by
    rintro rfl
    cases many
  obtain ⟨curve, isCurve⟩ := succeeds_iff.mp
    (succeeds_linear_stopPairs (Zoom.ensures_normalize _ normalized) given)
  refine ⟨curve, ?_, isCurve⟩
  rw [zoomWidth_of_normalize normalized, if_neg (not_lt.mpr many)]
  exact isCurve

/-- The curve runs straight through all of the stops. -/
theorem exists_zoomWidth_of_many (many : 2 ≤ found.length) :
    ∃ curve, zoomWidth stops fallback = .ok curve ∧
      ∀ place, curve.linearAt? place = Point.along (Zoom.points found) place := by
  obtain ⟨curve, isWidth, isCurve⟩ := exists_linear_of_many normalized many
  exact ⟨curve, isWidth, linearAt?_linear isCurve (liesAt_stopPairs found)⟩

/-- Where stops are joined in straight lines, the curve is shown as the value along them. -/
theorem exists_shownAs_of_many (many : 2 ≤ found.length) :
    ∃ curve, zoomWidth stops fallback = .ok curve ∧
      ∀ renderer : Renderer Rat, renderer.IsStraight → ∀ scene value,
        Point.along (Zoom.points found) scene.zoom.exact = some value →
        curve.ShownAs renderer scene value := by
  obtain ⟨curve, isWidth, isCurve⟩ := exists_linear_of_many normalized many
  obtain ⟨_, _, rfl⟩ := curve_eq_ok.mp isCurve
  refine ⟨_, isWidth, fun renderer isStraight scene value onLine => ?_⟩
  exact shownAs_linear isStraight shown_zoom (shows_stopPairs renderer scene found) onLine

end Expr

end MapStyle
