import MapStyle.Proofs.Number.Double
import MapStyle.Proofs.Number.Laws
import MapStyle.Proofs.Width.Match
import MapStyle.Proofs.Zoom.Quantity

/-!
# Road widths as resolved

Both width curves of roads have at their stops the width that every class has there. A curve exists
exactly if all these widths do; its stops lie at fixed zooms or follow from the zoom at which the
widths begin to double.
-/

namespace MapStyle

set_option autoImplicit false

variable {F : Type} [Arithmetic F]

namespace Number

/-- A number below an integer is not at it or above it. -/
theorem not_le_of_lt_int {number : Number F} {whole : Int} (below : number.lt (.int whole) = true) :
    (Number.int whole : Number F).le number = false := by
  cases found : number.view with
  | inl value =>
      have order : compare value whole = .lt := by
        simpa [lt, order?, found, view_int] using below
      have swapped : compare whole value = .gt := by
        rw [← Int.compare_swap, order]
        rfl
      simp [le, order?, found, view_int, swapped]
  | inr value =>
      have order : Arithmetic.orderWhole? value whole = some .lt := by
        simpa [lt, order?, found, view_int] using below
      simp [le, order?, found, view_int, order]

end Number

namespace RoadWidths

open MapStyle.Expr (Climb Gives)

variable {widths : RoadWidths F} {zoom start : Number F}

/-! ### Stops -/

/-- The width of a class at a zoom. -/
def resolvedWidth (widths : RoadWidths F) (zoom : Number F) (featureClass : String) :
    Except NumberError (Number F) :=
  widths.widthAt featureClass zoom widthWithoutStops

/-- Every class has a width at a zoom. -/
def ResolvedAt (widths : RoadWidths F) (zoom : Number F) : Prop :=
  ∀ featureClass, Succeeds (widths.resolvedWidth zoom featureClass)

/-- Stops at zooms, each with the widths there. -/
def ShowsWidths (widths : RoadWidths F) (zooms : List (Number F)) (stops : List (Expr F × Expr F)) :
    Prop :=
  List.Forall₂ (fun zoom stop => stop.1 = .number zoom ∧ Gives (widths.resolvedWidth zoom) stop.2)
    zooms stops

theorem ShowsWidths.keys {zooms : List (Number F)} {stops : List (Expr F × Expr F)}
    (shows : widths.ShowsWidths zooms stops) : stops.map Prod.fst = zooms.map Expr.number := by
  induction shows with
  | nil => rfl
  | cons stopShows _ ih => rw [List.map_cons, List.map_cons, stopShows.1, ih]

def widthStops (widths : RoadWidths F) (zooms : List (Number F)) :
    Result F (List (Expr F × Expr F)) :=
  zooms.mapM fun zoom => do return (Expr.number zoom, ← widths.widthMatch zoom 1)

/-! ### The curve that doubles, step by step -/

/-- The zooms of the stops before the last one: the fixed ones below the start, and the start. -/
def scaleZooms (start : Number F) : List (Number F) :=
  ((curveZooms.take 2).filter fun zoom => zoom.lt start) ++ [start]

theorem start_mem_scaleZooms : start ∈ scaleZooms start :=
  List.mem_append_right _ (List.mem_singleton_self start)

theorem climb_scaleZooms (below : start.lt (.int lastScaleZoom) = true) :
    Climb (scaleZooms start ++ [.int lastScaleZoom]) := by
  have fixed : (6 : Number F).lt 12 = true := Number.lt_int 6 12
  have zooms : (curveZooms.take 2 : List (Number F)) = [6, 12] := rfl
  rw [Climb, scaleZooms, zooms]
  cases low : (6 : Number F).lt start <;> cases high : (12 : Number F).lt start <;>
    simp [low, high, fixed, below]

/-- By what a width grows from a start to the last zoom. -/
def growthFrom (start : Number F) : Except NumberError (Number F) := do
  (← (Number.int lastScaleZoom).sub start).twoPow

def widthAtLast (widths : RoadWidths F) (start : Number F) (featureClass : String) :
    Except NumberError (Number F) := do
  let growth ← growthFrom start
  widths.scaledWidth start growth featureClass

theorem widthStops_append_eq_ok {zooms : List (Number F)} {stops : List (Expr F × Expr F)} :
    widths.widthStops (zooms ++ [start]) = .ok stops ↔
      ∃ before atStart, widths.widthStops zooms = .ok before ∧
        widths.widthMatch start 1 = .ok atStart ∧ before ++ [(.number start, atStart)] = stops := by
  rw [widthStops, mapM_append_singleton_eq_ok]
  simp only [bind_eq_ok, pure, Except.pure, Except.ok.injEq]
  constructor
  · rintro ⟨before, _, beforeFound, ⟨atStart, startFound, rfl⟩, rfl⟩
    exact ⟨before, atStart, beforeFound, startFound, rfl⟩
  · rintro ⟨before, atStart, beforeFound, startFound, rfl⟩
    exact ⟨before, _, beforeFound, ⟨atStart, startFound, rfl⟩, rfl⟩

/-- What is computed on the way to the curve. -/
theorem realWorldWidth_eq_ok {result : Expr F} (below : start.lt (.int lastScaleZoom) = true) :
    widths.realWorldWidth start = .ok result ↔
      ∃ stops growth final, widths.widthStops (scaleZooms start) = .ok stops ∧
        growthFrom start = .ok growth ∧ widths.widthMatch start growth = .ok final ∧
        Expr.exponential 2 Expr.zoom (stops ++ [(.number (.int lastScaleZoom), final)]) =
          .ok result := by
  unfold realWorldWidth
  simp only [Number.not_le_of_lt_int below, Bool.false_eq_true, if_false, bind_eq_ok, lift_eq_ok,
    growthFrom, scaleZooms, widthStops_append_eq_ok]
  constructor
  · rintro ⟨before, beforeFound, atStart, startFound, distance, distanceFound, growth, grown,
      final, finalFound, built⟩
    refine ⟨_, growth, final, ⟨before, atStart, beforeFound, startFound, rfl⟩,
      ⟨distance, distanceFound, grown⟩, finalFound, ?_⟩
    rw [List.append_assoc]
    exact built
  · rintro ⟨_, growth, final, ⟨before, atStart, beforeFound, startFound, rfl⟩,
      ⟨distance, distanceFound, grown⟩, finalFound, built⟩
    refine ⟨before, beforeFound, atStart, startFound, distance, distanceFound, growth, grown,
      final, finalFound, ?_⟩
    rw [List.append_assoc] at built
    exact built

/-- The stops up to the start and the last one. -/
def ShowsScaled (widths : RoadWidths F) (start : Number F) (result : Expr F) : Prop :=
  ∃ stops final,
    result = Expr.curveNode (.op "exponential" [2]) Expr.zoom
      (stops ++ [(.number (.int lastScaleZoom), final)]) ∧
    widths.ShowsWidths (scaleZooms start) stops ∧ Gives (widths.widthAtLast start) final

theorem widthAtLast_eq {growth : Number F} (grown : growthFrom start = .ok growth) :
    widths.widthAtLast start = widths.scaledWidth start growth := by
  funext featureClass
  unfold widthAtLast
  rw [grown]
  rfl

theorem exponential_eq_ok {stops : List (Expr F × Expr F)} {final : Expr F}
    (below : start.lt (.int lastScaleZoom) = true)
    (shows : widths.ShowsWidths (scaleZooms start) stops) :
    Expr.exponential 2 Expr.zoom (stops ++ [(.number (.int lastScaleZoom), final)]) =
      .ok (Expr.curveNode (.op "exponential" [2]) Expr.zoom
        (stops ++ [(.number (.int lastScaleZoom), final)])) := by
  apply Expr.curve_of_climb (climb_scaleZooms below)
  · rw [List.map_append, List.map_append, shows.keys]
    rfl
  · simp

/-! ### Widths at stops -/

variable [RoundedArithmetic F] {zooms : List (Number F)}

theorem scaledWidth_one : widths.scaledWidth zoom 1 = widths.resolvedWidth zoom := by
  funext featureClass
  unfold scaledWidth resolvedWidth
  cases found : widths.widthAt featureClass zoom widthWithoutStops with
  | error fault => rfl
  | ok width =>
      have quantity : width.IsQuantity := isQuantity_widthAt (Number.isQuantity_real _) width found
      exact Number.mul_one quantity

theorem showsWidths_widthStops :
    Ensures (widths.ShowsWidths zooms) (widths.widthStops zooms) := by
  apply Ensures.mapM
  intro zoom _
  refine gives_widthMatch.andThen fun output gives => ?_
  rw [scaledWidth_one] at gives
  exact Ensures.pure_iff.mpr ⟨rfl, gives⟩

theorem succeeds_widthStops_iff :
    Succeeds (widths.widthStops zooms) ↔ ∀ zoom ∈ zooms, widths.ResolvedAt zoom := by
  have atZoom (zoom : Number F) :
      Succeeds (do return (Expr.number zoom, ← widths.widthMatch zoom 1) :
        Result F (Expr F × Expr F)) ↔ widths.ResolvedAt zoom := by
    rw [succeeds_bind_iff, ResolvedAt, ← scaledWidth_one, ← succeeds_widthMatch_iff,
      succeeds_iff]
    simp
  simp only [widthStops, succeeds_mapM_iff, atZoom]

/-! ### The linear curve -/

/-- The three stops of the linear curve. -/
def ShowsLinear (widths : RoadWidths F) (result : Expr F) : Prop :=
  ∃ stops, result = Expr.curveNode (.op "linear" []) Expr.zoom stops ∧
    widths.ShowsWidths curveZooms stops

omit [RoundedArithmetic F] in
theorem linear_eq_ok {stops : List (Expr F × Expr F)}
    (shows : widths.ShowsWidths curveZooms stops) :
    Expr.linear Expr.zoom stops = .ok (Expr.curveNode (.op "linear" []) Expr.zoom stops) := by
  have climb : Climb (curveZooms : List (Number F)) := by
    refine List.isChain_cons_cons.mpr ⟨Number.lt_int 6 12, ?_⟩
    refine List.isChain_cons_cons.mpr ⟨Number.lt_int 12 15, ?_⟩
    exact List.isChain_singleton _
  exact Expr.curve_of_climb climb shows.keys (by simp [curveZooms])

theorem showsLinear_linearWidth : Ensures widths.ShowsLinear widths.linearWidth := by
  refine showsWidths_widthStops.andThen fun stops shows => ?_
  rw [linear_eq_ok shows]
  exact Ensures.ok_iff.mpr ⟨stops, rfl, shows⟩

theorem succeeds_linearWidth_iff :
    Succeeds widths.linearWidth ↔ ∀ zoom ∈ curveZooms, widths.ResolvedAt zoom := by
  rw [← succeeds_widthStops_iff]
  constructor
  · intro succeeds
    obtain ⟨stops, stopsFound, _⟩ := succeeds_bind_iff.mp succeeds
    exact succeeds_iff.mpr ⟨stops, stopsFound⟩
  · intro succeeds
    obtain ⟨stops, stopsFound⟩ := succeeds_iff.mp succeeds
    have shows := showsWidths_widthStops stops stopsFound
    exact succeeds_bind_iff.mpr ⟨stops, stopsFound, succeeds_iff.mpr ⟨_, linear_eq_ok shows⟩⟩

/-! ### The curve that doubles -/

theorem showsScaled_realWorldWidth (below : start.lt (.int lastScaleZoom) = true) :
    Ensures (widths.ShowsScaled start) (widths.realWorldWidth start) := by
  intro result found
  obtain ⟨stops, growth, final, stopsFound, grown, finalFound, built⟩ :=
    (realWorldWidth_eq_ok below).mp found
  have shows := showsWidths_widthStops stops stopsFound
  rw [exponential_eq_ok below shows] at built
  cases built
  refine ⟨stops, final, rfl, shows, ?_⟩
  rw [widthAtLast_eq grown]
  exact gives_widthMatch final finalFound

theorem succeeds_realWorldWidth_iff (below : start.lt (.int lastScaleZoom) = true) :
    Succeeds (widths.realWorldWidth start) ↔
      (∀ zoom ∈ scaleZooms start, widths.ResolvedAt zoom) ∧
        ∀ featureClass, Succeeds (widths.widthAtLast start featureClass) := by
  rw [← succeeds_widthStops_iff]
  constructor
  · intro succeeds
    obtain ⟨result, found⟩ := succeeds_iff.mp succeeds
    obtain ⟨stops, growth, final, stopsFound, grown, finalFound, _⟩ :=
      (realWorldWidth_eq_ok below).mp found
    rw [widthAtLast_eq grown]
    exact ⟨succeeds_iff.mpr ⟨stops, stopsFound⟩,
      succeeds_widthMatch_iff.mp (succeeds_iff.mpr ⟨final, finalFound⟩)⟩
  · rintro ⟨stopsSucceed, lastSucceeds⟩
    obtain ⟨stops, stopsFound⟩ := succeeds_iff.mp stopsSucceed
    obtain ⟨growth, grown, _⟩ := succeeds_bind_iff.mp (lastSucceeds "")
    rw [widthAtLast_eq grown] at lastSucceeds
    obtain ⟨final, finalFound⟩ := succeeds_iff.mp (succeeds_widthMatch_iff.mpr lastSucceeds)
    have shows := showsWidths_widthStops stops stopsFound
    have built : Expr.exponential 2 Expr.zoom (stops ++ [(.number (.int lastScaleZoom), final)]) =
        .ok _ := exponential_eq_ok below shows
    exact succeeds_iff.mpr ⟨_, (realWorldWidth_eq_ok below).mpr
      ⟨stops, growth, final, stopsFound, grown, finalFound, built⟩⟩

/-- Both curves have the width of every class at their stops, and are refused only if a class has
no width there. Residential roads and those drawn like them share a width, and a class without a
row has the default one. -/
theorem curves_as_resolved (widths : RoadWidths F) :
    ((Succeeds widths.linearWidth ↔ ∀ zoom ∈ curveZooms, widths.ResolvedAt zoom) ∧
      Ensures widths.ShowsLinear widths.linearWidth) ∧
    (∀ start : Number F, start.lt (.int lastScaleZoom) = true →
      (Succeeds (widths.realWorldWidth start) ↔
        (∀ zoom ∈ scaleZooms start, widths.ResolvedAt zoom) ∧
          ∀ featureClass, Succeeds (widths.widthAtLast start featureClass)) ∧
      Ensures (widths.ShowsScaled start) (widths.realWorldWidth start)) ∧
    (∀ featureClass ∈ residentialAliases, ∀ zoom,
      widths.resolvedWidth zoom featureClass = widths.resolvedWidth zoom "residential") ∧
    (∀ featureClass, featureClass ∉ Filter.normalRoadClasses →
      widths.stopsOf featureClass = Zoom.normalize (widths.fallback.getD [])) := by
  refine ⟨⟨succeeds_linearWidth_iff, showsLinear_linearWidth⟩, ?_, ?_, ?_⟩
  · intro start below
    exact ⟨succeeds_realWorldWidth_iff below, showsScaled_realWorldWidth below⟩
  · intro featureClass isAlias zoom
    exact widthAt_congr (RoadClass.drawn?_of_alias isAlias)
  · intro featureClass unknown
    exact stopsOf_of_unknown unknown

/-- The standard widths in double precision. -/
theorem standard_curve_as_resolved :
    (15 : Number Float).lt (.int lastScaleZoom) = true ∧
      Returns ((standard : RoadWidths Float).ShowsScaled 15)
        ((standard : RoadWidths Float).realWorldWidth 15) := by
  have below : (15 : Number Float).lt (.int lastScaleZoom) = true := by decide
  obtain ⟨result, found⟩ : ∃ result, (standard : RoadWidths Float).realWorldWidth 15 = .ok result :=
    exists_of_isOk (by decide +kernel)
  obtain ⟨_, shows⟩ := (curves_as_resolved (standard : RoadWidths Float)).2.1 15 below
  exact ⟨below, result, found, shows result found⟩

end RoadWidths

end MapStyle
