import MapStyle.Proofs.Expr.Straight
import MapStyle.Proofs.Number.Path
import MapStyle.Proofs.Zoom.Normalized

/-!
# Stops that are evaluated

Over exact arithmetic a mapping is read unless a text among its keys has too many digits. If one of
its entries gives a value, there is a value at every zoom: the one on the path through the stops,
which is also what the curve of the mapping is shown as.
-/

namespace MapStyle.Zoom

set_option autoImplicit false

open Set (Icc)

variable {stops : ZoomStops Rat} {found : Stops Rat}

theorem succeeds_normalize_iff_readable :
    Succeeds (normalize stops) ↔ ∀ entry ∈ stops, entry.1.Readable := by
  rw [succeeds_normalize_iff]
  exact forall₂_congr fun entry _ => and_iff_left fun _ => fits_rat entry.2

/-- What the values of a mapping's stops are at all zooms. -/
structure IsPathOf (stops : ZoomStops Rat) (found : Stops Rat) (path : Rat → Rat) : Prop where
  follows : Point.Follows (points found) path
  unique : ∀ other, Point.Follows (points found) other → other = path
  continuous : Continuous path
  evaluated : ∀ zoom : Number Rat,
    Returns (fun value => value.exact = path zoom.exact) (evaluate found zoom)
  atStops : ∀ stop ∈ found, path stop.1.exact = stop.2.exact
  within : ∀ least largest, (∀ stop ∈ found, stop.2.exact ∈ Icc least largest) →
    ∀ zoom, path zoom ∈ Icc least largest
  monotone : (found.Pairwise fun earlier later => earlier.2.exact ≤ later.2.exact) → Monotone path
  shown : 2 ≤ found.length → ∀ fallback, ∃ curve, Expr.zoomWidth (some stops) fallback = .ok curve ∧
    ∀ renderer : Renderer Rat, renderer.IsStraight → ∀ scene,
      curve.ShownAs renderer scene (path scene.zoom.exact)

/-- Stops that ascend have the values of the path through them. -/
theorem isPathOf_path (normalized : normalize stops = .ok found) (given : found ≠ []) :
    IsPathOf stops found (Point.path (points found)) := by
  have rising := rising_points (ensures_normalize _ normalized)
  have pointsGiven : points found ≠ [] := mt List.map_eq_nil_iff.mp given
  have follows := Point.follows_path rising
  constructor
  · exact follows
  · exact fun other otherFollows => otherFollows.unique pointsGiven follows
  · exact Point.continuous_path rising
  · intro zoom
    obtain ⟨first, rest, rfl⟩ := List.exists_cons_of_ne_nil given
    show Returns _ (Result.ofNumber (valueAt first rest zoom))
    apply returns_lift.mpr ((returns_valueAt (ensures_normalize _ normalized)).mono _)
    intro value onLine
    rw [Point.along_eq_path pointsGiven] at onLine
    exact (Option.some_inj.mp onLine).symm
  · intro stop member
    exact Point.path_self rising (List.mem_map_of_mem member)
  · intro least largest each zoom
    apply Point.path_mem pointsGiven
    exact List.forall_mem_map.mpr each
  · intro growing
    exact Point.monotone_path rising (List.pairwise_map.mpr growing)
  · intro many fallback
    obtain ⟨curve, isWidth, shown⟩ :=
      @Expr.exists_shownAs_of_many (some stops) found fallback normalized many
    refine ⟨curve, isWidth, fun renderer isStraight scene => ?_⟩
    exact shown renderer isStraight scene _ (Point.along_eq_path pointsGiven)

/-- An entry that gives a value leaves a stop. -/
theorem ne_nil_of_gives {entry : Json Rat × Json Rat} {zoom value : Number Rat}
    (normalized : normalize stops = .ok found) (member : entry ∈ stops)
    (gives : Gives entry zoom value) : found ≠ [] := by
  cases eq_merge_of_normalize normalized
  obtain ⟨place, isPlace, _⟩ := (zoom_of_parseKey _ gives.named zoom rfl).notBelow
  have self : zoom.same zoom = true := Number.same_self_iff.mpr ⟨place, isPlace⟩
  obtain ⟨stop, isStop, _⟩ := ((isNormal_merge fun entry _ => fits_rat entry.2).occurs zoom).mpr
    ⟨entry, member, zoom, value, gives, self⟩
  exact List.ne_nil_of_mem isStop

/-- A mapping with a usable entry is evaluated on the path through its stops, which its curve
follows too. -/
theorem evaluate_on_path (usable : ∃ entry ∈ stops, ∃ zoom value, Gives entry zoom value) :
    (Succeeds (normalize stops) ↔ ∀ entry ∈ stops, entry.1.Readable) ∧
      Ensures (fun found => ∃ path, IsPathOf stops found path) (normalize stops) := by
  obtain ⟨entry, member, zoom, value, gives⟩ := usable
  refine ⟨succeeds_normalize_iff_readable, fun found normalized => ?_⟩
  exact ⟨_, isPathOf_path normalized (ne_nil_of_gives normalized member gives)⟩

/-- From one value to three times as much over six zooms. -/
def widening : ZoomStops Rat :=
  [("z6", 1), ("bogus", 2), ("z12", 3)]

theorem widening_on_path :
    (∃ entry ∈ widening, ∃ zoom value, Gives entry zoom value) ∧
      Returns (fun found => (∃ path, IsPathOf widening found path) ∧
        Returns (fun value => value.exact = 2) (evaluate found 9)) (normalize widening) := by
  have gives : Gives (("z6", 1) : Json Rat × Json Rat) 6 1 :=
    ⟨by with_unfolding_all rfl, rfl, rfl, 1, rfl⟩
  have usable : ∃ entry ∈ widening, ∃ zoom value, Gives entry zoom value :=
    ⟨_, List.mem_cons_self, _, _, gives⟩
  have normalized : normalize widening = .ok [(6, 1), (12, 3)] := by with_unfolding_all rfl
  refine ⟨usable, _, normalized, (evaluate_on_path usable).2 _ normalized, ?_⟩
  exact ⟨.real 2, by with_unfolding_all rfl, rfl⟩

end MapStyle.Zoom
