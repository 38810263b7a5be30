import MapStyle.Expr.Width
import MapStyle.Proofs.Outcome

/-!
# Quantities

The values of stops are quantities and no truth values: a mapping's truth values are dropped, and
what is computed between two stops is never one. So the widths of roads are quantities.
-/

namespace MapStyle

set_option autoImplicit false

variable {F : Type} [Arithmetic F]

namespace Number

def IsQuantity (number : Number F) : Prop :=
  number.isFlag = false

omit [Arithmetic F] in
theorem isQuantity_int (value : Int) : (Number.int value : Number F).IsQuantity :=
  rfl

omit [Arithmetic F] in
theorem isQuantity_real (value : F) : (Number.real value).IsQuantity :=
  rfl

theorem isQuantity_combine {onIntegers : Int → Int → Int} {onReals : F → F → F}
    {left right : Number F} : Ensures IsQuantity (combine onIntegers onReals left right) := by
  unfold combine
  split
  · exact Ensures.ok_iff.mpr (isQuantity_int _)
  · apply Ensures.bind
    intro leftValue _
    apply Ensures.bind
    intro rightValue _
    exact Ensures.ok_iff.mpr (isQuantity_real _)

end Number

open Number (IsQuantity)

namespace Zoom

variable {zoom value : Number F} {stops : Stops F}

/-- Stops whose values are quantities. -/
def AllQuantities (stops : Stops F) : Prop :=
  ∀ stop ∈ stops, stop.2.IsQuantity

theorem allQuantities_setStop (valueHolds : value.IsQuantity) (hold : AllQuantities stops) :
    AllQuantities (setStop zoom value stops) := by
  induction stops with
  | nil => exact List.forall_mem_singleton.mpr valueHolds
  | cons first rest ih =>
      obtain ⟨firstHolds, restHold⟩ := List.forall_mem_cons.mp hold
      unfold setStop
      split
      · exact List.forall_mem_cons.mpr ⟨valueHolds, hold⟩
      · split
        · exact List.forall_mem_cons.mpr ⟨valueHolds, restHold⟩
        · exact List.forall_mem_cons.mpr ⟨firstHolds, ih restHold⟩

theorem allQuantities_foldl_setStop {own : Stops F} (ownHold : AllQuantities own)
    (hold : AllQuantities stops) :
    AllQuantities (own.foldl (fun merged stop => setStop stop.1 stop.2 merged) stops) := by
  induction own generalizing stops with
  | nil => exact hold
  | cons stop rest ih =>
      obtain ⟨stopHolds, restHold⟩ := List.forall_mem_cons.mp ownHold
      exact ih restHold (allQuantities_setStop stopHolds hold)

theorem isQuantity_quantity? (value : Json F) :
    Ensures (fun found => ∀ number ∈ found, number.IsQuantity) (quantity? value) := by
  unfold quantity?
  split
  · split
    · simp
    · rename_i noFlag
      intro found isFound
      obtain ⟨finite, _, rfl⟩ := map_eq_ok.mp isFound
      cases finite with
      | true => simpa [IsQuantity] using noFlag
      | false => simp
  · simp

theorem allQuantities_addEntry {entry : Json F × Json F} (hold : AllQuantities stops) :
    Ensures AllQuantities (addEntry stops entry) := by
  have stopHolds : Ensures (fun stop => ∀ found ∈ stop, found.2.IsQuantity) (stop? entry) := by
    refine Ensures.bind fun zoom? _ => ?_
    cases zoom? with
    | none => simp
    | some zoom =>
        refine (isQuantity_quantity? entry.2).andThen fun value valueHolds => ?_
        cases value with
        | none => simp
        | some number => simpa using valueHolds
  refine stopHolds.andThen fun stop held => ?_
  cases stop with
  | none => exact Ensures.ok_iff.mpr hold
  | some stop => exact Ensures.ok_iff.mpr (allQuantities_setStop (held stop rfl) hold)

theorem allQuantities_normalize (mapping : ZoomStops F) :
    Ensures AllQuantities (normalize mapping) :=
  Ensures.foldlM (by simp [AllQuantities]) fun _ _ hold => allQuantities_addEntry hold

theorem isQuantity_of_at? (hold : AllQuantities stops) (found : at? zoom stops = some value) :
    value.IsQuantity := by
  induction stops with
  | nil => cases found
  | cons first rest ih =>
      obtain ⟨firstHolds, restHold⟩ := List.forall_mem_cons.mp hold
      unfold at? at found
      split at found
      · cases found
        exact firstHolds
      · exact ih restHold found

theorem isQuantity_between {lower upper : Number F × Number F} :
    Ensures IsQuantity (between lower upper zoom) := by
  refine Ensures.bind fun above _ => Ensures.bind fun whole _ => Ensures.bind fun part _ => ?_
  refine Ensures.bind fun growth _ => Ensures.bind fun grown _ => ?_
  exact Number.isQuantity_combine

theorem isQuantity_alongSegments {first : Number F × Number F}
    (hold : AllQuantities (first :: stops)) :
    Ensures IsQuantity (alongSegments zoom first stops) := by
  induction stops generalizing first with
  | nil => exact Ensures.ok_iff.mpr (hold first List.mem_cons_self)
  | cons next rest ih =>
      unfold alongSegments
      split
      · exact isQuantity_between
      · exact ih (List.forall_mem_cons.mp hold).2

theorem isQuantity_valueAt {first : Number F × Number F} (hold : AllQuantities (first :: stops)) :
    Ensures IsQuantity (valueAt first stops zoom) := by
  have lastHolds : (stops.getLastD first).2.IsQuantity := hold _ List.getLastD_mem_cons
  unfold valueAt
  simp only
  split
  · exact Ensures.ok_iff.mpr (hold first List.mem_cons_self)
  · split
    · exact Ensures.ok_iff.mpr lastHolds
    · exact isQuantity_alongSegments hold

end Zoom

namespace RoadWidths

variable {widths : RoadWidths F} {featureClass : String} {zoom fallback : Number F}

theorem allQuantities_stopsOf : Ensures Zoom.AllQuantities (widths.stopsOf featureClass) := by
  refine (Zoom.allQuantities_normalize _).andThen fun shared sharedHold => ?_
  refine (Zoom.allQuantities_normalize _).andThen fun own ownHold => ?_
  exact Ensures.pure_iff.mpr (Zoom.allQuantities_foldl_setStop ownHold sharedHold)

/-- The width of a road is a quantity. -/
theorem isQuantity_widthAt (fallbackHolds : fallback.IsQuantity) :
    Ensures IsQuantity (widths.widthAt featureClass zoom fallback) := by
  refine allQuantities_stopsOf.andThen fun stops hold => ?_
  cases stops with
  | nil => exact Ensures.pure_iff.mpr fallbackHolds
  | cons first rest =>
      simp only
      split
      · rename_i value found
        exact Ensures.pure_iff.mpr (Zoom.isQuantity_of_at? hold found)
      · exact Zoom.isQuantity_valueAt hold

end RoadWidths

end MapStyle
