import MapStyle.Colour.Hex
import MapStyle.Expr.Curve
import MapStyle.Theme.Colours
import MapStyle.Theme.Places

/-!
# Colours by density

A list of density ranges in any order becomes ascending thresholds with a colour each. An outline
has its own colour or that of the fill, darkened.
-/

namespace MapStyle

set_option autoImplicit false

variable {F : Type} [Arithmetic F]

namespace DensityRange

/-- The order of thresholds, none if they are of different kinds. -/
def precedes? (left right : DensityRange F) : Option Bool :=
  (Expr.ofJson left.threshold).precedes? (Expr.ofJson right.threshold)

/-- Inserts a range into a descending list, before the first one that it does not precede. -/
def insertDescending (range : DensityRange F) :
    List (DensityRange F) → Option (List (DensityRange F))
  | [] => some [range]
  | last :: rest =>
      match range.precedes? last with
      | none => none
      | some true => (insertDescending range rest).map (last :: ·)
      | some false => some (range :: last :: rest)

/-- The ranges in ascending order; ranges with one threshold stay in their order. -/
def sorted? (ranges : List (DensityRange F)) : Option (List (DensityRange F)) :=
  (ranges.foldlM (fun descending range => insertDescending range descending) []).map
    List.reverse

theorem insertDescending_perm {range : DensityRange F} {descending found : List (DensityRange F)}
    (inserted : insertDescending range descending = some found) :
    found.Perm (range :: descending) := by
  induction descending generalizing found with
  | nil =>
      cases inserted
      exact .refl _
  | cons last rest ih =>
      simp only [insertDescending] at inserted
      split at inserted
      · contradiction
      · obtain ⟨tail, tailInserted, rfl⟩ := Option.map_eq_some_iff.mp inserted
        exact ((ih tailInserted).cons last).trans (.swap range last rest)
      · cases inserted
        exact .refl _

def sameThreshold (left right : DensityRange F) : Bool :=
  (Expr.ofJson left.threshold).same (Expr.ofJson right.threshold)

/-- Of neighbours with one threshold only the first one is kept. -/
def firstOfEach (previous : Option (DensityRange F)) :
    List (DensityRange F) → List (DensityRange F)
  | [] => []
  | range :: rest =>
      if previous.any (sameThreshold range) then firstOfEach previous rest
      else range :: firstOfEach (some range) rest

/-- The ranges by ascending threshold, the first one where several have the same. -/
def ascending (ranges : List (DensityRange F)) : Result F (List (DensityRange F)) :=
  match sorted? ranges with
  | some found => .ok (firstOfEach none found)
  | none => Result.ofExpr .unorderedBreakpoints

end DensityRange

namespace Colour

/-- The outline of an area that is filled with a colour. -/
def outlineOf (fill outline : Option String) : Result F String := do
  match givenColour? outline with
  | some colour => return colour
  | none => darken (← Result.require "density fill_color" fill) (outlineFactor (F := F))

end Colour

namespace DensityColours

/-- The colour below the first threshold, and the thresholds with their colours. -/
structure Steps (F : Type) where
  fallback : Option String
  pairs : List (Json F × Option String)

def steps (colours : DensityColours F) (outline : Bool) : Result F (Steps F) := do
  let ranges ← DensityRange.ascending colours.ranges
  if outline then
    let fallback ← Colour.outlineOf (F := F) colours.fallbackFill colours.fallbackOutline
    let pairs ← ranges.mapM fun range => do
      return (range.threshold,
        some (← Colour.outlineOf (F := F) range.fillColour range.outlineColour))
    return ⟨fallback, pairs⟩
  else
    return ⟨colours.fallbackFill, ranges.map fun range => (range.threshold, range.fillColour)⟩

/-- The colour by density. Without ranges there is one colour for all densities. -/
def stepExpr (colours : DensityColours F) (outline : Bool) : Result F (Expr F) := do
  let found ← colours.steps outline
  if found.pairs.isEmpty then return Expr.ofText? found.fallback
  Expr.step (Expr.featureState "pop_density_sqmi") (Expr.ofText? found.fallback)
    (found.pairs.map fun pair => (Expr.ofJson pair.1, Expr.ofText? pair.2))

/-- The colour by density where the density is known, else a flat colour. -/
def colourExpr (colours : DensityColours F) (flat : Expr F) (outline : Bool) :
    Result F (Expr F) := do
  let byDensity ← colours.stepExpr outline
  return Expr.caseNode
    [(Expr.unequal (Expr.featureState "pop_density_sqmi") .null, byDensity)] flat

end DensityColours

end MapStyle
