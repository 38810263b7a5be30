import MapStyle.Expr.Operators
import MapStyle.Fault

/-!
# Curves, steps, matches and cases

The four kinds of expression that choose between outputs. The renderer refuses a whole style for
one of them that is malformed, so each is built by a function that refuses it first.
-/

namespace MapStyle.Expr

set_option autoImplicit false

variable {F : Type}

/-- Keys and outputs one after the other, as the renderer reads them. -/
def alternating (pairs : List (Expr F × Expr F)) : List (Expr F) :=
  pairs.flatMap fun pair => [pair.1, pair.2]

def curveNode (curve input : Expr F) (stops : List (Expr F × Expr F)) : Expr F :=
  .op "interpolate" (curve :: input :: alternating stops)

def stepNode (input fallback : Expr F) (pairs : List (Expr F × Expr F)) : Expr F :=
  .op "step" (input :: fallback :: alternating pairs)

def matchNode (input : Expr F) (branches : List (Expr F × Expr F)) (fallback : Expr F) : Expr F :=
  .op "match" (input :: (alternating branches ++ [fallback]))

def caseNode (branches : List (Expr F × Expr F)) (fallback : Expr F) : Expr F :=
  .op "case" (alternating branches ++ [fallback])

/-- Whether a property is one of several texts. -/
def isOneOf (property : String) (values : List String) : Expr F :=
  matchNode (.get property) [(.labels (values.map .text), .bool true)] (.bool false)

variable [Arithmetic F]

/-- Whether every breakpoint is below the next one; none if two neighbours have no order. -/
def increasing? : List (Expr F) → Option Bool
  | first :: second :: rest =>
      match first.precedes? second with
      | none => none
      | some false => some false
      | some true => increasing? (second :: rest)
  | _ => some true

def checkIncreasing (kind : CurveKind) (breakpoints : List (Expr F)) : Result F Unit :=
  match increasing? breakpoints with
  | some true => .ok ()
  | some false => Result.ofExpr (.notIncreasing kind breakpoints)
  | none => Result.ofExpr .unorderedBreakpoints

def curve (shape input : Expr F) (stops : List (Expr F × Expr F)) : Result F (Expr F) := do
  if stops.isEmpty then Result.ofExpr .noStops
  checkIncreasing .interpolate (stops.map Prod.fst)
  return curveNode shape input stops

def linear (input : Expr F) (stops : List (Expr F × Expr F)) : Result F (Expr F) :=
  curve (.op "linear" []) input stops

def exponential (base input : Expr F) (stops : List (Expr F × Expr F)) : Result F (Expr F) :=
  curve (.op "exponential" [base]) input stops

/-- The default below the first breakpoint, then the output of the last breakpoint reached. -/
def step (input fallback : Expr F) (pairs : List (Expr F × Expr F)) : Result F (Expr F) := do
  if pairs.isEmpty then Result.ofExpr .noBreakpoints
  checkIncreasing .step (pairs.map Prod.fst)
  return stepNode input fallback pairs

/-- The labels of one case of a match. -/
def caseLabels : Expr F → List (Expr F)
  | .labels values => values
  | label => [label]

def isEmptyGroup : Expr F → Bool
  | .labels [] => true
  | _ => false

/-- The labels that have been seen so far and one more. -/
def addLabel (seen : List (Expr F)) (label : Expr F) : Result F (List (Expr F)) :=
  if seen.any (same label) then Result.ofExpr (.duplicateLabel label)
  else .ok (label :: seen)

/-- The labels that have been seen so far and those of one more case. -/
def addLabels (seen : List (Expr F)) (label : Expr F) : Result F (List (Expr F)) := do
  if isEmptyGroup label then Result.ofExpr .emptyLabelGroup
  (caseLabels label).foldlM addLabel seen

def checkLabels (labels : List (Expr F)) : Result F Unit := do
  let _ ← labels.foldlM addLabels []

/-- The output of the case whose label is the input. No label may occur twice. -/
def matching (input : Expr F) (branches : List (Expr F × Expr F)) (fallback : Expr F) :
    Result F (Expr F) := do
  if branches.isEmpty then Result.ofExpr .noCases
  checkLabels (branches.map Prod.fst)
  return matchNode input branches fallback

/-- The output of the first condition that holds. -/
def choice (branches : List (Expr F × Expr F)) (fallback : Expr F) : Result F (Expr F) := do
  if branches.isEmpty then Result.ofExpr .noBranches
  return caseNode branches fallback

/-- Whether a property is one of several values, none of which may occur twice. -/
def inClasses (values : List (Expr F)) (property : String) : Result F (Expr F) :=
  matching (.get property) [(.labels values, .bool true)] (.bool false)

end MapStyle.Expr
