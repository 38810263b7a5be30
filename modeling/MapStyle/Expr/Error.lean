import MapStyle.Expr
import MapStyle.Text.Quoted

/-!
# Mistakes in expressions

Why an expression is not built: the renderer refuses curves and steps without breakpoints or with
breakpoints out of order, matches without cases or with a label that occurs twice, and cases
without branches. A breakpoint or a label is shown to the author of a theme with constants as in any
message and the parts of a tree by name.
-/

namespace MapStyle

set_option autoImplicit false

/-! ### Expressions inside messages -/

namespace Expr

variable {F : Type} [Arithmetic F]

/-- A sequence between parentheses; one element alone is followed by a comma. -/
def tuple (parts : List String) : String :=
  match parts with
  | [part] => "(" ++ part ++ ",)"
  | _ => "(" ++ ", ".intercalate parts ++ ")"

mutual

def described : Expr F → String
  | .null => "None"
  | .number value => value.text
  | .text value => Text.quoted value
  | .list items => "[" ++ ", ".intercalate (describedItems items) ++ "]"
  | .mapping entries => "\x7b" ++ ", ".intercalate (describedEntries entries) ++ "\x7d"
  | .literal value => "Literal(value=" ++ described value ++ ")"
  | .get property => "Get(name=" ++ Text.quoted property ++ ")"
  | .op operator operands =>
      "Op(operator=" ++ Text.quoted operator ++ ", operands=" ++ tuple (describedItems operands) ++
        ")"
  | .labels values => "Labels(values=" ++ tuple (describedItems values) ++ ")"
termination_by structural value => value

def describedItems : List (Expr F) → List String
  | [] => []
  | item :: rest => described item :: describedItems rest
termination_by structural items => items

def describedEntries : List (String × Expr F) → List String
  | [] => []
  | (key, value) :: rest => (Text.quoted key ++ ": " ++ described value) :: describedEntries rest
termination_by structural entries => entries

end

end Expr

/-! ### Causes -/

/-- The two kinds of expression with breakpoints. -/
inductive CurveKind where
  | interpolate
  | step
  deriving DecidableEq, Repr

inductive ExprError (F : Type) where
  | noStops
  | noBreakpoints
  | notIncreasing (kind : CurveKind) (breakpoints : List (Expr F))
  | unorderedBreakpoints
  | noCases
  | emptyLabelGroup
  | duplicateLabel (label : Expr F)
  | noBranches
  | scaleStart (zoom : Number F)

/-- The zoom at which widths in real-world scale have their last stop. -/
def lastScaleZoom : Nat := 20

def CurveKind.name : CurveKind → String
  | .interpolate => "interpolate"
  | .step => "step"

def ExprError.message {F : Type} [Arithmetic F] : ExprError F → String
  | .noStops => "interpolate needs at least one stop"
  | .noBreakpoints => "step needs at least one breakpoint"
  | .notIncreasing kind breakpoints =>
      kind.name ++ " breakpoints must be strictly increasing, got " ++
        (Expr.list breakpoints).described
  | .unorderedBreakpoints => "breakpoints of different kinds have no order"
  | .noCases => "match needs at least one case"
  | .emptyLabelGroup => "match label groups must not be empty"
  | .duplicateLabel label => "Duplicate match label: " ++ label.described
  | .noBranches => "case needs at least one branch"
  | .scaleStart zoom =>
      s!"real-world scaling must start below z{lastScaleZoom}, got {zoom.text}"

end MapStyle
