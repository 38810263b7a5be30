import Mathlib.Data.List.Chain
import MapStyle.Expr.Curve

/-!
# What the renderer accepts

The conditions under which the renderer takes an expression, stated on the finished tree and not
on the functions that build it: breakpoints strictly increase, no label occurs twice, nothing that
chooses between outputs is without a choice, and a bare group of labels stands only where a match
has its labels. Apart from that, the zoom may only be the input of an outermost curve or step.
-/

namespace MapStyle.Expr

set_option autoImplicit false

variable {F : Type}

/-- The expressions that an expression is immediately made of. -/
def parts : Expr F → List (Expr F)
  | .list items => items
  | .mapping entries => entries.map Prod.snd
  | .literal value => [value]
  | .op _ operands => operands
  | .labels values => values
  | .null | .number _ | .text _ | .get _ => []

/-- The occurrence of an expression in another one, at any depth. -/
inductive Inside (node : Expr F) : Expr F → Prop where
  | here : Inside node node
  | deeper {part whole : Expr F} (member : part ∈ whole.parts) (inside : Inside node part) :
      Inside node whole

/-- What holds of an expression and of all that occurs in it. -/
def Everywhere (holds : Expr F → Prop) (value : Expr F) : Prop :=
  ∀ node, Inside node value → holds node

theorem everywhere_iff {holds : Expr F → Prop} {value : Expr F} :
    Everywhere holds value ↔ holds value ∧ ∀ part ∈ value.parts, Everywhere holds part := by
  constructor
  · intro everywhere
    refine ⟨everywhere value .here, ?_⟩
    intro part member node inside
    exact everywhere node (.deeper member inside)
  · rintro ⟨whole, inner⟩ node inside
    cases inside with
    | here => exact whole
    | deeper member inside => exact inner _ member node inside

theorem Everywhere.mono {holds weaker : Expr F → Prop} {value : Expr F}
    (everywhere : Everywhere holds value) (implied : ∀ node, holds node → weaker node) :
    Everywhere weaker value := by
  intro node inside
  exact implied node (everywhere node inside)

/-- The zoom occurs nowhere in the expression. -/
def ZoomFree (value : Expr F) : Prop :=
  Everywhere (fun node => ∀ operands, node ≠ .op "zoom" operands) value

/-- The zoom occurs nowhere, or it is the input of the curve or step that the whole expression is,
and occurs in none of its other operands. -/
inductive ZoomOnTop : Expr F → Prop where
  | absent {value : Expr F} (free : ZoomFree value) : ZoomOnTop value
  | curve {shape : Expr F} {stops : List (Expr F)} (shapeFree : ZoomFree shape)
      (stopsFree : ∀ stop ∈ stops, ZoomFree stop) :
      ZoomOnTop (.op "interpolate" (shape :: zoom :: stops))
  | step {outputs : List (Expr F)} (outputsFree : ∀ output ∈ outputs, ZoomFree output) :
      ZoomOnTop (.op "step" (zoom :: outputs))

/-- Where a match has the label, or the group of labels, of one of its cases: before an output,
which every second operand but the default is. -/
def IsLabelPosition (whole : Expr F) (position : Nat) : Prop :=
  ∃ operands, whole = .op "match" operands ∧ position % 2 = 1 ∧ position + 1 < operands.length

/-- Curves are linear or exponential. -/
inductive IsShape : Expr F → Prop where
  | linear : IsShape (.op "linear" [])
  | exponential (base : Expr F) : IsShape (.op "exponential" [base])

def IsNumber (value : Expr F) : Prop :=
  ∃ number, value = .number number

@[simp] theorem isNumber_number (value : Number F) : IsNumber (.number value) :=
  ⟨value, rfl⟩

@[simp] theorem isNumber_ofNat (value : Nat) : IsNumber (no_index (OfNat.ofNat value) : Expr F) :=
  ⟨_, rfl⟩

@[simp] theorem isNumber_ofScientific [OfScientific F] (mantissa : Nat) (sign : Bool)
    (exponent : Nat) : IsNumber (OfScientific.ofScientific mantissa sign exponent : Expr F) :=
  ⟨_, rfl⟩

/-- The operands of a case: conditions with their outputs, and a default. -/
def IsCase (operands : List (Expr F)) : Prop :=
  ∃ branches fallback, operands = alternating branches ++ [fallback] ∧ branches ≠ []

variable [Arithmetic F]

/-- Every breakpoint lies behind the one before it. -/
def Ascending (breakpoints : List (Expr F)) : Prop :=
  breakpoints.IsChain fun left right => left.precedes? right = some true

/-- No label has the value of an earlier one. -/
def Distinct (labels : List (Expr F)) : Prop :=
  labels.Pairwise fun earlier later => later.same earlier = false

/-- The operands of a curve: its shape, its input, and stops at ascending numbers. -/
def IsCurve (operands : List (Expr F)) : Prop :=
  ∃ shape input stops, operands = shape :: input :: alternating stops ∧ IsShape shape ∧
    stops ≠ [] ∧ (∀ stop ∈ stops, IsNumber stop.1) ∧
    Ascending (stops.map Prod.fst)

/-- The operands of a step: its input, a default, and outputs at ascending breakpoints. -/
def IsStep (operands : List (Expr F)) : Prop :=
  ∃ input fallback pairs, operands = input :: fallback :: alternating pairs ∧ pairs ≠ [] ∧
    Ascending (pairs.map Prod.fst)

/-- The operands of a match: its input, labels with their outputs, and a default. -/
def IsMatch (operands : List (Expr F)) : Prop :=
  ∃ input branches fallback, operands = input :: (alternating branches ++ [fallback]) ∧
    branches ≠ [] ∧ (∀ branch ∈ branches, isEmptyGroup branch.1 = false) ∧
    Distinct ((branches.map Prod.fst).flatMap caseLabels)

/-- A node is of the form that its operator wants, and groups of labels stand in their place. -/
structure WellFormed (node : Expr F) : Prop where
  curve : ∀ operands, node = .op "interpolate" operands → IsCurve operands
  step : ∀ operands, node = .op "step" operands → IsStep operands
  choice : ∀ operands, node = .op "match" operands → IsMatch operands
  branch : ∀ operands, node = .op "case" operands → IsCase operands
  group : ∀ position values, node.parts[position]? = some (.labels values) →
    IsLabelPosition node position

/-- The renderer accepts an expression: every node of it is well formed, and it is no group of
labels without a match around it. -/
structure Accepted (value : Expr F) : Prop where
  noGroup : ∀ values, value ≠ .labels values
  wellFormed : Everywhere WellFormed value

/-- A value of a property that the renderer accepts. -/
structure Usable (value : Expr F) : Prop where
  accepted : Accepted value
  zoomOnTop : ZoomOnTop value

end MapStyle.Expr
