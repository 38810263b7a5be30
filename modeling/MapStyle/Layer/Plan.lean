import MapStyle.Entries
import MapStyle.Expr.Operators
import MapStyle.Layer
import MapStyle.Theme.Resolve

/-!
# Layers in the making

A plan is a layer whose properties may turn out not to exist. Plans are listed in the order in
which their layers are drawn, with checks between them; compiling the list yields the layers, or
the first fault on the way.
-/

namespace MapStyle

set_option autoImplicit false

/-- A property of a layer by name, or why it has no value. -/
abbrev Property (F : Type) := String × Result F (Expr F)

structure LayerPlan (F : Type) where
  id : String
  kind : LayerKind
  source : Option String := none
  sourceLayer : Option String := none
  minZoom : Option (Number F) := none
  maxZoom : Option (Number F) := none
  filter : Option (Expr F) := none
  layout : List (Property F) := []
  paint : List (Property F) := []

/-- A step of drawing: something that has to succeed, or a layer. -/
inductive DrawStep (F : Type) where
  | check (outcome : Result F Unit)
  | draw (plan : LayerPlan F)

variable {F : Type}

namespace Property

def fixed (name : String) (value : Expr F) : Property F :=
  (name, .ok value)

def computed (name : String) (value : Result F (Expr F)) : Property F :=
  (name, value)

/-- Properties of which some are replaced in their place and others are added. -/
def override (properties changes : List (Property F)) : List (Property F) :=
  changes.foldl (fun result change => Entries.put change.1 change.2 result) properties

def value (property : Property F) : Result F (String × Expr F) := do
  return (property.1, ← property.2)

end Property

namespace LayerPlan

/-- The layer of a plan, with the values that its properties have. -/
def layerWith (plan : LayerPlan F) (layout paint : List (String × Expr F)) : Layer F :=
  { id := plan.id
    kind := plan.kind
    source := plan.source
    sourceLayer := plan.sourceLayer
    minZoom := plan.minZoom
    maxZoom := plan.maxZoom
    filter := plan.filter
    layout
    paint }

def build (plan : LayerPlan F) : Result F (Layer F) := do
  let layout ← plan.layout.mapM Property.value
  let paint ← plan.paint.mapM Property.value
  let layer := plan.layerWith layout paint
  layer.check
  return layer

end LayerPlan

namespace DrawStep

/-- A value that is needed for what follows. -/
def need {α : Type} (outcome : Result F α) : DrawStep F :=
  .check (outcome.map fun _ => ())

def plan? : DrawStep F → Option (LayerPlan F)
  | .check _ => none
  | .draw plan => some plan

/-- The steps of an optional domain, if it is set up and switched on. -/
def ofDomain {C : Type} (config : Option C) (enabled : C → Bool)
    (draw : C → List (DrawStep F)) : List (DrawStep F) :=
  match config.filter enabled with
  | some given => draw given
  | none => []

/-- The layers of a list of steps. -/
def compile : List (DrawStep F) → Result F (List (Layer F))
  | [] => .ok []
  | .check outcome :: rest => do
      outcome
      compile rest
  | .draw plan :: rest => do
      let layer ← plan.build
      return layer :: (← compile rest)

/-- What is drawn after other layers does not change them; the first fault counts. -/
theorem compile_append (first second : List (DrawStep F)) :
    compile (first ++ second) = (do
      let below ← compile first
      let above ← compile second
      return below ++ above) := by
  induction first with
  | nil =>
      simp only [List.nil_append, compile]
      cases compile second <;> rfl
  | cons step rest ih =>
      cases step with
      | check outcome =>
          cases outcome with
          | error fault => rfl
          | ok _ => exact ih
      | draw plan =>
          simp only [List.cons_append, compile, ih]
          cases plan.build with
          | error fault => rfl
          | ok layer =>
              cases compile rest with
              | error fault => rfl
              | ok below => cases compile second <;> rfl

end DrawStep

end MapStyle
