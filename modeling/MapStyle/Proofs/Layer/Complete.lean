import MapStyle.Proofs.Layer.Plan

/-!
# Steps that succeed

A plan is complete if it has an id and a source and all its properties have values; then it can be
built. A list of steps compiles exactly if each of them succeeds, and the fault that ends it is
the fault of one of them.
-/

namespace MapStyle

set_option autoImplicit false

variable {F : Type}

namespace Property

def HasValue (property : Property F) : Prop :=
  Succeeds property.2

@[simp] theorem hasValue_fixed (name : String) (value : Expr F) : (fixed name value).HasValue :=
  Returns.ok_iff.mpr trivial

@[simp] theorem hasValue_computed {name : String} {outcome : Result F (Expr F)} :
    (computed name outcome).HasValue ↔ Succeeds outcome :=
  Iff.rfl

/-- A list of properties that all have values. -/
def AllHaveValues (properties : List (Property F)) : Prop :=
  ∀ property ∈ properties, property.HasValue

@[simp] theorem allHaveValues_nil : AllHaveValues ([] : List (Property F)) := by
  simp [AllHaveValues]

@[simp] theorem allHaveValues_cons {property : Property F} {rest : List (Property F)} :
    AllHaveValues (property :: rest) ↔ property.HasValue ∧ AllHaveValues rest :=
  List.forall_mem_cons

@[simp] theorem allHaveValues_append {first second : List (Property F)} :
    AllHaveValues (first ++ second) ↔ AllHaveValues first ∧ AllHaveValues second :=
  List.forall_mem_append

theorem allHaveValues_override {properties changes : List (Property F)}
    (old : AllHaveValues properties) (new : AllHaveValues changes) :
    AllHaveValues (override properties changes) :=
  forall_mem_override old new

theorem succeeds_mapM_value {properties : List (Property F)} (all : AllHaveValues properties) :
    Succeeds (properties.mapM value) := by
  refine (Returns.mapM_length fun property member => ?_).succeeds
  exact (all property member).bind fun _ _ => Returns.pure_iff.mpr trivial

end Property

namespace LayerPlan

/-- Nothing that a layer needs is missing from its plan. -/
structure Complete (plan : LayerPlan F) : Prop where
  id : plan.id.isEmpty = false
  source : Layer.NamesSource plan.kind plan.source
  layout : Property.AllHaveValues plan.layout
  paint : Property.AllHaveValues plan.paint

variable {plan : LayerPlan F}

theorem check_layerWith (idGiven : plan.id.isEmpty = false)
    (sourceGiven : Layer.NamesSource plan.kind plan.source)
    (layout paint : List (String × Expr F)) : (plan.layerWith layout paint).check = .ok () :=
  Layer.check_eq_ok.mpr ⟨idGiven, sourceGiven⟩

theorem Complete.succeeds_build (complete : plan.Complete) : Succeeds plan.build := by
  obtain ⟨layout, layoutFound⟩ := succeeds_iff.mp (Property.succeeds_mapM_value complete.layout)
  obtain ⟨paint, paintFound⟩ := succeeds_iff.mp (Property.succeeds_mapM_value complete.paint)
  have checked := check_layerWith complete.id complete.source layout paint
  exact succeeds_iff.mpr
    ⟨_, build_eq_ok.mpr ⟨layout, paint, layoutFound, paintFound, checked, rfl⟩⟩

/-- A layer that was built has a value for each property of its layout. -/
theorem hasValue_of_build {layer : Layer F} (built : plan.build = .ok layer) :
    Property.AllHaveValues plan.layout := by
  obtain ⟨layout, _, found, _⟩ := build_eq_ok.mp built
  intro property member
  obtain ⟨position, bounded, rfl⟩ := List.mem_iff_getElem.mp member
  have related := mapM_eq_ok.mp found
  have entryFound := related.get bounded (related.length_eq ▸ bounded)
  exact succeeds_iff.mpr ⟨_, (Property.value_eq_ok.mp entryFound).2⟩

/-- With an id and a source, the fault of a plan is that of one of its properties. -/
theorem faults_build {holds : Fault F → Prop} (idGiven : plan.id.isEmpty = false)
    (sourceGiven : Layer.NamesSource plan.kind plan.source)
    (layout : ∀ property ∈ plan.layout, Faults holds property.2)
    (paint : ∀ property ∈ plan.paint, Faults holds property.2) : Faults holds plan.build := by
  have values (properties : List (Property F))
      (each : ∀ property ∈ properties, Faults holds property.2) :
      Faults holds (properties.mapM Property.value) :=
    Faults.mapM fun property member => (each property member).bind fun _ _ => Faults.pure
  apply (values plan.layout layout).bind
  intro foundLayout _
  apply (values plan.paint paint).bind
  intro foundPaint _
  simp only [check_layerWith idGiven sourceGiven]
  exact Faults.pure

end LayerPlan

namespace DrawStep

/-- Whether a step succeeds, or the fault that it ends with. -/
def outcome : DrawStep F → Result F Unit
  | .check outcome => outcome
  | .draw plan => plan.build.map fun _ => ()

theorem faults_compile {holds : Fault F → Prop} {steps : List (DrawStep F)}
    (each : ∀ step ∈ steps, Faults holds step.outcome) : Faults holds (compile steps) := by
  induction steps with
  | nil => exact Faults.ok
  | cons step rest ih =>
      obtain ⟨stepFaults, restFault⟩ := List.forall_mem_cons.mp each
      cases step with
      | check outcome => exact stepFaults.bind fun _ _ => ih restFault
      | draw plan =>
          refine Faults.bind ?_ fun _ _ => (ih restFault).bind fun _ _ => Faults.pure
          intro fault found
          exact stepFaults fault (by simp [outcome, found, Except.map])

theorem succeeds_of_compile {steps : List (DrawStep F)} {layers : List (Layer F)}
    (compiled : compile steps = .ok layers) : ∀ step ∈ steps, Succeeds step.outcome := by
  induction steps generalizing layers with
  | nil => simp
  | cons step rest ih =>
      rw [List.forall_mem_cons]
      cases step with
      | check outcome =>
          obtain ⟨_, found, restCompiled⟩ := bind_eq_ok.mp compiled
          exact ⟨succeeds_iff.mpr ⟨_, found⟩, ih restCompiled⟩
      | draw plan =>
          obtain ⟨first, built, others⟩ := bind_eq_ok.mp compiled
          obtain ⟨tail, restCompiled, _⟩ := bind_eq_ok.mp others
          exact ⟨(succeeds_iff.mpr ⟨first, built⟩).map, ih restCompiled⟩

/-- A list of steps that all succeed. -/
def AllSucceed (steps : List (DrawStep F)) : Prop :=
  ∀ step ∈ steps, Succeeds step.outcome

theorem AllSucceed.compile {steps : List (DrawStep F)} (all : AllSucceed steps) :
    Succeeds (compile steps) := by
  have noFault : Faults (fun _ => False) (DrawStep.compile steps) :=
    faults_compile fun step member => (all step member).faults
  cases found : DrawStep.compile steps with
  | ok layers => exact Returns.ok_iff.mpr trivial
  | error fault => exact (noFault fault found).elim

@[simp] theorem succeeds_check {checked : Result F Unit} :
    Succeeds (check checked).outcome ↔ Succeeds checked :=
  Iff.rfl

theorem succeeds_need {α : Type} {needed : Result F α} (succeeds : Succeeds needed) :
    Succeeds (need needed).outcome :=
  succeeds.map

theorem succeeds_draw {plan : LayerPlan F} (complete : plan.Complete) :
    Succeeds (draw plan).outcome :=
  complete.succeeds_build.map

@[simp] theorem allSucceed_nil : AllSucceed ([] : List (DrawStep F)) := by
  simp [AllSucceed]

@[simp] theorem allSucceed_cons {step : DrawStep F} {rest : List (DrawStep F)} :
    AllSucceed (step :: rest) ↔ Succeeds step.outcome ∧ AllSucceed rest :=
  List.forall_mem_cons

@[simp] theorem allSucceed_append {first second : List (DrawStep F)} :
    AllSucceed (first ++ second) ↔ AllSucceed first ∧ AllSucceed second :=
  List.forall_mem_append

theorem allSucceed_map {α : Type} {items : List α} {step : α → DrawStep F} :
    AllSucceed (items.map step) ↔ ∀ item ∈ items, Succeeds (step item).outcome :=
  List.forall_mem_map

end DrawStep

end MapStyle
