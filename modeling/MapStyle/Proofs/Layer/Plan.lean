import MapStyle.Layer.Plan
import MapStyle.Proofs.Entries
import MapStyle.Proofs.Expr.Choice

/-!
# From plans to layers

A compiled layer comes from the plan of one step, and each of its properties from a property of
that plan. So what holds of the values of all plans holds of the values of all layers; among it is
that the renderer can draw them.
-/

namespace MapStyle

set_option autoImplicit false

variable {F : Type}

namespace Property

/-- What holds of old properties and of their replacements holds of all that there are then. -/
theorem forall_mem_override {holds : Property F → Prop} {properties changes : List (Property F)}
    (old : ∀ property ∈ properties, holds property) (new : ∀ change ∈ changes, holds change) :
    ∀ property ∈ override properties changes, holds property := by
  induction changes generalizing properties with
  | nil => exact old
  | cons change rest ih =>
      obtain ⟨changeHolds, restHold⟩ := List.forall_mem_cons.mp new
      apply ih _ restHold
      intro property member
      obtain same | inOld := Entries.mem_put member
      · exact same ▸ changeHolds
      · exact old property inOld

theorem value_eq_ok {property : Property F} {entry : String × Expr F} :
    property.value = .ok entry ↔ property.1 = entry.1 ∧ property.2 = .ok entry.2 := by
  obtain ⟨name, outcome⟩ := property
  obtain ⟨entryName, found⟩ := entry
  cases outcome with
  | error fault => simp [value, bind, Except.bind]
  | ok result => simp [value, bind, Except.bind, pure, Except.pure]

/-- The value of a property is found under its name among the values of all. -/
theorem lookup_of_mapM_value {properties : List (Property F)} {values : List (String × Expr F)}
    (found : properties.mapM value = .ok values) {name : String} {outcome : Result F (Expr F)}
    (listed : properties.lookup name = some outcome) :
    ∃ result, outcome = .ok result ∧ values.lookup name = some result := by
  have related := mapM_eq_ok.mp found
  clear found
  induction related with
  | nil => cases listed
  | @cons property entry _ _ firstFound _ ih =>
      obtain ⟨propertyName, propertyOutcome⟩ := property
      obtain ⟨entryName, result⟩ := entry
      obtain ⟨rfl, isValue⟩ := value_eq_ok.mp firstFound
      rw [List.lookup_cons] at listed ⊢
      by_cases here : name = propertyName
      · simp only [here, beq_self_eq_true, Option.some.injEq] at listed ⊢
        exact ⟨result, listed ▸ isValue, rfl⟩
      · simp only [beq_false_of_ne here] at listed ⊢
        exact ih listed

end Property

namespace Layer

/-- A background names no source and every other layer names one. -/
def NamesSource (kind : LayerKind) (source : Option String) : Prop :=
  if kind = .background then source = none else ∃ name, source = some name ∧ name.isEmpty = false

@[simp] theorem namesSource_background {source : Option String} :
    NamesSource .background source ↔ source = none := by
  simp [NamesSource]

@[simp] theorem namesSource_some {kind : LayerKind} {name : String}
    (noBackground : kind ≠ .background) :
    NamesSource kind (some name) ↔ name.isEmpty = false := by
  simp [NamesSource, noBackground]

theorem checkSource_eq_ok {id : String} {kind : LayerKind} {source : Option String}
    {value : Unit} :
    (checkSource id kind source : Result F Unit) = .ok value ↔ NamesSource kind source := by
  unfold checkSource NamesSource
  cases source with
  | none => split <;> simp [refuse]
  | some name =>
      split
      · simp [refuse]
      · by_cases empty : name = "" <;> simp [refuse, empty]

theorem check_eq_ok {layer : Layer F} {value : Unit} :
    layer.check = .ok value ↔
      layer.id.isEmpty = false ∧ NamesSource layer.kind layer.source := by
  unfold check
  cases layer.id.isEmpty with
  | true =>
      constructor
      · intro impossible
        cases impossible
      · rintro ⟨impossible, _⟩
        cases impossible
  | false => simp [checkSource_eq_ok]

end Layer

namespace LayerPlan

theorem build_eq_ok {plan : LayerPlan F} {layer : Layer F} :
    plan.build = .ok layer ↔
      ∃ layout paint, plan.layout.mapM Property.value = .ok layout ∧
        plan.paint.mapM Property.value = .ok paint ∧ layer.check = .ok () ∧
        plan.layerWith layout paint = layer := by
  simp only [build, bind_eq_ok]
  constructor
  · rintro ⟨layout, layoutFound, paint, paintFound, _, checked, same⟩
    cases same
    exact ⟨layout, paint, layoutFound, paintFound, checked, rfl⟩
  · rintro ⟨layout, paint, layoutFound, paintFound, checked, rfl⟩
    exact ⟨layout, layoutFound, paint, paintFound, (), checked, rfl⟩

/-- Apart from the values of its properties a layer is what its plan says. -/
theorem eq_layerWith_of_build {plan : LayerPlan F} {layer : Layer F}
    (built : plan.build = .ok layer) : layer = plan.layerWith layer.layout layer.paint := by
  obtain ⟨layout, paint, _, _, _, rfl⟩ := build_eq_ok.mp built
  rfl

theorem id_of_build {plan : LayerPlan F} {layer : Layer F} (built : plan.build = .ok layer) :
    layer.id = plan.id :=
  congrArg Layer.id (eq_layerWith_of_build built)

theorem sourceLayer_of_build {plan : LayerPlan F} {layer : Layer F}
    (built : plan.build = .ok layer) : layer.sourceLayer = plan.sourceLayer :=
  congrArg Layer.sourceLayer (eq_layerWith_of_build built)

theorem minZoom_of_build {plan : LayerPlan F} {layer : Layer F} (built : plan.build = .ok layer) :
    layer.minZoom = plan.minZoom :=
  congrArg Layer.minZoom (eq_layerWith_of_build built)

theorem maxZoom_of_build {plan : LayerPlan F} {layer : Layer F} (built : plan.build = .ok layer) :
    layer.maxZoom = plan.maxZoom :=
  congrArg Layer.maxZoom (eq_layerWith_of_build built)

/-- What holds of the layer of a plan, if it has one. -/
def Builds (kept : Layer F → Prop) (plan : LayerPlan F) : Prop :=
  ∀ layer, plan.build = .ok layer → kept layer

/-- A layer has the values of the properties of its plan, under their names. -/
theorem lookup_of_build {plan : LayerPlan F} {layer : Layer F} (built : plan.build = .ok layer)
    {name : String} {outcome : Result F (Expr F)} :
    (plan.layout.lookup name = some outcome →
      ∃ value, outcome = .ok value ∧ layer.layout.lookup name = some value) ∧
    (plan.paint.lookup name = some outcome →
      ∃ value, outcome = .ok value ∧ layer.paint.lookup name = some value) := by
  obtain ⟨layout, paint, layoutFound, paintFound, _, rfl⟩ := build_eq_ok.mp built
  exact ⟨Property.lookup_of_mapM_value layoutFound, Property.lookup_of_mapM_value paintFound⟩

end LayerPlan

namespace DrawStep

/-- What holds of the plan of a step that draws a layer. -/
def Draws (holds : LayerPlan F → Prop) : DrawStep F → Prop
  | .check _ => True
  | .draw plan => holds plan

@[simp] theorem draws_check {holds : LayerPlan F → Prop} (outcome : Result F Unit) :
    (check outcome).Draws holds :=
  trivial

@[simp] theorem draws_need {holds : LayerPlan F → Prop} {α : Type} (outcome : Result F α) :
    (need outcome).Draws holds :=
  trivial

@[simp] theorem draws_draw {holds : LayerPlan F → Prop} {plan : LayerPlan F} :
    (draw plan).Draws holds ↔ holds plan :=
  Iff.rfl

/-- What holds of the steps of a domain that is set up and switched on. -/
theorem forall_mem_ofDomain {holds : DrawStep F → Prop} {C : Type} {config : Option C}
    {enabled : C → Bool} {draw : C → List (DrawStep F)}
    (each : ∀ given, config = some given → enabled given = true → ∀ step ∈ draw given, holds step) :
    ∀ step ∈ ofDomain config enabled draw, holds step := by
  unfold ofDomain
  split
  · rename_i given found
    obtain ⟨isGiven, isEnabled⟩ := Option.filter_eq_some_iff.mp found
    exact each given isGiven isEnabled
  · simp

theorem ofDomain_of_enabled {C : Type} {config : Option C} {given : C} {enabled : C → Bool}
    {draw : C → List (DrawStep F)} (isGiven : config = some given)
    (isEnabled : enabled given = true) :
    ofDomain config enabled draw = draw given := by
  have found : config.filter enabled = some given :=
    Option.filter_eq_some_iff.mpr ⟨isGiven, isEnabled⟩
  simp only [ofDomain, found]

theorem ofDomain_of_disabled {C : Type} {config : Option C} {enabled : C → Bool}
    {draw : C → List (DrawStep F)} (off : config.any enabled = false) :
    ofDomain config enabled draw = [] := by
  have none : config.filter enabled = none := by
    cases config with
    | none => rfl
    | some given => simpa using off
  simp only [ofDomain, none]

/-- What holds of every plan of a list of steps. -/
def AllDraw (holds : LayerPlan F → Prop) (steps : List (DrawStep F)) : Prop :=
  ∀ step ∈ steps, step.Draws holds

section AllDraw

variable {holds : LayerPlan F → Prop}

@[simp] theorem allDraw_nil : AllDraw holds [] := by
  simp [AllDraw]

@[simp] theorem allDraw_cons {step : DrawStep F} {rest : List (DrawStep F)} :
    AllDraw holds (step :: rest) ↔ step.Draws holds ∧ AllDraw holds rest :=
  List.forall_mem_cons

@[simp] theorem allDraw_append {first second : List (DrawStep F)} :
    AllDraw holds (first ++ second) ↔ AllDraw holds first ∧ AllDraw holds second :=
  List.forall_mem_append

theorem allDraw_map {α : Type} {items : List α} {step : α → DrawStep F} :
    AllDraw holds (items.map step) ↔ ∀ item ∈ items, (step item).Draws holds :=
  List.forall_mem_map

theorem allDraw_flatMap {α : Type} {items : List α} {steps : α → List (DrawStep F)}
    (each : ∀ item ∈ items, AllDraw holds (steps item)) : AllDraw holds (items.flatMap steps) := by
  intro step member
  obtain ⟨item, itemMember, inItem⟩ := List.mem_flatMap.mp member
  exact each item itemMember step inItem

theorem allDraw_ofDomain {C : Type} {config : Option C} {enabled : C → Bool}
    {draw : C → List (DrawStep F)}
    (each : ∀ given, config = some given → enabled given = true → AllDraw holds (draw given)) :
    AllDraw holds (ofDomain config enabled draw) :=
  forall_mem_ofDomain each

end AllDraw

/-- The plans of the layers that are drawn, from back to front. -/
def plans (steps : List (DrawStep F)) : List (LayerPlan F) :=
  steps.filterMap plan?

theorem mem_plans {steps : List (DrawStep F)} {plan : LayerPlan F} :
    plan ∈ plans steps ↔ .draw plan ∈ steps := by
  rw [plans, List.mem_filterMap]
  constructor
  · rintro ⟨step, member, found⟩
    cases step with
    | check outcome => cases found
    | draw drawn =>
        cases found
        exact member
  · intro member
    exact ⟨.draw plan, member, rfl⟩

/-- The layers that are compiled are those of the plans, one by one. -/
theorem built_of_compile {steps : List (DrawStep F)} {layers : List (Layer F)}
    (compiled : compile steps = .ok layers) :
    List.Forall₂ (fun plan layer => plan.build = .ok layer) (plans steps) layers := by
  induction steps generalizing layers with
  | nil =>
      cases compiled
      exact .nil
  | cons step rest ih =>
      cases step with
      | check outcome =>
          obtain ⟨_, _, restCompiled⟩ := bind_eq_ok.mp compiled
          exact ih restCompiled
      | draw plan =>
          obtain ⟨first, built, others⟩ := bind_eq_ok.mp compiled
          obtain ⟨tail, restCompiled, found⟩ := bind_eq_ok.mp others
          cases found
          exact .cons built (ih restCompiled)

theorem mem_compile {steps : List (DrawStep F)} {layers : List (Layer F)} {layer : Layer F}
    (compiled : compile steps = .ok layers) (member : layer ∈ layers) :
    ∃ plan, .draw plan ∈ steps ∧ plan.build = .ok layer := by
  obtain ⟨plan, inPlans, built⟩ := exists_item_of_forall₂ (built_of_compile compiled) member
  exact ⟨plan, mem_plans.mp inPlans, built⟩

/-- Every plan that is drawn has its layer. -/
theorem exists_layer_of_compile {steps : List (DrawStep F)} {layers : List (Layer F)}
    {plan : LayerPlan F} (compiled : compile steps = .ok layers) (member : .draw plan ∈ steps) :
    ∃ layer ∈ layers, plan.build = .ok layer :=
  exists_result_of_forall₂ (built_of_compile compiled) (mem_plans.mpr member)

/-- What is read off each layer is what is read off its plan. -/
theorem map_of_compile {γ : Type} {ofLayer : Layer F → γ} {ofPlan : LayerPlan F → γ}
    {steps : List (DrawStep F)} {layers : List (Layer F)}
    (same : ∀ plan layer, plan.build = .ok layer → ofLayer layer = ofPlan plan)
    (compiled : compile steps = .ok layers) : layers.map ofLayer = (plans steps).map ofPlan := by
  have built := built_of_compile compiled
  clear compiled
  generalize plans steps = drawn at built ⊢
  induction built with
  | nil => rfl
  | cons first _ ih => rw [List.map_cons, List.map_cons, same _ _ first, ih]

/-- Layers are counted by their plans. -/
theorem countP_of_compile {ofLayer : Layer F → Bool} {ofPlan : LayerPlan F → Bool}
    {steps : List (DrawStep F)} {layers : List (Layer F)}
    (same : ∀ plan layer, plan.build = .ok layer → ofLayer layer = ofPlan plan)
    (compiled : compile steps = .ok layers) :
    layers.countP ofLayer = (plans steps).countP ofPlan := by
  have all := congrArg (List.countP id) (map_of_compile same compiled)
  rwa [List.countP_map, List.countP_map] at all

/-- What every plan passes on to its layer holds of all compiled layers. -/
theorem forall_mem_compile {holds : LayerPlan F → Prop} {kept : Layer F → Prop}
    {steps : List (DrawStep F)} {layers : List (Layer F)} (all : AllDraw holds steps)
    (passes : ∀ plan layer, holds plan → plan.build = .ok layer → kept layer)
    (compiled : compile steps = .ok layers) : ∀ layer ∈ layers, kept layer := by
  intro layer member
  obtain ⟨plan, planMember, built⟩ := mem_compile compiled member
  exact passes plan layer (all (.draw plan) planMember) built

theorem forall_mem_of_builds {kept : Layer F → Prop} {steps : List (DrawStep F)}
    {layers : List (Layer F)} (all : AllDraw (LayerPlan.Builds kept) steps)
    (compiled : compile steps = .ok layers) : ∀ layer ∈ layers, kept layer :=
  forall_mem_compile all (fun _ layer builds built => builds layer built) compiled

end DrawStep

/-! ### Layers the renderer can draw

The filter and all properties of a layer are expressions that the renderer accepts, and the zoom
occurs in a property only as the input of an outermost curve or step. A plan that promises this of
the values that it has keeps the promise in the layer that is built from it. -/

open MapStyle.Expr (Sound)

variable [Arithmetic F]

/-- The renderer accepts the filter and every property of the layer. -/
structure Layer.Usable (layer : Layer F) : Prop where
  filter : ∀ filter ∈ layer.filter, filter.Accepted
  layout : ∀ entry ∈ layer.layout, entry.2.Usable
  paint : ∀ entry ∈ layer.paint, entry.2.Usable

namespace Property

/-- A property has no value that the renderer refuses. -/
def Usable (property : Property F) : Prop :=
  Ensures Expr.Usable property.2

@[simp] theorem usable_fixed {name : String} {value : Expr F} (sound : Sound false value) :
    (fixed name value).Usable :=
  Ensures.ok_iff.mpr sound.usable

@[simp] theorem usable_computed {name : String} {outcome : Result F (Expr F)}
    (ensured : Ensures Expr.Usable outcome) : (computed name outcome).Usable :=
  ensured

/-- A list of properties without a value that the renderer refuses. -/
def UsableAll (properties : List (Property F)) : Prop :=
  ∀ property ∈ properties, property.Usable

@[simp] theorem usableAll_nil : UsableAll ([] : List (Property F)) := by
  simp [UsableAll]

@[simp] theorem usableAll_cons {property : Property F} {rest : List (Property F)} :
    UsableAll (property :: rest) ↔ property.Usable ∧ UsableAll rest :=
  List.forall_mem_cons

@[simp] theorem usableAll_append {first second : List (Property F)} :
    UsableAll (first ++ second) ↔ UsableAll first ∧ UsableAll second :=
  List.forall_mem_append

theorem usableAll_override {properties changes : List (Property F)}
    (old : UsableAll properties) (new : UsableAll changes) :
    UsableAll (override properties changes) :=
  forall_mem_override old new

theorem usable_mapM {properties : List (Property F)} {entries : List (String × Expr F)}
    (usable : UsableAll properties)
    (found : properties.mapM Property.value = .ok entries) :
    ∀ entry ∈ entries, entry.2.Usable := by
  have each : ∀ property ∈ properties,
      Ensures (fun entry : String × Expr F => entry.2.Usable) property.value := by
    intro property member entry entryFound
    exact usable property member entry.2 (value_eq_ok.mp entryFound).2
  exact Ensures.forall_mem_mapM each found

end Property

/-- A filter may depend on the zoom at any depth. -/
def SoundFilter (filter : Option (Expr F)) : Prop :=
  ∀ condition ∈ filter, Sound true condition

@[simp] theorem soundFilter_none : SoundFilter (none : Option (Expr F)) := by
  simp [SoundFilter]

@[simp] theorem soundFilter_some {condition : Expr F} :
    SoundFilter (some condition) ↔ Sound true condition := by
  simp [SoundFilter]

/-- Nothing in a plan has a value that the renderer refuses. -/
structure LayerPlan.Usable (plan : LayerPlan F) : Prop where
  filter : SoundFilter plan.filter
  layout : Property.UsableAll plan.layout
  paint : Property.UsableAll plan.paint

theorem LayerPlan.Usable.build {plan : LayerPlan F} {layer : Layer F} (usable : plan.Usable)
    (built : plan.build = .ok layer) : layer.Usable := by
  obtain ⟨layout, paint, layoutFound, paintFound, _, rfl⟩ := build_eq_ok.mp built
  constructor
  · intro filter given
    exact (usable.filter filter given).accepted
  · exact Property.usable_mapM usable.layout layoutFound
  · exact Property.usable_mapM usable.paint paintFound

/-- A step that draws nothing the renderer refuses. -/
abbrev DrawStep.Usable (step : DrawStep F) : Prop :=
  step.Draws LayerPlan.Usable

theorem usable_compile {steps : List (DrawStep F)} {layers : List (Layer F)}
    (usable : DrawStep.AllDraw LayerPlan.Usable steps)
    (compiled : DrawStep.compile steps = .ok layers) :
    ∀ layer ∈ layers, layer.Usable :=
  DrawStep.forall_mem_compile usable (fun _ _ planUsable built => planUsable.build built) compiled

end MapStyle
