import MapStyle.Layer.RoadLabel
import MapStyle.Proofs.Layer.Complete

/-!
# Shields on the map

Which layers the shields of a theme become, and which sprites these layers ask for. One step draws
one kind of shield; the steps of all kinds follow one another.
-/

namespace MapStyle

set_option autoImplicit false

variable {F : Type}

/-- The name under which a layer looks for its icon in a sprite index. A name that is left open is
looked for as `null`. -/
def Layer.iconName (layer : Layer F) : Option String :=
  match layer.layout.lookup "icon-image" with
  | some (.text name) => some name
  | some .null => some "null"
  | _ => none

/-- What is read off the layers of several lists of steps is what is read off each of them. -/
theorem DrawStep.returns_compile_flatMap {A B : Type} {items : List A}
    {steps : A → List (DrawStep F)} {ofItem : A → List B} (ofLayer : Layer F → B)
    (each : ∀ item ∈ items, Returns (fun layers => layers.map ofLayer = ofItem item)
      (compile (steps item))) :
    Returns (fun layers => layers.map ofLayer = items.flatMap ofItem)
      (compile (items.flatMap steps)) := by
  induction items with
  | nil => exact Returns.ok_iff.mpr rfl
  | cons item rest ih =>
      obtain ⟨first, others⟩ := List.forall_mem_cons.mp each
      rw [List.flatMap_cons, List.flatMap_cons, compile_append]
      apply first.bind
      intro below belowMap
      apply (ih others).bind
      intro above aboveMap
      refine Returns.pure_iff.mpr ?_
      rw [List.map_append, belowMap, aboveMap]

variable [Arithmetic F]

/-! ### What a theme has to give -/

/-- A shield can be drawn if its least zoom is given and the zooms of its text size, if it has one,
ascend. -/
structure ShieldStyle.Ascending (style : ShieldStyle F) : Prop where
  minZoom : style.minZoom.isSome = true
  textSize : ∀ size, style.textSize = some size → size = [] ∨
    ∃ minZoom minSize maxZoom maxSize,
      size = [minZoom, minSize, maxZoom, maxSize] ∧ minZoom.lt maxZoom = true

/-- All shields that are switched on can be drawn. -/
structure ShieldsConfig.Ascending (config : ShieldsConfig F) : Prop where
  minZoom : config.minZoom.isSome = true
  style : ∀ kind, (config.style kind).enabled = true → (config.style kind).Ascending

/-- If shields are switched on, they can be drawn. -/
def Theme.ShieldsAscend (theme : Theme F) : Prop :=
  ∀ config, theme.shields = some config → config.enabled = true → config.Ascending

/-! ### Layers -/

namespace Shield

variable {theme : Theme F} {config : ShieldsConfig F} {kind : ShieldKind} {style : ShieldStyle F}

theorem returns_textSize (ascending : style.Ascending) :
    Returns (fun size => size.minZoom.lt size.maxZoom = true) (textSize style) := by
  unfold textSize
  cases given : style.textSize with
  | none => exact Returns.ok_iff.mpr (Number.lt_int 6 14)
  | some size =>
      obtain rfl | ⟨minZoom, minSize, maxZoom, maxSize, rfl, rising⟩ :=
        ascending.textSize size given
      · exact Returns.ok_iff.mpr (Number.lt_int 6 14)
      · exact Returns.ok_iff.mpr rising

theorem succeeds_minZoom (shared : config.minZoom.isSome = true) (ascending : style.Ascending) :
    Succeeds (minZoom config style) := by
  obtain ⟨own, ownGiven⟩ := Option.isSome_iff_exists.mp ascending.minZoom
  obtain ⟨least, sharedGiven⟩ := Option.isSome_iff_exists.mp shared
  unfold minZoom
  rw [ownGiven, sharedGiven]
  exact Returns.ok_iff.mpr trivial

theorem succeeds_textCurve {size : TextSize F} (rising : size.minZoom.lt size.maxZoom = true) :
    Succeeds size.curve := by
  have climb : Expr.Climb [size.minZoom, size.maxZoom] := by simp [Expr.Climb, rising]
  unfold TextSize.curve Expr.linear
  exact succeeds_iff.mpr ⟨_, Expr.curve_of_climb climb rfl (by simp)⟩

theorem succeeds_iconCurve :
    Succeeds (Expr.linear Expr.zoom [(6, 0.8), (10, 1.0), (14, 1.2)] : Result F (Expr F)) := by
  have climb : Expr.Climb ([6, 10, 14] : List (Number F)) := by
    have first : (6 : Number F).lt 10 = true := Number.lt_int 6 10
    have second : (10 : Number F).lt 14 = true := Number.lt_int 10 14
    simp [Expr.Climb, first, second]
  exact succeeds_iff.mpr ⟨_, Expr.curve_of_climb climb rfl (by simp)⟩

/-- A shield that can be drawn becomes a layer, which asks for the sprite of the shield. -/
theorem returns_build (theme : Theme F) (kind : ShieldKind) (style : ShieldStyle F)
    {size : TextSize F} (least : Number F) (rising : size.minZoom.lt size.maxZoom = true) :
    Returns (fun layer => layer.iconName = some (style.sprite.getD "null"))
      (plan theme kind style size least).build := by
  have complete : (plan theme kind style size least).Complete := by
    refine ⟨by cases kind <;> simp [plan, layerId], by simp [plan], ?_, by simp [plan]⟩
    simp [plan, succeeds_iconCurve, succeeds_textCurve rising]
  obtain ⟨layer, built⟩ := succeeds_iff.mp complete.succeeds_build
  have listed : (plan theme kind style size least).layout.lookup "icon-image" =
      some (.ok (Expr.ofText? style.sprite)) := by
    simp [plan, Property.fixed, Property.computed, List.lookup_cons]
  obtain ⟨value, isSprite, found⟩ := (LayerPlan.lookup_of_build built).1 listed
  cases isSprite
  refine ⟨layer, built, ?_⟩
  simp only [Layer.iconName, found]
  cases style.sprite <;> rfl

/-- The sprites that the layer of one kind of shield asks for: one if the kind is switched on. -/
def kindIcons (config : ShieldsConfig F) (kind : ShieldKind) : List (Option String) :=
  if (config.style kind).enabled then [some ((config.style kind).sprite.getD "null")] else []

theorem returns_kindSteps (ascending : config.Ascending) (kind : ShieldKind) :
    Returns (fun layers => layers.map Layer.iconName = kindIcons config kind)
      (DrawStep.compile (kindSteps theme config kind)) := by
  unfold kindSteps kindIcons
  cases enabled : (config.style kind).enabled with
  | false =>
      simp only [enabled, Bool.not_false, Bool.false_eq_true, if_true, if_false]
      exact Returns.ok_iff.mpr rfl
  | true =>
      have style := ascending.style kind enabled
      obtain ⟨size, sizeFound, rising⟩ := returns_textSize style
      obtain ⟨least, leastFound⟩ := succeeds_iff.mp (succeeds_minZoom ascending.minZoom style)
      simp only [enabled, sizeFound, leastFound, Bool.not_true, Bool.false_eq_true, if_true,
        if_false]
      obtain ⟨layer, built, icon⟩ := returns_build theme kind (config.style kind) least rising
      refine ⟨[layer], ?_, by simp [icon]⟩
      exact bind_eq_ok.mpr ⟨layer, built, rfl⟩

/-- The sprites that the shields of a theme ask for, in the order of their layers. -/
def icons (theme : Theme F) : List (Option String) :=
  match theme.shields.filter (·.enabled) with
  | some config => ShieldKind.all.flatMap (kindIcons config)
  | none => []

/-- Every shield that is switched on becomes a layer, in the order of the kinds. -/
theorem returns_steps (ascend : theme.ShieldsAscend) :
    Returns (fun layers => layers.map Layer.iconName = icons theme)
      (DrawStep.compile (steps theme)) := by
  unfold steps icons DrawStep.ofDomain
  cases found : theme.shields.filter (·.enabled) with
  | none => exact Returns.ok_iff.mpr rfl
  | some config =>
      obtain ⟨given, enabled⟩ := Option.filter_eq_some_iff.mp found
      exact DrawStep.returns_compile_flatMap Layer.iconName fun kind _ =>
        returns_kindSteps (ascend config given enabled) kind

end Shield

end MapStyle
