import MapStyle.Expr.ClassColour
import MapStyle.Expr.Filter
import MapStyle.Number.Arithmetic
import MapStyle.Presets
import MapStyle.Proofs.Expr.Choice
import MapStyle.Proofs.Expr.Meaning

/-!
# Colours as they are painted

A layer paints the features of a category with one expression over their classes. What the renderer
finds for it is the colour that the theme resolves for the class of the feature, class by class.
-/

namespace MapStyle

set_option autoImplicit false

variable {F : Type} [Arithmetic F] {feature : Feature F} {featureClass : String}

/-- What passes the filter of major roads has one of their classes. -/
theorem Filter.class_of_majorRoad (isClass : feature "class" = some (.text featureClass))
    (admitted : (majorRoad : Expr F).Admits feature) : featureClass ∈ majorRoadClasses := by
  have ofClass := Expr.admits_allOf.mp admitted
    (Expr.isOneOf "class" majorRoadClasses) (by simp)
  rw [Expr.Admits, Expr.meaning_isOneOf isClass] at ofClass
  simpa [Json.bool] using ofClass

/-- A match with one case for each of several texts is accepted if they are distinct. -/
theorem Expr.matching_texts {input fallback : Expr F} {output : String → Expr F}
    {texts : List String} (given : texts ≠ []) (distinct : texts.Nodup) :
    matching input (texts.map fun label => (.text label, output label)) fallback =
      .ok (matchNode input (texts.map fun label => (.text label, output label)) fallback) := by
  have labels : ((texts.map fun label => (text label, output label)).map Prod.fst).flatMap
      caseLabels = texts.map (text : String → Expr F) := by
    rw [List.map_map, List.flatMap_map, List.map_eq_flatMap]
    rfl
  refine matching_eq_ok.mpr ⟨by simpa using given, ?_, ?_, rfl⟩
  · simp [isEmptyGroup]
  · rw [labels]
    exact distinct_texts.mpr distinct

theorem Category.nodup_classes (category : Category) : category.classes.Nodup := by
  cases category <;> decide

theorem Category.classes_ne_nil (category : Category) : category.classes ≠ [] := by
  cases category <;> decide

namespace Theme

variable {theme : Theme F} {category : Category}

/-- A colour that can be compiled, and that is painted as the theme resolves it. -/
def Paints (theme : Theme F) (category : Category) (feature : Feature F) (featureClass : String)
    (colour : Result F (Expr F)) : Prop :=
  Returns (fun found => found.meaning feature =
    some (.ofText? (theme.resolveColour category featureClass))) colour

/-! ### The resolver -/

omit [Arithmetic F] in
theorem inheriting_inheriting (theme : Theme F) (category : Category) :
    theme.inheriting (theme.inheriting category) = theme.inheriting category := by
  cases category with
  | tunnel =>
      by_cases inherits : (theme.roadVariant .tunnel).isNone
      · simp [inheriting, inherits]
      · simp [inheriting, inherits]
  | bridge =>
      by_cases inherits : (theme.roadVariant .bridge).isNone
      · simp [inheriting, inherits]
      · simp [inheriting, inherits]
  | _ => rfl

omit [Arithmetic F] in
/-- Tunnels and bridges that inherit from roads resolve their colours like them. -/
theorem resolveColour_inheriting (theme : Theme F) (category : Category) (featureClass : String) :
    theme.resolveColour (theme.inheriting category) featureClass =
      theme.resolveColour category featureClass := by
  simp only [resolveColour, inheriting_inheriting]

omit [Arithmetic F] in
/-- The colour of a class that a category does not know. -/
theorem resolveColour_of_unknown (unknown : featureClass ∉ (theme.inheriting category).classes) :
    theme.resolveColour category featureClass = theme.resolveFallbackColour category := by
  simp [resolveColour, resolveFallbackColour, paletteColour, unknown]

/-! ### The compiled expressions -/

/-- A match over distinct classes finds the colour of each of them, or else its default. -/
theorem returns_colourMatch {classes : List String} {fallback : Option String}
    (given : classes ≠ []) (distinct : classes.Nodup)
    (isClass : feature "class" = some (.text featureClass)) :
    Returns (fun found => found.meaning feature = some (.ofText?
        (if featureClass ∈ classes then theme.resolveColour category featureClass else fallback)))
      (theme.colourMatch category classes "class" fallback) := by
  have input : (Expr.get "class" : Expr F).meaning feature = some (.text featureClass) := by
    simp [isClass]
  have chosen := Expr.meaning_matchTexts classes
    (fun name => Expr.ofText? (theme.resolveColour category name)) (Expr.ofText? fallback) input
  refine ⟨_, Expr.matching_texts given distinct, chosen.trans ?_⟩
  split <;> exact Expr.meaning_ofText? _

theorem paints_classColour (own : theme.inheriting category = category)
    (isClass : feature "class" = some (.text featureClass)) :
    theme.Paints category feature featureClass (theme.classColour category "class") := by
  unfold classColour
  split
  · rename_i colour isOverride
    have resolved : theme.resolveColour category featureClass = some colour := by
      simp [resolveColour, own, isOverride]
    exact Returns.ok_iff.mpr (by rw [resolved]; rfl)
  · apply (returns_colourMatch category.classes_ne_nil category.nodup_classes isClass).mono
    intro found means
    rw [means]
    split
    · rfl
    · rename_i unknown
      rw [resolveColour_of_unknown (own.symm ▸ unknown)]

/-- Tunnels and bridges are painted with the colours that they inherit, if they have none. -/
theorem paints_inheriting (theme : Theme F) (category : Category)
    (isClass : feature "class" = some (.text featureClass)) :
    theme.Paints category feature featureClass
      (theme.classColour (theme.inheriting category) "class") := by
  have painted := paints_classColour (theme.inheriting_inheriting category) isClass
  rwa [Paints, resolveColour_inheriting] at painted

/-- Every colour that layers paint features with by class is the one that is resolved for the
class, whatever it is; major roads are painted as they are resolved wherever their filter lets a
feature pass. -/
theorem painted_as_resolved (theme : Theme F) (feature : Feature F) (featureClass : String)
    (isClass : feature "class" = some (.text featureClass)) :
    theme.Paints .land feature featureClass theme.landcoverFill ∧
    theme.Paints .landuse feature featureClass theme.landuseFill ∧
    theme.Paints .water feature featureClass theme.waterFill ∧
    theme.Paints .waterway feature featureClass theme.waterwayLine ∧
    theme.Paints .road feature featureClass theme.roadLine ∧
    theme.Paints .tunnel feature featureClass theme.tunnelLine ∧
    theme.Paints .bridge feature featureClass theme.bridgeLine ∧
    ((Filter.majorRoad : Expr F).Admits feature →
      theme.Paints .road feature featureClass theme.majorRoadLine) := by
  refine ⟨paints_classColour rfl isClass, paints_classColour rfl isClass,
    paints_classColour rfl isClass, paints_classColour rfl isClass,
    paints_classColour rfl isClass, paints_inheriting theme .tunnel isClass,
    paints_inheriting theme .bridge isClass, fun admitted => ?_⟩
  have isMajor := Filter.class_of_majorRoad isClass admitted
  apply (returns_colourMatch (by decide) (by decide) isClass).mono
  intro found means
  rw [means, if_pos isMajor]

/-- A primary road on the surface. -/
def primaryRoad : Feature Rat :=
  fun property => if property = "class" then some (.text "primary") else none

theorem monochrome_primary_painted :
    (Filter.majorRoad : Expr Rat).Admits primaryRoad ∧
      Preset.monochrome.Paints .road primaryRoad "primary" Preset.monochrome.majorRoadLine := by
  have admitted : (Filter.majorRoad : Expr Rat).Admits primaryRoad := rfl
  obtain ⟨_, _, _, _, _, _, _, major⟩ :=
    painted_as_resolved Preset.monochrome primaryRoad "primary" rfl
  exact ⟨admitted, major admitted⟩

end Theme

end MapStyle
