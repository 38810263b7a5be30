import Mathlib.Logic.ExistsUnique
import MapStyle.Layer.Road
import MapStyle.Number.Arithmetic
import MapStyle.Proofs.Expr.Meaning

/-!
# Groups of roads

Tunnels, bridges and four groups of roads at grade have layers of their own: normal roads, alleys,
parking aisles, and all other roads. No feature is in two groups. The only features in none are
those that are called an alley or a parking aisle but have another class of road than that of
service ways: normal roads leave them out for what they are called, and alleys, parking aisles and
other roads for their class.
-/

namespace MapStyle

set_option autoImplicit false

variable {F : Type} [Arithmetic F] {feature : Feature F}

/-- Whether a property of a feature is a text. -/
def Feature.has (feature : Feature F) (property text : String) : Bool :=
  ((feature property).getD .null).isSame (.text text)

namespace Feature

variable {property text other : String}

theorem has_iff : feature.has property text = true ↔ feature property = some (.text text) := by
  unfold has
  cases feature property with
  | none => simp [Json.isSame]
  | some value => cases value <;> simp [Json.isSame]

/-- A property is one text at most. -/
theorem eq_of_has (first : feature.has property text = true)
    (second : feature.has property other = true) : text = other := by
  rw [has_iff] at first second
  rw [first] at second
  cases second
  rfl

theorem has_eq_false (first : feature.has property text = true) (different : text ≠ other) :
    feature.has property other = false := by
  rw [Bool.eq_false_iff]
  intro second
  exact different (eq_of_has first second)

end Feature

namespace Expr

variable {property text : String}

theorem admits_iff {condition : Expr F} {truth : Bool}
    (means : condition.meaning feature = some (.bool truth)) :
    condition.Admits feature ↔ truth = true := by
  rw [Admits, means]
  simp [Json.bool]

theorem meaning_equal_text : (equal (.get property) (.text text)).meaning feature =
    some (.bool (feature.has property text)) :=
  rfl

theorem meaning_unequal_text : (unequal (.get property) (.text text)).meaning feature =
    some (.bool !feature.has property text) :=
  rfl

/-- A property is one of several texts if it is any of them, and not if it is no text. -/
theorem meaning_isOneOf_any {texts : List String} : (isOneOf property texts).meaning feature =
    some (.bool (texts.any (feature.has property))) := by
  have covered : (labels (texts.map text) : Expr F).covers ((feature property).getD .null) =
      texts.any (feature.has property) := by
    simp only [covers, List.any_map]
    rfl
  rw [isOneOf, meaning_matchNode (meaning_get property), List.find?_singleton, covered]
  cases texts.any (feature.has property) <;> rfl

theorem meaning_negated {condition : Expr F} {truth : Bool}
    (means : condition.meaning feature = some (.bool truth)) :
    (negated condition).meaning feature = some (.bool !truth) := by
  show ((condition.meaning feature).bind fun value => value.truth?.bind fun found =>
    some (Json.bool !found)) = _
  rw [means]
  rfl

end Expr

namespace Road

/-- The groups of roads that have layers of their own. -/
inductive Group where
  | tunnel
  | bridge
  | normal
  | alley
  | parkingAisle
  | other
  deriving DecidableEq, Repr

namespace Group

/-- What the layers of a group let pass. -/
def filter : Group → Expr F
  | .tunnel => Filter.tunnel
  | .bridge => Filter.bridge
  | .normal => Filter.normalRoad
  | .alley => Filter.alley
  | .parkingAisle => Filter.parkingAisle
  | .other => otherFilter

end Group

end Road

namespace Feature

variable (feature)

def isAtGrade : Bool :=
  !feature.has "brunnel" "tunnel" && !feature.has "brunnel" "bridge"

/-- Whether a feature has one of the classes of road that widths and colours know. -/
def isKnownRoad : Bool :=
  Filter.normalRoadClasses.any (feature.has "class")

/-- Whether a feature is called an alley or a parking aisle. -/
def isNarrow : Bool :=
  feature.has "service" "alley" || feature.has "service" "parking_aisle"

/-- An alley or parking aisle that has a class of road but is no service way. -/
def isStray : Bool :=
  feature.isAtGrade && feature.isKnownRoad && !feature.has "class" "service" && feature.isNarrow

/-- The group of a feature. -/
def roadGroup? : Option Road.Group :=
  if feature.has "brunnel" "tunnel" then some .tunnel
  else if feature.has "brunnel" "bridge" then some .bridge
  else if !feature.isKnownRoad then some .other
  else if !feature.isNarrow then some .normal
  else if !feature.has "class" "service" then none
  else if feature.has "service" "alley" then some .alley
  else some .parkingAisle

variable {feature}

theorem isKnownRoad_of_service (service : feature.has "class" "service" = true) :
    feature.isKnownRoad = true :=
  List.any_eq_true.mpr ⟨"service", by decide, service⟩

theorem roadGroup?_eq_none_iff : feature.roadGroup? = none ↔ feature.isStray = true := by
  unfold roadGroup? isStray isAtGrade
  cases feature.has "brunnel" "tunnel" <;> cases feature.has "brunnel" "bridge" <;>
    cases feature.isKnownRoad <;> cases feature.isNarrow <;>
    cases feature.has "class" "service" <;> cases feature.has "service" "alley" <;> decide

end Feature

namespace Road

open MapStyle.Expr (admits_iff admits_allOf meaning_equal_text meaning_unequal_text
  meaning_isOneOf_any meaning_negated)

/-! ### What the filters let pass -/

theorem admits_atGrade_and {conditions : List (Expr F)} :
    (Expr.allOf (Filter.atGrade ++ conditions)).Admits feature ↔
      feature.isAtGrade = true ∧ ∀ condition ∈ conditions, condition.Admits feature := by
  rw [admits_allOf, List.forall_mem_append]
  simp [Filter.atGrade, admits_iff meaning_unequal_text, Feature.isAtGrade]

theorem admits_normalRoad : (Filter.normalRoad : Expr F).Admits feature ↔
    feature.isAtGrade = true ∧ feature.isKnownRoad = true ∧ feature.isNarrow = false := by
  rw [Filter.normalRoad, admits_atGrade_and]
  simp [admits_iff meaning_isOneOf_any, admits_iff meaning_unequal_text, Feature.isKnownRoad,
    Feature.isNarrow]

theorem admits_serviceRoad {service : String} :
    (Filter.serviceRoad service : Expr F).Admits feature ↔
      feature.isAtGrade = true ∧ feature.has "class" "service" = true ∧
        feature.has "service" service = true := by
  have isClass : (Expr.equal (.get "class") "service" : Expr F).Admits feature ↔
      feature.has "class" "service" = true := admits_iff meaning_equal_text
  rw [Filter.serviceRoad, admits_atGrade_and]
  simp [isClass, admits_iff meaning_equal_text]

theorem admits_other : (otherFilter : Expr F).Admits feature ↔
    feature.isAtGrade = true ∧ feature.isKnownRoad = false := by
  rw [otherFilter, admits_atGrade_and]
  simp [admits_iff (meaning_negated meaning_isOneOf_any), Feature.isKnownRoad]

/-- A feature passes the filter of its group and no other one. -/
theorem admits_filter_iff (group : Group) :
    (group.filter : Expr F).Admits feature ↔ feature.roadGroup? = some group := by
  have noBridge (tunnel : feature.has "brunnel" "tunnel" = true) :
      feature.has "brunnel" "bridge" = false := Feature.has_eq_false tunnel (by decide)
  have noAisle (alley : feature.has "service" "alley" = true) :
      feature.has "service" "parking_aisle" = false := Feature.has_eq_false alley (by decide)
  have known (service : feature.has "class" "service" = true) : feature.isKnownRoad = true :=
    Feature.isKnownRoad_of_service service
  cases group with
  | tunnel =>
      have admitted : (Filter.tunnel : Expr F).Admits feature ↔ _ := admits_iff meaning_equal_text
      simp only [Group.filter, admitted]
      grind [Feature.roadGroup?]
  | bridge =>
      have admitted : (Filter.bridge : Expr F).Admits feature ↔ _ := admits_iff meaning_equal_text
      simp only [Group.filter, admitted]
      grind [Feature.roadGroup?]
  | normal =>
      simp only [Group.filter, admits_normalRoad, Feature.isAtGrade]
      grind [Feature.roadGroup?]
  | alley =>
      simp only [Group.filter, Filter.alley, admits_serviceRoad, Feature.isAtGrade]
      grind [Feature.roadGroup?, Feature.isNarrow]
  | parkingAisle =>
      simp only [Group.filter, Filter.parkingAisle, admits_serviceRoad, Feature.isAtGrade]
      grind [Feature.roadGroup?, Feature.isNarrow]
  | other =>
      simp only [Group.filter, admits_other, Feature.isAtGrade]
      grind [Feature.roadGroup?]

/-- Every feature is in exactly one group, but for alleys and parking aisles that are no service
ways: no layer draws them. -/
theorem one_group_unless_stray (feature : Feature F) :
    ((∃! group : Group, (group.filter : Expr F).Admits feature) ↔ feature.isStray = false) ∧
      (feature.isStray = true → ∀ group : Group, ¬(group.filter : Expr F).Admits feature) := by
  have noGroup : feature.isStray = true → ∀ group : Group,
      ¬(group.filter : Expr F).Admits feature := by
    intro stray group admitted
    rw [admits_filter_iff, Feature.roadGroup?_eq_none_iff.mpr stray] at admitted
    cases admitted
  refine ⟨⟨?_, ?_⟩, noGroup⟩
  · rintro ⟨group, admitted, _⟩
    rw [← Bool.not_eq_true]
    intro stray
    exact noGroup stray group admitted
  · intro notStray
    have grouped : feature.roadGroup? ≠ none := by
      intro none
      rw [Feature.roadGroup?_eq_none_iff.mp none] at notStray
      cases notStray
    obtain ⟨group, found⟩ := Option.ne_none_iff_exists'.mp grouped
    refine ⟨group, (admits_filter_iff group).mpr found, ?_⟩
    intro same admitted
    rw [admits_filter_iff, found] at admitted
    exact (Option.some_inj.mp admitted).symm

/-- A residential street that is called an alley. -/
def residentialAlley : Feature Rat :=
  fun property =>
    if property = "class" then some (.text "residential")
    else if property = "service" then some (.text "alley")
    else none

theorem residentialAlley_in_no_group :
    ¬∃! group : Group, (group.filter : Expr Rat).Admits residentialAlley := by
  rintro ⟨group, admitted, _⟩
  have noGroup : residentialAlley.roadGroup? = none := by decide
  rw [admits_filter_iff, noGroup] at admitted
  cases admitted

end Road

end MapStyle
