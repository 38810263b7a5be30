import MapStyle.Presets
import MapStyle.Proofs.Expr.Abbreviated
import MapStyle.Proofs.Layer.CompleteTexts
import MapStyle.Proofs.Poi.Tier

/-!
# Features that are labelled once

Labels are split over several layers where they differ by what they label: points of interest by
rank, roads by class and global waters by their names. The filters of such layers leave no gap and
do not overlap, so that a name is neither drawn twice nor lost.
-/

namespace MapStyle

set_option autoImplicit false

open DrawStep (compile countP_of_compile)
open MapStyle.Expr (Decides decides_allOf decides_anyOf decides_contained decides_has
  decides_of_meaning verdict_bind)

variable {F : Type} [Arithmetic F] {feature : Feature F}

/-- Of groups without a common member at most one has the member that something holds of. -/
theorem countP_any_of_nodup {α : Type} {holds : α → Bool} {groups : List (List α)}
    (unique : ∀ first second, holds first = true → holds second = true → first = second)
    (distinct : groups.flatten.Nodup) :
    groups.countP (fun group => group.any holds) = if groups.flatten.any holds then 1 else 0 := by
  induction groups with
  | nil => rfl
  | cons group rest ih =>
      rw [List.flatten_cons, List.nodup_append] at distinct
      obtain ⟨_, restDistinct, apart⟩ := distinct
      rw [List.countP_cons, ih restDistinct, List.flatten_cons, List.any_append]
      cases here : group.any holds with
      | false => simp
      | true =>
          obtain ⟨member, inGroup, memberHolds⟩ := List.any_eq_true.mp here
          have noOther : rest.flatten.any holds = false := by
            rw [List.any_eq_false]
            intro other inRest otherHolds
            exact apart member inGroup other inRest (unique member other memberHolds otherHolds)
          simp [noOther]

/-- Whether a plan draws a feature of its source. -/
def LayerPlan.passes (plan : LayerPlan F) (feature : Feature F) : Bool :=
  plan.filter.all fun filter => filter.passes feature

theorem LayerPlan.passes_of_build {plan : LayerPlan F} {layer : Layer F}
    (built : plan.build = .ok layer) : layer.passes feature = plan.passes feature :=
  congrArg (fun drawn : Layer F => drawn.passes feature) (eq_layerWith_of_build built)

/-! ### Roads -/

namespace RoadLabel

/-- What the filters of names along roads ask of a named road at grade. -/
theorem decides_group {classFilter : Expr F} {truth : Bool} (atGrade : feature.isAtGrade = true)
    (named : (feature "name").isSome = true) (decided : classFilter.Decides feature [] truth) :
    (Expr.allOf (Filter.atGrade ++ [classFilter, Expr.has "name"])).Decides feature [] truth := by
  obtain ⟨noTunnel, noBridge⟩ := Bool.and_eq_true_iff.mp atGrade
  have isNo (place : String) : (Expr.unequal (.get "brunnel") (.text place)).Decides feature []
      !feature.has "brunnel" place := decides_of_meaning Expr.meaning_unequal_text
  have hasName : (Expr.has "name").Decides feature [] (feature "name").isSome := decides_has
  have all := decides_allOf (.cons (isNo "tunnel") (.cons (isNo "bridge") (.cons decided
    (.cons hasName .nil))))
  have onlyClass : [true, true, truth, true].all id = truth := by simp
  rw [named, noTunnel, noBridge, onlyClass] at all
  exact all

/-- The classes of the first three groups. -/
def classGroups : List (List String) :=
  [["motorway", "trunk", "primary"], ["secondary"], ["tertiary", "residential"]]

theorem countP_steps (theme : Theme F) (atGrade : feature.isAtGrade = true)
    (named : (feature "name").isSome = true) :
    (DrawStep.plans (steps theme)).countP (fun plan => plan.passes feature) = 1 := by
  have isIn (classes : List String) : (Expr.isOneOf "class" classes).Decides feature []
      (classes.any (feature.has "class")) := decides_of_meaning Expr.meaning_isOneOf_any
  have isSecondary : (Expr.equal (.get "class") "secondary").Decides feature []
      (["secondary"].any (feature.has "class")) := by
    rw [List.any_cons, List.any_nil, Bool.or_false]
    exact decides_of_meaning Expr.meaning_equal_text
  have passes {classFilter : Expr F} {truth : Bool}
      (decided : classFilter.Decides feature [] truth) :
      (Expr.allOf (Filter.atGrade ++ [classFilter, Expr.has "name"])).passes feature = truth :=
    (decides_group atGrade named decided).passes_eq
  have counted : (DrawStep.plans (steps theme)).countP (fun plan => plan.passes feature) =
      (classGroups.countP fun classes => classes.any (feature.has "class")) +
        if labelledClasses.any (feature.has "class") then 0 else 1 := by
    -- The filters of the first three groups ask for the groups of classes one by one.
    show [_, _, _, _].countP _ = [_, _, _].countP _ + _
    simp only [List.countP_cons, List.countP_nil, LayerPlan.passes, Option.all_some,
      passes (isIn _), passes isSecondary, passes (isIn _).negated]
    cases labelledClasses.any (feature.has "class") with
    | true => rfl
    | false =>
        simp only [Bool.not_false, Bool.false_eq_true, if_true, if_false]
        omega
  rw [counted, countP_any_of_nodup (fun _ _ => Feature.eq_of_has) (by decide)]
  show (if labelledClasses.any (feature.has "class") then 1 else 0) + _ = 1
  split <;> rfl

end RoadLabel

/-! ### Waters -/

/-- Whether a feature has a name of either kind. -/
def Feature.isNamed (feature : Feature F) : Bool :=
  (feature "name").isSome || (feature "name:en").isSome

theorem decides_hasName : (Filter.hasName : Expr F).Decides feature [] feature.isNamed := by
  have hasName : (Expr.has "name").Decides feature [] (feature "name").isSome := decides_has
  have hasEnglish : (Expr.has "name:en").Decides feature [] (feature "name:en").isSome :=
    decides_has
  have any := decides_anyOf (.cons hasName (.cons hasEnglish .nil))
  rwa [List.any_cons, List.any_cons, List.any_nil, Bool.or_false] at any

namespace WaterLabel

/-- The name of a water as filters read it: without one it is the empty text. -/
def name (feature : Feature F) : Json F :=
  match LabelText.displayName feature with
  | .null => .text ""
  | shown => shown

/-- Whether a text contains one of several words. -/
def contains (words : List String) (text : String) : Bool :=
  words.any fun word => decide (word.toList <:+: text.toList)

theorem valueIn_name {scope : Scope F} :
    (Expr.coalesce [.get "name:en", .get "name", ""]).valueIn feature scope =
      some (name feature) := by
  show Expr.firstGiven feature [.get "name:en", .get "name", ""] scope = _
  simp only [Expr.firstGiven, Expr.valueIn_get, name, LabelText.displayName,
    Option.bind_eq_bind, Option.bind_some]
  cases (feature "name:en").getD .null with
  | null => cases (feature "name").getD .null <;> rfl
  | _ => rfl

section Words

variable {text : String}

theorem decides_word (word : String) :
    (Expr.contained (.text word) (Expr.variableNamed "name") : Expr F).Decides feature
      [("name", .text text)] (decide (word.toList <:+: text.toList)) :=
  decides_contained rfl rfl

theorem decides_anyWord (words : List String) :
    (Expr.anyOf (nameContains words) : Expr F).Decides feature [("name", .text text)]
      (contains words text) := by
  have each : List.Forall₂ (Decides feature [("name", .text text)]) (nameContains words)
      (words.map fun word => decide (word.toList <:+: text.toList)) :=
    List.forall₂_map_left_iff.mpr (List.forall₂_map_right_iff.mpr
      (List.forall₂_same.mpr fun word _ => decides_word word))
  have any := decides_anyOf each
  rwa [List.any_map] at any

theorem decides_noWord (words : List String) :
    (Expr.allOf ((nameContains words).map Expr.negated) : Expr F).Decides feature
      [("name", .text text)] !contains words text := by
  have each : List.Forall₂ (Decides feature [("name", .text text)])
      ((nameContains words).map Expr.negated)
      (words.map fun word => !decide (word.toList <:+: text.toList)) := by
    rw [nameContains, List.map_map]
    exact List.forall₂_map_left_iff.mpr (List.forall₂_map_right_iff.mpr
      (List.forall₂_same.mpr fun word _ => (decides_word word).negated))
  have all := decides_allOf each
  rw [List.all_map] at all
  rwa [contains, List.not_any_eq_all_not]

variable (given : name feature = .text text)

include given

/-- A condition on the name of a named water. -/
theorem decides_named {body : Expr F} {truth : Bool} (named : feature.isNamed = true)
    (decided : body.Decides feature [("name", .text text)] truth) :
    (Expr.allOf [Filter.hasName, withName body]).Decides feature [] truth := by
  have found : (Expr.coalesce [.get "name:en", .get "name", ""]).valueIn feature [] =
      some (name feature) := valueIn_name
  rw [given] at found
  have bound : (withName body).Decides feature [] truth := (verdict_bind found).trans decided
  have all := decides_allOf (.cons decides_hasName (.cons bound .nil))
  rw [named] at all
  simpa using all

theorem countP_global (theme : Theme F) (isNamed : feature.isNamed = true) :
    (DrawStep.plans (global theme)).countP (fun plan =>
      plan.sourceLayer == some "water_name" && plan.passes feature) = 1 := by
  have passes {body : Expr F} {truth : Bool}
      (decided : body.Decides feature [("name", .text text)] truth) :
      (named (withName body)).all (fun filter => filter.passes feature) = truth :=
    (decides_named given isNamed decided).passes_eq
  have ocean : (named isOcean).all (fun filter => filter.passes feature) = _ :=
    passes (decides_anyWord ["Ocean", "ocean"])
  have noOcean : (named isNoOcean).all (fun filter => filter.passes feature) = _ :=
    passes (decides_noWord ["Ocean", "ocean"])
  show [_, _, _, _].countP _ = 1
  simp only [List.countP_cons, List.countP_nil, LayerPlan.passes, ocean, noOcean]
  cases contains ["Ocean", "ocean"] text <;> simp

end Words

end WaterLabel

/-! ### All labels -/

/-- Points of interest, roads and waters are labelled once. A point that belongs to a category with
tiers is in one tier. A road with a name that is neither a tunnel nor a bridge is labelled by one of
the four layers, whatever its class is. A water with a name that is a text is labelled by one of the
two layers for names of waters. -/
theorem labelled_once [OrderedArithmetic F] :
    (∀ category filter, PoiCategory.tierFilter? category = some filter →
      ∀ feature : Feature F, feature.RankedFromOne → (∃ tier, (filter tier).passes feature = true) →
        ∃! tier, (filter tier).passes feature = true) ∧
    (∀ theme : Theme F, Returns
      (fun layers => ∀ feature : Feature F, (feature "name").isSome = true →
        feature.isAtGrade = true → layers.countP (fun layer => layer.passes feature) = 1)
      (compile (RoadLabel.steps theme))) ∧
    ∀ theme : Theme F, Returns
      (fun layers => ∀ (feature : Feature F) (text : String), feature.isNamed = true →
        WaterLabel.name feature = .text text →
          layers.countP (fun layer =>
            layer.sourceLayer == some "water_name" && layer.passes feature) = 1)
      (compile (WaterLabel.global theme)) := by
  refine ⟨?tiers, ?roads, ?waters⟩
  case tiers =>
    intro category filter found feature ranked passed
    exact (PoiLabel.asksForTier_of_tierFilter? found).existsUnique ranked passed
  case roads =>
    intro theme
    apply RoadLabel.succeeds_steps.compile.returns
    intro layers compiled feature named atGrade
    rw [countP_of_compile (fun _ _ => LayerPlan.passes_of_build) compiled]
    exact RoadLabel.countP_steps theme atGrade named
  case waters =>
    intro theme
    apply WaterLabel.succeeds_global.compile.returns
    intro layers compiled feature text named given
    have same (plan : LayerPlan F) (layer : Layer F) (built : plan.build = .ok layer) :
        (layer.sourceLayer == some "water_name" && layer.passes feature) =
          (plan.sourceLayer == some "water_name" && plan.passes feature) := by
      rw [LayerPlan.sourceLayer_of_build built, LayerPlan.passes_of_build built]
    rw [countP_of_compile same compiled]
    exact WaterLabel.countP_global given theme named

/-- A hospital without a rank. -/
def unrankedHospital : Feature Rat
  | "class" => some (.text "healthcare")
  | "subclass" => some (.text "hospital")
  | _ => none

/-- A road with a name and no class. -/
def unclassedRoad : Feature Rat
  | "name" => some (.text "Main Street")
  | _ => none

def atlanticOcean : Feature Rat
  | "name" => some (.text "Atlantic Ocean")
  | _ => none

theorem labelled_once_parchment :
    (∃! tier, (PoiLabel.hospitalFilter tier).passes unrankedHospital = true) ∧
      Returns (fun layers => layers.countP (fun layer => layer.passes unclassedRoad) = 1)
        (compile (RoadLabel.steps Preset.parchment)) ∧
      Returns (fun layers => layers.countP (fun layer =>
          layer.sourceLayer == some "water_name" && layer.passes atlanticOcean) = 1)
        (compile (WaterLabel.global Preset.parchment)) := by
  obtain ⟨tiers, roads, waters⟩ := labelled_once (F := Rat)
  refine ⟨?hospital, ?road, ?ocean⟩
  case hospital =>
    refine tiers .hospital _ rfl unrankedHospital ?_ ⟨.first, by decide⟩
    intro value given
    cases given
  case road => exact (roads _).mono fun _ once => once unclassedRoad rfl (by decide)
  case ocean => exact (waters _).mono fun _ once => once atlanticOcean "Atlantic Ocean" rfl rfl

end MapStyle
