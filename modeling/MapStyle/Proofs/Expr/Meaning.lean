import MapStyle.Expr.Curve
import MapStyle.Theme.Description

/-!
# What expressions mean

The value that the renderer finds for an expression when it draws a feature: for constants and
properties, for conditions, and for the choices that a match and a case make. Values are compared
as they are, so a truth value is no number. An expression whose value is not described here has
none.
-/

namespace MapStyle

set_option autoImplicit false

variable {F : Type}

/-- A feature by the values of its properties. -/
abbrev Feature (F : Type) := String → Option (Json F)

/-- The truth value that a value is, if it is one. -/
def Json.truth? : Json F → Option Bool
  | .number (.flag value) => some value
  | _ => none

variable [Arithmetic F]

/-- Whether two values are the same null, text, truth value or number. -/
def Json.isSame : Json F → Json F → Bool
  | .null, .null => true
  | .text left, .text right => left == right
  | .number (.flag left), .number (.flag right) => left == right
  | .number (.flag _), .number _ => false
  | .number _, .number (.flag _) => false
  | .number left, .number right => left.same right
  | _, _ => false

namespace Expr

/-- Whether a label is a value. -/
def isLabelOf (value : Json F) : Expr F → Bool
  | .text label => value.isSame (.text label)
  | .number label => value.isSame (.number label)
  | _ => false

/-- Whether a label, or one of a group of labels, is a value. -/
def covers (value : Json F) : Expr F → Bool
  | .labels group => group.any (isLabelOf value)
  | label => label.isLabelOf value

mutual

def meaning (feature : Feature F) : Expr F → Option (Json F)
  | .null => some .null
  | .number value => some (.number value)
  | .text value => some (.text value)
  | .get property => some ((feature property).getD .null)
  | .op "has" [.text property] => some (.bool (feature property).isSome)
  | .op "==" [left, right] => do
      return .bool ((← meaning feature left).isSame (← meaning feature right))
  | .op "!=" [left, right] => do
      return .bool !((← meaning feature left).isSame (← meaning feature right))
  | .op "!" [condition] => do return .bool !(← (← meaning feature condition).truth?)
  | .op "all" conditions => (allHold feature conditions).map .bool
  | .op "any" conditions => (anyHolds feature conditions).map .bool
  | .op "match" (input :: branches) => do chosen feature (← meaning feature input) branches
  | .op "case" branches => firstHolding feature branches
  | _ => none
termination_by structural expression => expression

/-- Conditions are looked at until one does not hold. -/
def allHold (feature : Feature F) : List (Expr F) → Option Bool
  | [] => some true
  | condition :: rest => do
      if ← (← meaning feature condition).truth? then allHold feature rest else return false
termination_by structural conditions => conditions

/-- Conditions are looked at until one holds. -/
def anyHolds (feature : Feature F) : List (Expr F) → Option Bool
  | [] => some false
  | condition :: rest => do
      if ← (← meaning feature condition).truth? then return true else anyHolds feature rest
termination_by structural conditions => conditions

/-- The output behind the first label that is the value, else the last output. -/
def chosen (feature : Feature F) (value : Json F) : List (Expr F) → Option (Json F)
  | [] => none
  | [fallback] => meaning feature fallback
  | label :: output :: rest =>
      if label.covers value then meaning feature output else chosen feature value rest
termination_by structural branches => branches

/-- The output behind the first condition that holds, else the last output. -/
def firstHolding (feature : Feature F) : List (Expr F) → Option (Json F)
  | [] => none
  | [fallback] => meaning feature fallback
  | condition :: output :: rest => do
      if ← (← meaning feature condition).truth? then meaning feature output
      else firstHolding feature rest
termination_by structural branches => branches

end

/-- Whether a filter lets a feature pass. -/
def Admits (filter : Expr F) (feature : Feature F) : Prop :=
  filter.meaning feature = some (.bool true)

variable {feature : Feature F}

@[simp] theorem meaning_ofText? (value : Option String) :
    (ofText? value : Expr F).meaning feature = some (.ofText? value) := by
  cases value <;> rfl

@[simp] theorem meaning_get (property : String) :
    (get property : Expr F).meaning feature = some ((feature property).getD .null) :=
  rfl

@[simp] theorem covers_text (value label : String) :
    (text label : Expr F).covers (.text value) = (value == label) :=
  rfl

@[simp] theorem covers_texts (value : String) (group : List String) :
    (labels (group.map text) : Expr F).covers (.text value) = group.contains value := by
  simp only [covers, List.any_map, List.contains_eq_any_beq]
  rfl

/-- A match has the output of the first case whose label is the value, or else its default. -/
theorem chosen_alternating {value : Json F} {branches : List (Expr F × Expr F)}
    {fallback : Expr F} :
    chosen feature value (alternating branches ++ [fallback]) =
      (((branches.find? fun branch => branch.1.covers value).map Prod.snd).getD fallback).meaning
        feature := by
  induction branches with
  | nil => rfl
  | cons branch rest ih =>
      show (if branch.1.covers value then _ else _) = _
      rw [List.find?_cons]
      cases branch.1.covers value with
      | true => rfl
      | false => exact ih

theorem meaning_matchNode {input fallback : Expr F} {branches : List (Expr F × Expr F)}
    {value : Json F} (found : input.meaning feature = some value) :
    (matchNode input branches fallback).meaning feature =
      (((branches.find? fun branch => branch.1.covers value).map Prod.snd).getD fallback).meaning
        feature := by
  show (input.meaning feature).bind _ = _
  rw [found]
  exact chosen_alternating

/-- A match with one case for each of several texts. -/
theorem meaning_matchTexts (texts : List String) (output : String → Expr F) (fallback : Expr F)
    {input : Expr F} {value : String} (found : input.meaning feature = some (.text value)) :
    (matchNode input (texts.map fun label => (.text label, output label)) fallback).meaning
        feature =
      (if value ∈ texts then output value else fallback).meaning feature := by
  have looked : texts.find? (fun label => value == label) =
      if value ∈ texts then some value else none := by
    induction texts with
    | nil => rfl
    | cons label rest ih =>
        rw [List.find?_cons, ih]
        by_cases same : value = label
        · simp [same]
        · simp [beq_false_of_ne same, same]
  rw [meaning_matchNode found, List.find?_map]
  simp only [Function.comp_def, covers_text, looked]
  split <;> rfl

/-- A text is one of several values if the property has it. -/
theorem meaning_isOneOf {property : String} {values : List String} {value : String}
    (found : feature property = some (.text value)) :
    (isOneOf property values : Expr F).meaning feature =
      some (.bool (values.contains value)) := by
  have input : (get property : Expr F).meaning feature = some (.text value) := by simp [found]
  rw [isOneOf, meaning_matchNode input, List.find?_singleton, covers_texts]
  cases values.contains value <;> rfl

omit [Arithmetic F] in
theorem truth_iff {value : Json F} {truth : Bool} :
    value.truth? = some truth ↔ value = .bool truth := by
  cases value with
  | number value => cases value <;> simp [Json.truth?, Json.bool]
  | _ => simp [Json.truth?, Json.bool]

theorem allHold_iff {conditions : List (Expr F)} :
    allHold feature conditions = some true ↔
      ∀ condition ∈ conditions, condition.Admits feature := by
  induction conditions with
  | nil => simp [allHold]
  | cons condition rest ih =>
      rw [List.forall_mem_cons, ← ih, Admits]
      simp only [allHold, Option.bind_eq_bind, Option.bind_eq_some_iff, truth_iff]
      constructor
      · rintro ⟨value, found, truth, rfl, holds⟩
        cases truth with
        | true => exact ⟨found, holds⟩
        | false => cases holds
      · rintro ⟨found, holds⟩
        exact ⟨_, found, true, rfl, holds⟩

/-- All conditions hold exactly if each of them does. -/
theorem admits_allOf {conditions : List (Expr F)} :
    (allOf conditions).Admits feature ↔ ∀ condition ∈ conditions, condition.Admits feature := by
  have unfolded : (allOf conditions).meaning feature = (allHold feature conditions).map .bool := rfl
  rw [← allHold_iff, Admits, unfolded, Option.map_eq_some_iff]
  simp [Json.bool]

end Expr

end MapStyle
