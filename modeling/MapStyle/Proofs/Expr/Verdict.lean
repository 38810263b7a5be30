import Mathlib.Data.List.Infix
import MapStyle.Layer
import MapStyle.Proofs.Expr.Scoped

/-!
# Verdicts of filters

What a filter says of a feature, also where it names a value, looks for a word in a text or compares
two numbers. Conditions are looked at one after the other until the verdict is clear, and everything
else that a filter is made of counts by its value. A filter that comes to no verdict lets nothing
pass, and a condition that means a truth value has it as its verdict.
-/

namespace MapStyle

set_option autoImplicit false

variable {F : Type}

/-- The number that a value is, if it has an order: truth values have none. -/
def Json.quantity? : Json F → Option (Number F)
  | .number value => if value.isFlag then none else some value
  | _ => none

variable [Arithmetic F]

namespace Expr

mutual

def verdict (feature : Feature F) : Expr F → Scope F → Option Bool
  | .op "let" [.text name, value, body], scope => do
      verdict feature body ((name, ← valueIn feature value scope) :: scope)
  | .op "all" conditions, scope => allPass feature conditions scope
  | .op "any" conditions, scope => anyPasses feature conditions scope
  | .op "!" [condition], scope => do return !(← verdict feature condition scope)
  | .op ">" [left, right], scope => do
      let larger ← (← valueIn feature left scope).quantity?
      return (← (← valueIn feature right scope).quantity?).lt larger
  | .op "in" [part, whole], scope => do
      let text ← (← valueIn feature whole scope).text?
      return decide ((← (← valueIn feature part scope).text?).toList <:+: text.toList)
  | condition, scope => do (← valueIn feature condition scope).truth?
termination_by structural condition => condition

/-- Conditions are looked at until one does not hold. -/
def allPass (feature : Feature F) : List (Expr F) → Scope F → Option Bool
  | [], _ => some true
  | condition :: rest, scope => do
      if ← verdict feature condition scope then allPass feature rest scope else return false
termination_by structural conditions => conditions

/-- Conditions are looked at until one holds. -/
def anyPasses (feature : Feature F) : List (Expr F) → Scope F → Option Bool
  | [], _ => some false
  | condition :: rest, scope => do
      if ← verdict feature condition scope then return true else anyPasses feature rest scope
termination_by structural conditions => conditions

end

/-- The condition comes to a verdict. -/
def Decides (feature : Feature F) (scope : Scope F) (condition : Expr F) (truth : Bool) : Prop :=
  condition.verdict feature scope = some truth

/-- Whether a filter lets a feature pass. -/
def passes (filter : Expr F) (feature : Feature F) : Bool :=
  filter.verdict feature [] == some true

variable {feature : Feature F} {scope : Scope F} {condition : Expr F} {truth : Bool}

theorem Decides.passes_eq (decided : condition.Decides feature [] truth) :
    condition.passes feature = truth := by
  rw [passes, decided]
  cases truth <;> rfl

/-! ### Several conditions -/

theorem Decides.negated (decided : condition.Decides feature scope truth) :
    (negated condition).Decides feature scope !truth := by
  show (condition.verdict feature scope).bind _ = _
  rw [decided]
  rfl

variable {conditions : List (Expr F)} {truths : List Bool}

theorem decides_allOf (decided : List.Forall₂ (Decides feature scope) conditions truths) :
    (allOf conditions).Decides feature scope (truths.all id) := by
  show allPass feature conditions scope = _
  induction decided with
  | nil => rfl
  | @cons condition truth rest others first _ ih =>
      rw [allPass, first]
      cases truth with
      | true => exact ih
      | false => rfl

/-- Behind a condition that does not hold no other one is looked at. -/
theorem decides_allOf_of_false (decided : condition.Decides feature scope false) :
    (allOf (condition :: conditions)).Decides feature scope false := by
  show allPass feature (condition :: conditions) scope = _
  rw [allPass, decided]
  rfl

theorem decides_anyOf (decided : List.Forall₂ (Decides feature scope) conditions truths) :
    (anyOf conditions).Decides feature scope (truths.any id) := by
  show anyPasses feature conditions scope = _
  induction decided with
  | nil => rfl
  | @cons condition truth rest others first _ ih =>
      rw [anyPasses, first]
      cases truth with
      | true => rfl
      | false => exact ih

/-! ### Named values, numbers and words -/

theorem verdict_bind {name : String} {value body : Expr F} {given : Json F}
    (found : value.valueIn feature scope = some given) :
    (Expr.bind name value body).verdict feature scope =
      body.verdict feature ((name, given) :: scope) := by
  show (value.valueIn feature scope).bind _ = _
  rw [found]
  rfl

theorem decides_greater {left right : Expr F} {larger smaller : Number F}
    (leftFound : left.valueIn feature scope = some (.number larger))
    (rightFound : right.valueIn feature scope = some (.number smaller))
    (leftQuantity : larger.isFlag = false) (rightQuantity : smaller.isFlag = false) :
    (greater left right).Decides feature scope (smaller.lt larger) := by
  show (left.valueIn feature scope).bind _ = _
  rw [leftFound, rightFound]
  simp [Json.quantity?, leftQuantity, rightQuantity]

/-- A text has a word in it if the characters of the word stand in it one behind the other. -/
theorem decides_contained {part whole : Expr F} {word text : String}
    (partFound : part.valueIn feature scope = some (.text word))
    (wholeFound : whole.valueIn feature scope = some (.text text)) :
    (contained part whole).Decides feature scope (decide (word.toList <:+: text.toList)) := by
  show (whole.valueIn feature scope).bind _ = _
  rw [wholeFound, partFound]
  rfl

/-! ### Conditions with a meaning -/

/-- A truth value that a condition means is its verdict in every scope. -/
theorem keeps_verdict (condition : Expr F) : Keeps
    ((condition.meaning feature).bind Json.truth?) (condition.verdict feature scope) := by
  refine And.left (@verdict.mutual_induct F
    (fun condition scope => Keeps ((condition.meaning feature).bind Json.truth?)
      (condition.verdict feature scope))
    (fun conditions scope =>
      Keeps (anyHolds feature conditions) (anyPasses feature conditions scope))
    (fun conditions scope => Keeps (allHold feature conditions) (allPass feature conditions scope))
    ?named ?all ?any ?negated ?greater ?contained ?other ?noneOfAny ?nextOfAny ?noneOfAll
    ?nextOfAll) condition scope
  case named =>
    intros
    exact Keeps.nothing
  case all | any =>
    intro conditions scope kept truth found
    obtain ⟨value, means, isTruth⟩ := Option.bind_eq_some_iff.mp found
    obtain ⟨held, holds, rfl⟩ := Option.map_eq_some_iff.mp means
    cases isTruth
    exact kept truth holds
  case negated =>
    intro condition scope kept truth found
    obtain ⟨value, means, isTruth⟩ := Option.bind_eq_some_iff.mp found
    obtain ⟨inner, innerMeans, rest⟩ := Option.bind_eq_some_iff.mp means
    obtain ⟨held, isHeld, same⟩ := Option.bind_eq_some_iff.mp rest
    cases same
    cases isTruth
    have decided : condition.verdict feature scope = some held := by
      apply kept
      rw [innerMeans]
      exact isHeld
    exact Decides.negated decided
  case greater | contained =>
    intros
    exact Keeps.nothing
  case other =>
    -- Every other condition has the truth value that it means.
    intro condition scope
    intros
    have unfolded : condition.verdict feature scope =
        (condition.valueIn feature scope).bind Json.truth? := by simp [verdict, *]
    rw [unfolded]
    exact (keeps_valueIn condition).bind fun _ => Keeps.refl _
  case noneOfAny | noneOfAll =>
    intros
    exact Keeps.refl _
  case nextOfAny =>
    intro condition rest scope conditionKept restKept
    rw [anyHolds, ← bind_assoc]
    refine conditionKept.bind fun truth => ?_
    cases truth with
    | true => exact Keeps.refl _
    | false => exact restKept
  case nextOfAll =>
    intro condition rest scope conditionKept restKept
    rw [allHold, ← bind_assoc]
    refine conditionKept.bind fun truth => ?_
    cases truth with
    | true => exact restKept
    | false => exact Keeps.refl _

theorem decides_of_meaning (means : condition.meaning feature = some (.bool truth)) :
    condition.Decides feature scope truth := by
  apply keeps_verdict
  rw [means]
  rfl

theorem decides_has {property : String} :
    (has property).Decides feature scope (feature property).isSome :=
  decides_of_meaning rfl

theorem decides_equal {property : String} {constant : Expr F} {value : Json F}
    (means : constant.meaning feature = some value) :
    (equal (.get property) constant).Decides feature scope
      (((feature property).getD .null).isSame value) := by
  apply decides_of_meaning
  show (constant.meaning feature).bind _ = _
  rw [means]
  rfl

end Expr

/-- Whether a layer draws a feature of its source. -/
def Layer.passes (layer : Layer F) (feature : Feature F) : Bool :=
  layer.filter.all fun filter => filter.passes feature

end MapStyle
