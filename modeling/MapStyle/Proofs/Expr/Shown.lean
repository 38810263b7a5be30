import Mathlib.Data.List.Forall2
import MapStyle.Proofs.Expr.Meaning

/-!
# What a renderer shows

The value of an expression when a map is drawn: at a zoom, for a feature with its properties and
with the state that a page has given to it. Curves are followed from stop to stop and held beyond
the ends, a step has the output of the last breakpoint that its input has reached. How two stops
are joined and what other operators make of their operands is left to the renderer. An expression
that has a meaning for a feature is shown as this meaning in every scene.
-/

namespace MapStyle

set_option autoImplicit false

variable {F : Type}

/-- What a map is drawn of. -/
structure Scene (F : Type) where
  zoom : Number F
  feature : Feature F
  state : Feature F

/-- What differs from renderer to renderer: the value between two stops of a curve of some shape,
and the operators that only look at the values of their operands. -/
structure Renderer (F : Type) where
  between? : (shape : Expr F) → (lower upper : Number F × Number F) → (input : Number F) →
    Option (Number F)
  compute? : (operator : String) → (values : List (Json F)) → Option (Json F)

namespace Json

def number? : Json F → Option (Number F)
  | .number value => some value
  | _ => none

/-- Keys and outputs one after the other as pairs, if every key is a number. -/
def pairs? : List (Json F) → Option (List (Number F × Json F))
  | [] => some []
  | .number key :: output :: rest => (pairs? rest).map ((key, output) :: ·)
  | _ => none

end Json

variable [Arithmetic F]

/-- Only nothing is the same as nothing. -/
theorem Json.isSame_null {value : Json F} (given : value ≠ .null) : value.isSame .null = false := by
  cases value with
  | null => exact absurd rfl given
  | number value => cases value <;> rfl
  | _ => rfl

namespace Renderer

/-- The value of a curve: that of the first stop up to it, that of the last one from it on, and
between two stops what the renderer joins them by. -/
def along (renderer : Renderer F) (shape : Expr F) (input : Number F) :
    List (Number F × Json F) → Option (Json F)
  | [] => none
  | [last] => some last.2
  | lower :: upper :: rest =>
      if input.le lower.1 then some lower.2
      else if input.lt upper.1 then do
        let low := (lower.1, ← lower.2.number?)
        let high := (upper.1, ← upper.2.number?)
        return .number (← renderer.between? shape low high input)
      else along renderer shape input (upper :: rest)

end Renderer

/-- The output of the last pair whose breakpoint the input has reached, or a default. -/
def reachedOutput (input : Number F) (fallback : Json F) (pairs : List (Number F × Json F)) :
    Json F :=
  (((pairs.filter fun pair => pair.1.le input).getLast?).map Prod.snd).getD fallback

namespace Expr

section Definition

variable (renderer : Renderer F) (scene : Scene F)

mutual

def shown : Expr F → Option (Json F)
  | .null => some .null
  | .number value => some (.number value)
  | .text value => some (.text value)
  | .get property => some ((scene.feature property).getD .null)
  | .op "zoom" [] => some (.number scene.zoom)
  | .op "feature-state" [.text name] => some ((scene.state name).getD .null)
  | .op "has" [.text property] => some (.bool (scene.feature property).isSome)
  | .op "==" [left, right] => do return .bool ((← shown left).isSame (← shown right))
  | .op "!=" [left, right] => do return .bool !((← shown left).isSame (← shown right))
  | .op "!" [condition] => do return .bool !(← (← shown condition).truth?)
  | .op "all" conditions => (allShown conditions).map .bool
  | .op "any" conditions => (anyShown conditions).map .bool
  | .op "match" (input :: branches) => do shownFor (← shown input) branches
  | .op "case" branches => firstShown branches
  | .op "step" (input :: fallback :: pairs) => do
      let found ← (← shown input).number?
      return reachedOutput found (← shown fallback) (← Json.pairs? (← shownAll pairs))
  | .op "interpolate" (shape :: input :: stops) => do
      let found ← (← shown input).number?
      renderer.along shape found (← Json.pairs? (← shownAll stops))
  | .op operator operands => do renderer.compute? operator (← shownAll operands)
  | _ => none
termination_by structural expression => expression

def shownAll : List (Expr F) → Option (List (Json F))
  | [] => some []
  | item :: rest => do return (← shown item) :: (← shownAll rest)
termination_by structural items => items

/-- Conditions are looked at until one does not hold. -/
def allShown : List (Expr F) → Option Bool
  | [] => some true
  | condition :: rest => do
      if ← (← shown condition).truth? then allShown rest else return false
termination_by structural conditions => conditions

/-- Conditions are looked at until one holds. -/
def anyShown : List (Expr F) → Option Bool
  | [] => some false
  | condition :: rest => do
      if ← (← shown condition).truth? then return true else anyShown rest
termination_by structural conditions => conditions

/-- The output behind the first label that is the value, else the last output. -/
def shownFor (value : Json F) : List (Expr F) → Option (Json F)
  | [] => none
  | [fallback] => shown fallback
  | label :: output :: rest => if label.covers value then shown output else shownFor value rest
termination_by structural branches => branches

/-- The output behind the first condition that holds, else the last output. -/
def firstShown : List (Expr F) → Option (Json F)
  | [] => none
  | [fallback] => shown fallback
  | condition :: output :: rest => do
      if ← (← shown condition).truth? then shown output else firstShown rest
termination_by structural branches => branches

end

end Definition

/-! ### Expressions with a meaning -/

/-- What has been found stays found. -/
def Keeps {α : Type} (before after : Option α) : Prop :=
  ∀ value, before = some value → after = some value

namespace Keeps

variable {α β : Type} {before after : Option α}

theorem refl (outcome : Option α) : Keeps outcome outcome :=
  fun _ found => found

theorem bind {next following : α → Option β} (kept : Keeps before after)
    (nextKept : ∀ value, Keeps (next value) (following value)) :
    Keeps (before >>= next) (after >>= following) := by
  intro result found
  obtain ⟨value, first, second⟩ := Option.bind_eq_some_iff.mp found
  exact Option.bind_eq_some_iff.mpr ⟨value, kept value first, nextKept value result second⟩

theorem map (kept : Keeps before after) (change : α → β) :
    Keeps (before.map change) (after.map change) := by
  intro result found
  obtain ⟨value, first, second⟩ := Option.map_eq_some_iff.mp found
  exact Option.map_eq_some_iff.mpr ⟨value, kept value first, second⟩

end Keeps

variable {renderer : Renderer F} {scene : Scene F}

/-- An expression with a meaning for a feature is shown as it, whatever the zoom and the state of
the feature are. -/
theorem keeps_meaning (expression : Expr F) :
    Keeps (expression.meaning scene.feature) (expression.shown renderer scene) := by
  refine And.left (@meaning.mutual_induct F _
    (fun expression => Keeps (expression.meaning scene.feature) (expression.shown renderer scene))
    (fun branches =>
      Keeps (firstHolding scene.feature branches) (firstShown renderer scene branches))
    (fun value branches =>
      Keeps (chosen scene.feature value branches) (shownFor renderer scene value branches))
    (fun conditions =>
      Keeps (anyHolds scene.feature conditions) (anyShown renderer scene conditions))
    (fun conditions =>
      Keeps (allHold scene.feature conditions) (allShown renderer scene conditions))
    ?null ?number ?text ?get ?has ?equal ?unequal ?negated ?all ?any ?choice ?branches ?other
    ?noBranch ?lastBranch ?nextBranch ?noCase ?lastCase ?thisCase ?nextCase ?noneOfAny ?nextOfAny
    ?noneOfAll ?nextOfAll) expression
  case null | number | text | get | has | noBranch | noCase | noneOfAny | noneOfAll =>
    intros
    exact Keeps.refl _
  case equal | unequal =>
    intro left right leftKept rightKept
    exact leftKept.bind fun _ => rightKept.bind fun _ => Keeps.refl _
  case negated =>
    intro condition kept
    exact kept.bind fun _ => Keeps.refl _
  case all | any =>
    intro conditions kept
    exact kept.map _
  case choice =>
    intro input branches inputKept branchesKept
    exact inputKept.bind branchesKept
  case branches =>
    intro branches kept
    exact kept
  case other =>
    -- No other expression has a meaning.
    intro expression
    intros
    simp [meaning, Keeps, *]
  case lastBranch | lastCase =>
    intros
    assumption
  case nextBranch =>
    intro condition output rest conditionKept outputKept restKept
    refine conditionKept.bind fun value => (Keeps.refl _).bind fun truth => ?_
    cases truth with
    | true => exact outputKept
    | false => exact restKept
  case thisCase =>
    intro value label output rest covered kept
    simpa [chosen, shownFor, covered] using kept
  case nextCase =>
    intro value label output rest uncovered kept
    simpa [chosen, shownFor, uncovered] using kept
  case nextOfAny =>
    intro condition rest conditionKept restKept
    refine conditionKept.bind fun value => (Keeps.refl _).bind fun truth => ?_
    cases truth with
    | true => exact Keeps.refl _
    | false => exact restKept
  case nextOfAll =>
    intro condition rest conditionKept restKept
    refine conditionKept.bind fun value => (Keeps.refl _).bind fun truth => ?_
    cases truth with
    | true => exact restKept
    | false => exact Keeps.refl _

/-! ### Curves and steps -/

@[simp] theorem shown_number (value : Number F) :
    (number value).shown renderer scene = some (.number value) :=
  rfl

@[simp] theorem shown_text (value : String) :
    (text value : Expr F).shown renderer scene = some (.text value) :=
  rfl

@[simp] theorem shown_zoom : (zoom : Expr F).shown renderer scene = some (.number scene.zoom) :=
  rfl

@[simp] theorem shown_featureState (name : String) :
    (featureState name : Expr F).shown renderer scene = some ((scene.state name).getD .null) :=
  rfl

/-- Pairs of an expression each, as they are shown: a number and a value. -/
def ShowPairs (renderer : Renderer F) (scene : Scene F) (pairs : List (Expr F × Expr F))
    (values : List (Number F × Json F)) : Prop :=
  List.Forall₂ (fun pair value =>
    pair.1 = .number value.1 ∧ pair.2.shown renderer scene = some value.2) pairs values

variable {pairs : List (Expr F × Expr F)} {values : List (Number F × Json F)}

theorem ShowPairs.pairs? (shows : ShowPairs renderer scene pairs values) :
    ∃ items, shownAll renderer scene (alternating pairs) = some items ∧
      Json.pairs? items = some values := by
  induction shows with
  | nil => exact ⟨[], rfl, rfl⟩
  | @cons pair value rest others shown _ ih =>
      obtain ⟨items, itemsShown, itemsPaired⟩ := ih
      have unfolded : alternating (pair :: rest) = pair.1 :: pair.2 :: alternating rest := rfl
      refine ⟨.number value.1 :: value.2 :: items, ?_, ?_⟩
      · rw [unfolded, shown.1]
        simp [shownAll, shown.2, itemsShown]
      · simp [Json.pairs?, itemsPaired]

theorem shown_curveNode {shape input : Expr F} {found : Number F}
    (inputShown : input.shown renderer scene = some (.number found))
    (shows : ShowPairs renderer scene pairs values) :
    (curveNode shape input pairs).shown renderer scene = renderer.along shape found values := by
  obtain ⟨items, itemsShown, itemsPaired⟩ := shows.pairs?
  simp [curveNode, shown, inputShown, itemsShown, itemsPaired, Json.number?]

theorem shown_stepNode {input fallback : Expr F} {found : Number F} {default : Json F}
    (inputShown : input.shown renderer scene = some (.number found))
    (fallbackShown : fallback.shown renderer scene = some default)
    (shows : ShowPairs renderer scene pairs values) :
    (stepNode input fallback pairs).shown renderer scene =
      some (reachedOutput found default values) := by
  obtain ⟨items, itemsShown, itemsPaired⟩ := shows.pairs?
  simp [stepNode, shown, inputShown, fallbackShown, itemsShown, itemsPaired, Json.number?]

/-- A value for features whose state is known, and another one for all others. -/
theorem shown_ifKnown {name : String} {output fallback : Expr F} :
    (caseNode [(unequal (featureState name) .null, output)] fallback).shown renderer scene =
      if ((scene.state name).getD .null).isSame .null then fallback.shown renderer scene
      else output.shown renderer scene := by
  have known : (unequal (featureState name) .null : Expr F).shown renderer scene =
      some (.bool !((scene.state name).getD .null).isSame .null) := rfl
  show firstShown renderer scene [unequal (featureState name) .null, output, fallback] = _
  rw [firstShown, known]
  cases ((scene.state name).getD .null).isSame .null <;> rfl

end Expr

end MapStyle
