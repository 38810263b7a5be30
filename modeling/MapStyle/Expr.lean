import MapStyle.Json

/-!
# Expressions of the renderer

An expression is a small immutable tree that becomes a nested list when a style is written. A
plain list or mapping may stand anywhere, for the properties whose values are no expressions; a
list that is meant as a value inside an expression is wrapped as a literal. A group of labels is
the bare list that a case of a match may carry.
-/

namespace MapStyle

set_option autoImplicit false

inductive Expr (F : Type) where
  | null
  | number (value : Number F)
  | text (value : String)
  | list (items : List (Expr F))
  | mapping (entries : List (String × Expr F))
  | literal (value : Expr F)
  | get (property : String)
  | op (operator : String) (operands : List (Expr F))
  | labels (values : List (Expr F))
  deriving Inhabited

namespace Expr

variable {F : Type}

instance : Coe String (Expr F) := ⟨.text⟩

instance : Coe (Number F) (Expr F) := ⟨.number⟩

instance (n : Nat) : OfNat (Expr F) n := ⟨.number (.int n)⟩

instance [OfScientific F] : OfScientific (Expr F) :=
  ⟨fun mantissa sign exponent => .number (OfScientific.ofScientific mantissa sign exponent)⟩

def bool (value : Bool) : Expr F :=
  .number (.flag value)

mutual

/-- A constant as an expression: lists and objects become plain lists and mappings. -/
def ofJson : Json F → Expr F
  | .null => .null
  | .number value => .number value
  | .text value => .text value
  | .list items => .list (ofJsonItems items)
  | .object entries => .mapping (ofJsonEntries entries)
termination_by structural value => value

def ofJsonItems : List (Json F) → List (Expr F)
  | [] => []
  | item :: rest => ofJson item :: ofJsonItems rest
termination_by structural items => items

def ofJsonEntries : List (String × Json F) → List (String × Expr F)
  | [] => []
  | (key, value) :: rest => (key, ofJson value) :: ofJsonEntries rest
termination_by structural entries => entries

end

mutual

/-- The nested list that the renderer reads. -/
def toJson : Expr F → Json F
  | .null => .null
  | .number value => .number value
  | .text value => .text value
  | .list items => .list (toJsonItems items)
  | .mapping entries => .object (toJsonEntries entries)
  | .literal (.list items) => .list [.text "literal", .list (toJsonItems items)]
  | .literal (.mapping entries) => .list [.text "literal", .object (toJsonEntries entries)]
  | .literal value => toJson value
  | .get property => .list [.text "get", .text property]
  | .op operator operands => .list (.text operator :: toJsonItems operands)
  | .labels values => .list (toJsonItems values)
termination_by structural value => value

def toJsonItems : List (Expr F) → List (Json F)
  | [] => []
  | item :: rest => toJson item :: toJsonItems rest
termination_by structural items => items

def toJsonEntries : List (String × Expr F) → List (String × Json F)
  | [] => []
  | (key, value) :: rest => (key, toJson value) :: toJsonEntries rest
termination_by structural entries => entries

end

variable [Arithmetic F]

mutual

/-- Equality of trees, where numbers of equal value are equal. -/
def same : Expr F → Expr F → Bool
  | .null, .null => true
  | .number left, .number right => left.same right
  | .text left, .text right => left == right
  | .list left, .list right => sameItems left right
  | .mapping left, .mapping right => sameEntries left right
  | .literal left, .literal right => same left right
  | .get left, .get right => left == right
  | .op leftName left, .op rightName right => leftName == rightName && sameItems left right
  | .labels left, .labels right => sameItems left right
  | _, _ => false
termination_by structural left => left

def sameItems : List (Expr F) → List (Expr F) → Bool
  | [], [] => true
  | left :: leftRest, right :: rightRest => same left right && sameItems leftRest rightRest
  | _, _ => false
termination_by structural left => left

def sameEntries : List (String × Expr F) → List (String × Expr F) → Bool
  | [], [] => true
  | (leftKey, left) :: leftRest, (rightKey, right) :: rightRest =>
      leftKey == rightKey && same left right && sameEntries leftRest rightRest
  | _, _ => false
termination_by structural left => left

end

/-- Whether a breakpoint lies behind another one: numbers are ordered by value, texts by their
characters, and nothing else has an order. -/
def precedes? : Expr F → Expr F → Option Bool
  | .number left, .number right => some (left.lt right)
  | .text left, .text right => some (decide (left < right))
  | _, _ => none

end Expr

end MapStyle
