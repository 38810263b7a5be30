import MapStyle.Number

/-!
# Ordered JSON values

The values that theme descriptions, style documents and sprite indexes are made of. An object
keeps its keys in the order in which they were added. A truth value is one of the numbers.
-/

namespace MapStyle

set_option autoImplicit false

inductive Json (F : Type) where
  | null
  | number (value : Number F)
  | text (value : String)
  | list (items : List (Json F))
  | object (entries : List (String × Json F))
  deriving Inhabited

namespace Json

variable {F : Type}

instance : Coe String (Json F) := ⟨.text⟩

instance : Coe (Number F) (Json F) := ⟨.number⟩

instance (n : Nat) : OfNat (Json F) n := ⟨.number (.int n)⟩

instance [OfScientific F] : OfScientific (Json F) :=
  ⟨fun mantissa sign exponent => .number (OfScientific.ofScientific mantissa sign exponent)⟩

def bool (value : Bool) : Json F :=
  .number (.flag value)

def int (value : Int) : Json F :=
  .number (.int value)

def texts (values : List String) : Json F :=
  .list (values.map .text)

/-- The value under a key of an object. -/
def get? (key : String) : Json F → Option (Json F)
  | .object entries => entries.lookup key
  | _ => none

/-- A value that settings treat like one that is not given: nothing, zero, or an empty text, list
or object. -/
def isBlank [Arithmetic F] : Json F → Bool
  | .null => true
  | .number value => value.isZero
  | .text value => value.isEmpty
  | .list items => items.isEmpty
  | .object entries => entries.isEmpty

end Json

end MapStyle
