import MapStyle.Expr

/-!
# Operators

The operators of the renderer that styles use. Each of them is the operator's name followed by
its operands.
-/

namespace MapStyle.Expr

set_option autoImplicit false

variable {F : Type}

def zoom : Expr F := .op "zoom" []

def has (property : String) : Expr F := .op "has" [.text property]

def equal (left right : Expr F) : Expr F := .op "==" [left, right]

def unequal (left right : Expr F) : Expr F := .op "!=" [left, right]

def greater (left right : Expr F) : Expr F := .op ">" [left, right]

def atLeast (left right : Expr F) : Expr F := .op ">=" [left, right]

def less (left right : Expr F) : Expr F := .op "<" [left, right]

def atMost (left right : Expr F) : Expr F := .op "<=" [left, right]

def allOf (conditions : List (Expr F)) : Expr F := .op "all" conditions

def anyOf (conditions : List (Expr F)) : Expr F := .op "any" conditions

def negated (condition : Expr F) : Expr F := .op "!" [condition]

def coalesce (values : List (Expr F)) : Expr F := .op "coalesce" values

def featureState (name : String) : Expr F := .op "feature-state" [.text name]

def concat (parts : List (Expr F)) : Expr F := .op "concat" parts

def toText (value : Expr F) : Expr F := .op "to-string" [value]

def absolute (value : Expr F) : Expr F := .op "abs" [value]

def upcase (value : Expr F) : Expr F := .op "upcase" [value]

def variableNamed (name : String) : Expr F := .op "var" [.text name]

def bind (name : String) (value body : Expr F) : Expr F := .op "let" [.text name, value, body]

/-- The part of a text from one position to another, or to its end if no other one is given. -/
def slice (value start finish : Expr F) : Expr F :=
  match finish with
  | .null => .op "slice" [value, start]
  | _ => .op "slice" [value, start, finish]

def length (value : Expr F) : Expr F := .op "length" [value]

def contained (needle haystack : Expr F) : Expr F := .op "in" [needle, haystack]

def sum (values : List (Expr F)) : Expr F := .op "+" values

def difference (left right : Expr F) : Expr F := .op "-" [left, right]

def product (values : List (Expr F)) : Expr F := .op "*" values

def quotient (left right : Expr F) : Expr F := .op "/" [left, right]

/-- A setting that may be left open. -/
def ofNumber? : Option (Number F) → Expr F
  | some value => .number value
  | none => .null

def ofText? : Option String → Expr F
  | some value => .text value
  | none => .null

def texts (values : List String) : Expr F :=
  .list (values.map .text)

end MapStyle.Expr
