import MapStyle.Expr.Curve

/-!
# Label texts

The name that a feature is labelled with, and its short form: a direction at the beginning and a
word for a street at the end are abbreviated, so that `North Main Street` becomes `N Main St`.
-/

namespace MapStyle.LabelText

set_option autoImplicit false

open MapStyle.Expr (coalesce concat slice equal difference)

variable {F : Type}

/-- The English name if there is one, else the local name. -/
def name : Expr F := coalesce [.get "name:en", .get "name"]

def directions : List (String × String) :=
  [("North", "N"), ("South", "S"), ("East", "E"), ("West", "W")]

def streetWords : List (String × String) :=
  [("Avenue", "Ave"),
    ("Street", "St"),
    ("Boulevard", "Blvd"),
    ("Drive", "Dr"),
    ("Road", "Rd"),
    ("Lane", "Ln"),
    ("Court", "Ct"),
    ("Circle", "Cir"),
    ("Parkway", "Pkwy"),
    ("Place", "Pl"),
    ("Highway", "Hwy"),
    ("Turnpike", "Tpke")]

def size (text : String) : Expr F := .number (.int text.length)

/-- A direction followed by a blank, and a direction alone. -/
def directionBranches (text : Expr F) : List (Expr F × Expr F) :=
  let leading := directions.map fun (word, short) =>
    (equal (slice text 0 (size (word ++ " "))) (.text (word ++ " ")),
      concat [.text (short ++ " "), slice text (size (word ++ " ")) .null])
  let alone := directions.map fun (word, short) => (equal text (.text word), .text short)
  leading ++ alone

/-- A word for a street at the end, first as a word of its own, then as the end of another. -/
def streetBranches (text textLength : Expr F) : List (Expr F × Expr F) :=
  [" ", ""].flatMap fun gap =>
    streetWords.map fun (word, short) =>
      let cut := difference textLength (size (gap ++ word))
      (equal (slice text cut textLength) (.text (gap ++ word)),
        concat [slice text 0 cut, .text (gap ++ short)])

def abbreviated : Expr F :=
  let fullName := Expr.variableNamed "name"
  let directed := Expr.variableNamed "dirReplaced"
  Expr.bind "name" name
    (Expr.bind "dirReplaced" (Expr.caseNode (directionBranches fullName) fullName)
      (Expr.bind "len" (Expr.length directed)
        (Expr.caseNode (streetBranches directed (Expr.variableNamed "len")) directed)))

end MapStyle.LabelText
