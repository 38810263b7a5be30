import MapStyle.Expr.Curve
import MapStyle.Theme.Category

/-!
# Colours by class

The colours of a category as a match on the class of a feature, and the colour of buildings as a
curve over their height.
-/

namespace MapStyle.Theme

set_option autoImplicit false

variable {F : Type} [Arithmetic F]

/-- The match over the classes that are given, with one colour for all others. -/
def colourMatch (theme : Theme F) (category : Category) (classes : List String)
    (property : String) (fallback : Option String) : Result F (Expr F) :=
  Expr.matching (.get property)
    (classes.map fun featureClass =>
      (.text featureClass, Expr.ofText? (theme.resolveColour category featureClass)))
    (Expr.ofText? fallback)

/-- The colour of every class of a category; an override leaves one colour only. -/
def classColour (theme : Theme F) (category : Category) (property : String) :
    Result F (Expr F) :=
  match theme.overrideColour category with
  | some colour => .ok (.text colour)
  | none =>
      theme.colourMatch category category.classes property (theme.resolveFallbackColour category)

/-- The classes of a category are asked for by its name. -/
def classColourNamed (theme : Theme F) (name property : String) : Result F (Expr F) :=
  match Category.ofName? name with
  | some category => theme.classColour category property
  | none => Result.ofTheme (.noCategory name)

def landcoverFill (theme : Theme F) : Result F (Expr F) := theme.classColour .land "class"

def landuseFill (theme : Theme F) : Result F (Expr F) := theme.classColour .landuse "class"

def waterFill (theme : Theme F) : Result F (Expr F) := theme.classColour .water "class"

def waterwayLine (theme : Theme F) : Result F (Expr F) := theme.classColour .waterway "class"

/-- Major roads only; every other class has the colour of other roads. -/
def majorRoadLine (theme : Theme F) : Result F (Expr F) :=
  theme.colourMatch .road majorRoadClasses "class" theme.colours.road.other

def roadLine (theme : Theme F) : Result F (Expr F) := theme.classColour .road "class"

/-- Tunnels without colours of their own have those of roads on the surface. -/
def tunnelLine (theme : Theme F) : Result F (Expr F) :=
  theme.classColour (theme.inheriting .tunnel) "class"

def bridgeLine (theme : Theme F) : Result F (Expr F) :=
  theme.classColour (theme.inheriting .bridge) "class"

/-- The height, in metres, at which the colour of each tier is reached. -/
def tierHeights : List (Nat × String) :=
  [(0, "short"), (10, "medium"), (50, "tall"), (150, "skyscraper"), (300, "supertall"),
    (600, "megatall")]

/-- The colour of buildings over their height. With a least zoom the heights count from that zoom
on; the breakpoint lies just below it, so that they count at the zoom itself. -/
def buildingFill (theme : Theme F) (heightsFrom : Option (Number F)) : Result F (Expr F) := do
  let byHeight ← Expr.linear (Expr.coalesce [.get "render_height", 0])
    (tierHeights.map fun (height, tier) =>
      (.number (.int height), Expr.ofText? (theme.resolveColour .building tier)))
  match heightsFrom with
  | none => return byHeight
  | some zoom =>
      let breakpoint ← zoom.sub 0.001
      Expr.step Expr.zoom (Expr.ofText? (theme.resolveFallbackColour .building))
        [(.number breakpoint, byHeight)]

end MapStyle.Theme
