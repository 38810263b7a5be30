/-!
# Shapes

Outlines in a square grid of integers: polygons, the strokes along their edges, and squares with
rounded corners. All questions are answered with integers, so no answer depends on rounding.
-/

namespace MapStyle.Shape

set_option autoImplicit false

structure Point where
  x : Int
  y : Int
  deriving DecidableEq, Repr

/-- The area of a square with a side of this length. -/
def squared (length : Int) : Int :=
  length * length

namespace Point

def scale (factor : Int) (point : Point) : Point :=
  ⟨factor * point.x, factor * point.y⟩

/-- The square of the distance of two points. -/
def distanceSquared (left right : Point) : Int :=
  squared (left.x - right.x) + squared (left.y - right.y)

/-- Twice the signed area of the triangle from an origin to two points. -/
def cross (origin left right : Point) : Int :=
  (left.x - origin.x) * (right.y - origin.y) - (left.y - origin.y) * (right.x - origin.x)

/-- The inner product of the ways from an origin to two points. -/
def dot (origin left right : Point) : Int :=
  (left.x - origin.x) * (right.x - origin.x) + (left.y - origin.y) * (right.y - origin.y)

end Point

/-- The edges of a closed outline, the last one leading back to the first point. -/
def edges (outline : List Point) : List (Point × Point) :=
  outline.zip (outline.drop 1 ++ outline.take 1)

/-- Whether a ray from a point to the right crosses an edge. -/
def crossesRay (point : Point) (edge : Point × Point) : Bool :=
  let (start, finish) := edge
  let side := Point.cross start finish point
  if start.y ≤ point.y then finish.y > point.y && side > 0
  else finish.y ≤ point.y && side < 0

/-- Whether a point lies inside an outline: a ray from it crosses an odd number of edges. -/
def encloses (outline : List Point) (point : Point) : Bool :=
  ((edges outline).countP (crossesRay point)) % 2 == 1

/-- Whether a point lies within a distance of an edge. -/
def isNearEdge (distance : Int) (point : Point) (edge : Point × Point) : Bool :=
  let (start, finish) := edge
  let length := Point.distanceSquared start finish
  let along := Point.dot start finish point
  if along ≤ 0 then Point.distanceSquared start point ≤ squared distance
  else if length ≤ along then Point.distanceSquared finish point ≤ squared distance
  else squared (Point.cross start finish point) ≤ squared distance * length

/-- Whether a point lies on the stroke along an outline that reaches to both sides by a
distance. -/
def isOnStroke (outline : List Point) (distance : Int) (point : Point) : Bool :=
  (edges outline).any (isNearEdge distance point)

/-- A square with rounded corners; both coordinates run from one bound to the other. -/
structure RoundedSquare where
  low : Int
  high : Int
  radius : Int
  deriving DecidableEq, Repr

namespace RoundedSquare

/-- The square that is left when a margin is taken off. -/
def shrink (square : RoundedSquare) (margin : Int) : RoundedSquare :=
  ⟨square.low + margin, square.high - margin, max 0 (square.radius - margin)⟩

/-- The nearest coordinate from which the corners are rounded. -/
def inner (square : RoundedSquare) (coordinate : Int) : Int :=
  max (square.low + square.radius) (min (square.high - square.radius) coordinate)

def encloses (square : RoundedSquare) (point : Point) : Bool :=
  square.low ≤ square.high &&
    Point.distanceSquared point ⟨square.inner point.x, square.inner point.y⟩ ≤ squared square.radius

end RoundedSquare

end MapStyle.Shape
