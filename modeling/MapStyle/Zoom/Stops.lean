import MapStyle.Fault
import MapStyle.Zoom.Key

/-!
# Zoom stops

A theme gives values at some zooms, as a mapping from zoom keys to values. Reading the mapping
drops every entry whose key names no zoom or whose value is no quantity, and leaves the rest in
ascending order. Between two stops the value is interpolated linearly, outside them it is that of
the nearest stop.
-/

namespace MapStyle

set_option autoImplicit false

/-- A mapping as it is written, in the order of its entries. -/
abbrev ZoomStops (F : Type) := List (Json F × Json F)

/-- Values at zooms in ascending order. -/
abbrev Stops (F : Type) := List (Number F × Number F)

namespace Zoom

variable {F : Type} [Arithmetic F]

/-- The finite number that a value is; truth values are not meant. -/
def quantity? (value : Json F) : Except NumberError (Option (Number F)) :=
  match value with
  | .number found =>
      if found.isFlag then .ok none
      else found.isFinite.map fun finite => if finite then some found else none
  | _ => .ok none

/-- Sets the value at a zoom. A zoom that is there already keeps the way it is written. -/
def setStop (zoom value : Number F) : Stops F → Stops F
  | [] => [(zoom, value)]
  | (other, old) :: rest =>
      if zoom.lt other then (zoom, value) :: (other, old) :: rest
      else if zoom.same other then (other, value) :: rest
      else (other, old) :: setStop zoom value rest

/-- One entry of a mapping as a stop. -/
def stop? (entry : Json F × Json F) : Except NumberError (Option (Number F × Number F)) := do
  match ← parseKey entry.1 with
  | none => .ok none
  | some zoom => return (← quantity? entry.2).map fun value => (zoom, value)

/-- The stops so far and that of one more entry, if it has one. -/
def addEntry (found : Stops F) (entry : Json F × Json F) : Except NumberError (Stops F) := do
  match ← stop? entry with
  | none => .ok found
  | some (zoom, value) => .ok (setStop zoom value found)

/-- The usable stops of a mapping; of two entries for one zoom the later one counts. -/
def normalize (stops : ZoomStops F) : Except NumberError (Stops F) :=
  stops.foldlM addEntry []

/-- The value given for a zoom itself. -/
def at? (zoom : Number F) : Stops F → Option (Number F)
  | [] => none
  | (other, value) :: rest => if zoom.same other then some value else at? zoom rest

/-- The value between two stops. -/
def between (lower upper : Number F × Number F) (zoom : Number F) :
    Except NumberError (Number F) := do
  let part ← (← zoom.sub lower.1).div (← upper.1.sub lower.1)
  lower.2.add (← part.mul (← upper.2.sub lower.2))

/-- The value of the first segment that holds the zoom, and the last value if none does. -/
def alongSegments (zoom : Number F) (first : Number F × Number F) :
    Stops F → Except NumberError (Number F)
  | [] => .ok first.2
  | next :: rest =>
      if first.1.le zoom && zoom.le next.1 then between first next zoom
      else alongSegments zoom next rest

/-- The value at a zoom, given at least one stop. -/
def valueAt (first : Number F × Number F) (rest : Stops F) (zoom : Number F) :
    Except NumberError (Number F) :=
  let last := rest.getLastD first
  if zoom.le first.1 then .ok first.2
  else if last.1.le zoom then .ok last.2
  else alongSegments zoom first rest

/-- The value of stops at a zoom. -/
def evaluate (stops : Stops F) (zoom : Number F) : Result F (Number F) :=
  match stops with
  | [] => Result.ofTheme .noZoomStops
  | first :: rest => Result.ofNumber (valueAt first rest zoom)

/-- The value given for a zoom itself, else a default. -/
def valueOr {α : Type} (ofNumber : Number F → α) (stops : ZoomStops F) (zoom : Number F)
    (default : α) : Except NumberError α := do
  let found ← normalize stops
  return ((at? zoom found).map ofNumber).getD default

end Zoom

end MapStyle
