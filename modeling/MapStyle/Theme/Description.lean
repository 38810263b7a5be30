import MapStyle.Colour.Hex
import MapStyle.Zoom.Stops

/-!
# Descriptions of the parts of a theme

A part of a theme is described by an object. A setting that the object does not name has its
standard value, and `null` stands for a setting that is given but left open. The functions here
read one setting each; the parts put them together, in the order in which mistakes are reported.
-/

namespace MapStyle

set_option autoImplicit false

/-- The settings that describe one part of a theme. -/
structure Description (F : Type) where
  entries : List (String × Json F)

namespace Description

variable {F α : Type}

def ofJson (part : String) : Json F → Result F (Description F)
  | .object entries => .ok ⟨entries⟩
  | _ => Result.ofTheme (.wrongType part)

def get? (description : Description F) (key : String) : Option (Json F) :=
  description.entries.lookup key

/-- A setting with a standard value. -/
def setting (description : Description F) (key : String) (standard : α)
    (read : Json F → Result F α) : Result F α :=
  match description.get? key with
  | some value => read value
  | none => .ok standard

/-- A setting without a standard value. -/
def mandatory (description : Description F) (key : String) (read : Json F → Result F α) :
    Result F α :=
  match description.get? key with
  | some value => read value
  | none => Result.ofTheme (.missing key)

/-- What is left open stays open. -/
def orOpen (read : Json F → Result F α) : Json F → Result F (Option α)
  | .null => .ok none
  | value => (read value).map some

def readNumber (key : String) : Json F → Result F (Number F)
  | .number value => .ok value
  | _ => Result.ofTheme (.wrongType key)

def readText (key : String) : Json F → Result F String
  | .text value => .ok value
  | _ => Result.ofTheme (.wrongType key)

def readList (key : String) (read : Json F → Result F α) : Json F → Result F (List α)
  | .list items => items.mapM read
  | _ => Result.ofTheme (.wrongType key)

/-- A mapping with texts as keys, in the order of its entries. -/
def readTable (key : String) (read : String → Json F → Result F α) :
    Json F → Result F (List (String × α))
  | .object entries => entries.mapM fun entry => (read entry.1 entry.2).map fun value =>
      (entry.1, value)
  | _ => Result.ofTheme (.wrongType key)

variable [Arithmetic F]

/-- Equality of the keys of a mapping: numbers of equal value are one key. -/
def sameKey : Json F → Json F → Bool
  | .null, .null => true
  | .number left, .number right => left.same right
  | .text left, .text right => left == right
  | _, _ => false

/-- Sets a key of a mapping; a key that is there already keeps its place and the way it is
written. -/
def setKey (key value : Json F) : ZoomStops F → ZoomStops F
  | [] => [(key, value)]
  | (other, old) :: rest =>
      if sameKey other key then (other, value) :: rest else (other, old) :: setKey key value rest

/-- Zoom stops are written as an object or as a list of pairs. -/
def readStops (key : String) : Json F → Result F (ZoomStops F)
  | .object entries => .ok (entries.map fun entry => (.text entry.1, entry.2))
  | .list pairs =>
      pairs.foldlM
        (fun found pair =>
          match pair with
          | .list [stopKey, value] => .ok (setKey stopKey value found)
          | _ => Result.ofTheme (.wrongType key))
        []
  | _ => Result.ofTheme (.wrongType key)

/-- A switch is off exactly if its value is blank. -/
def switch (description : Description F) (key : String) (standard : Bool) : Result F Bool :=
  description.setting key standard fun value => .ok !value.isBlank

def number (description : Description F) (key : String) (standard : Option (Number F)) :
    Result F (Option (Number F)) :=
  description.setting key standard (orOpen (readNumber key))

def mandatoryNumber (description : Description F) (key : String) :
    Result F (Option (Number F)) :=
  description.mandatory key (orOpen (readNumber key))

def text (description : Description F) (key : String) (standard : Option String) :
    Result F (Option String) :=
  description.setting key standard (orOpen (readText key))

def mandatoryText (description : Description F) (key : String) : Result F (Option String) :=
  description.mandatory key (orOpen (readText key))

def texts (description : Description F) (key : String) (standard : List String) :
    Result F (List String) :=
  description.setting key standard (readList key (readText key))

def textsOrOpen (description : Description F) (key : String) :
    Result F (Option (List String)) :=
  description.setting key none (orOpen (readList key (readText key)))

def numbers (description : Description F) (key : String) (standard : List (Number F)) :
    Result F (List (Number F)) :=
  description.setting key standard (readList key (readNumber key))

def stops (description : Description F) (key : String) (standard : ZoomStops F) :
    Result F (Option (ZoomStops F)) :=
  description.setting key (some standard) (orOpen (readStops key))

/-- A colour that a mistake is reported for under the name of its setting. -/
def colour (description : Description F) (key setting : String) (hexOnly : Bool) :
    Result F (Option String) :=
  description.setting key none (Colour.check setting hexOnly)

def mandatoryColour (description : Description F) (key setting : String) (hexOnly : Bool) :
    Result F (Option String) :=
  description.mandatory key (Colour.check setting hexOnly)

/-- Colours by feature class; `area` stands before the class when a mistake is reported. -/
def classColours (description : Description F) (key area : String) :
    Result F (List (String × Option String)) :=
  description.setting key [] (readTable key fun name => Colour.check (area ++ name) false)

/-- A part of its own that cannot be left open. -/
def part (description : Description F) (key : String) (standard : α)
    (read : Description F → Result F α) : Result F α :=
  description.setting key standard fun value => do read (← ofJson key value)

def mandatoryPart (description : Description F) (key : String)
    (read : Description F → Result F α) : Result F α :=
  description.mandatory key fun value => do read (← ofJson key value)

def partOrOpen (description : Description F) (key : String) (standard : Option α)
    (read : Description F → Result F α) : Result F (Option α) :=
  description.setting key standard (orOpen fun value => do read (← ofJson key value))

end Description

/-! ### Limits of numbers -/

variable {F : Type} [Arithmetic F]

/-- An opacity that is set lies between zero and one. -/
def checkOpacity (setting : String) : Option (Number F) → Result F Unit
  | none => .ok ()
  | some value =>
      if (0.0 : Number F).le value && value.le 1.0 then .ok ()
      else Result.ofTheme (.opacityOutside setting value)

/-- The least zoom lies below the largest one, where both are set. -/
def checkZoomRange (setting : String) : Option (Number F) → Option (Number F) → Result F Unit
  | some least, some largest =>
      if largest.le least then Result.ofTheme (.zoomRange setting least largest) else .ok ()
  | _, _ => .ok ()

/-! ### Settings written back -/

namespace Json

variable {α : Type}

def ofOption (write : α → Json F) : Option α → Json F
  | some value => write value
  | none => .null

def ofNumber? : Option (Number F) → Json F :=
  ofOption .number

def ofText? : Option String → Json F :=
  ofOption .text

def ofTexts? : Option (List String) → Json F :=
  ofOption .texts

/-- A mapping is an object if all its keys are texts, else a list of pairs. -/
def ofStops (stops : ZoomStops F) : Json F :=
  let entries? := stops.mapM fun stop =>
    match stop.1 with
    | .text key => some (key, stop.2)
    | _ => none
  match entries? with
  | some entries => .object entries
  | none => .list (stops.map fun stop => .list [stop.1, stop.2])

def ofStops? : Option (ZoomStops F) → Json F :=
  ofOption ofStops

def ofColours (colours : List (String × Option String)) : Json F :=
  .object (colours.map fun entry => (entry.1, ofText? entry.2))

end Json

/-! ### Ranges of values

Two values, one for the least and one for the largest zoom of a domain. Some settings are either
one number or such a range. -/

/-- The values at the two ends of a range of zooms. -/
structure ValueRange (F : Type) where
  atMin : Option (Number F)
  atMax : Option (Number F)

/-- One number for all zooms, or a range, or neither. -/
inductive RangeSetting (F : Type) where
  | unset
  | fixed (value : Number F)
  | range (value : ValueRange F)

namespace ValueRange

def ofNumbers (atMin atMax : Number F) : ValueRange F :=
  ⟨some atMin, some atMax⟩

def read (description : Description F) : Result F (ValueRange F) := do
  return {
    atMin := ← description.mandatoryNumber "min"
    atMax := ← description.mandatoryNumber "max" }

def toJson (range : ValueRange F) : Json F :=
  .object [("min", .ofNumber? range.atMin), ("max", .ofNumber? range.atMax)]

end ValueRange

namespace RangeSetting

def read (key : String) (value : Json F) : Result F (RangeSetting F) :=
  match value with
  | .null => .ok .unset
  | .number value => .ok (.fixed value)
  | _ => do return .range (← ValueRange.read (← Description.ofJson key value))

def toJson : RangeSetting F → Json F
  | .unset => .null
  | .fixed value => .number value
  | .range value => value.toJson

end RangeSetting

end MapStyle
