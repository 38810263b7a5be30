import MapStyle.Theme.Fonts

/-!
# Highway shields

Three kinds of highway shield. Each has a sprite, which is drawn with the colours given here, and
a label with the number of the highway.
-/

namespace MapStyle

set_option autoImplicit false

inductive ShieldKind where
  | interstate
  | usHighway
  | stateHighway
  deriving DecidableEq, Repr

/-- The sprite and the label of one kind of shield. A text size is given by a least zoom, the size
there, a largest zoom and the size there. -/
structure ShieldStyle (F : Type) where
  sprite : Option String
  textColour : Option String
  minZoom : Option (Number F)
  enabled : Bool
  textPadding : List (Number F)
  textSize : Option (List (Number F))
  textFont : Option FontStack
  upperBackground : Option String
  lowerBackground : Option String
  background : Option String
  strokeColour : Option String
  strokeWidth : Option (Number F)

structure ShieldsConfig (F : Type) where
  enabled : Bool
  minZoom : Option (Number F)
  interstate : ShieldStyle F
  usHighway : ShieldStyle F
  stateHighway : ShieldStyle F

namespace ShieldKind

def all : List ShieldKind := [.interstate, .usHighway, .stateHighway]

def name : ShieldKind → String
  | .interstate => "interstate"
  | .usHighway => "us_highway"
  | .stateHighway => "state_highway"

def ofName? (name : String) : Option ShieldKind :=
  all.find? fun kind => kind.name == name

end ShieldKind

variable {F : Type} [Arithmetic F]

namespace ShieldStyle

/-- A shield of which only the sprite, the text colour and the least zoom are given. -/
def plain (sprite textColour : String) (minZoom : Number F) : ShieldStyle F where
  sprite
  textColour
  minZoom
  enabled := true
  textPadding := [2, 4, 2, 4]
  textSize := none
  textFont := none
  upperBackground := none
  lowerBackground := none
  background := none
  strokeColour := none
  strokeWidth := none

def read (description : Description F) : Result F (ShieldStyle F) := do
  let colour (key : String) : Result F (Option String) :=
    description.colour key ("shield." ++ key) false
  let sprite ← description.mandatoryText "sprite"
  let minZoom ← description.mandatoryNumber "min_zoom"
  let enabled ← description.switch "enabled" true
  let textPadding ← description.numbers "text_padding" [2, 4, 2, 4]
  let textSize ← description.setting "text_size" none (Description.orOpen
    (Description.readList "text_size" (Description.readNumber "text_size")))
  let textFont ← description.textsOrOpen "text_font"
  let strokeWidth ← description.number "stroke_width" none
  let textColour ← description.mandatoryColour "text_color" "shield.text_color" false
  let upperBackground ← colour "upper_background"
  let lowerBackground ← colour "lower_background"
  let background ← colour "background"
  let strokeColour ← colour "stroke_color"
  return {
    sprite, textColour, minZoom, enabled, textPadding, textSize, textFont, upperBackground,
    lowerBackground, background, strokeColour, strokeWidth }

def toJson (style : ShieldStyle F) : Json F :=
  .object [
    ("sprite", .ofText? style.sprite),
    ("text_color", .ofText? style.textColour),
    ("min_zoom", .ofNumber? style.minZoom),
    ("enabled", .bool style.enabled),
    ("text_padding", .list (style.textPadding.map .number)),
    ("text_size", .ofOption (fun size => .list (size.map .number)) style.textSize),
    ("text_font", .ofTexts? style.textFont),
    ("upper_background", .ofText? style.upperBackground),
    ("lower_background", .ofText? style.lowerBackground),
    ("background", .ofText? style.background),
    ("stroke_color", .ofText? style.strokeColour),
    ("stroke_width", .ofNumber? style.strokeWidth)]

end ShieldStyle

namespace ShieldsConfig

def standard : ShieldsConfig F where
  enabled := true
  minZoom := some 6
  interstate := .plain "shield-interstate" "#ffffff" 6
  usHighway := .plain "shield-us" "#000000" 7
  stateHighway := .plain "shield-state" "#1a4d1a" 8

def style (config : ShieldsConfig F) : ShieldKind → ShieldStyle F
  | .interstate => config.interstate
  | .usHighway => config.usHighway
  | .stateHighway => config.stateHighway

def read (description : Description F) : Result F (ShieldsConfig F) := do
  return {
    enabled := ← description.switch "enabled" true
    minZoom := ← description.number "min_zoom" standard.minZoom
    interstate := ← description.part "interstate" standard.interstate ShieldStyle.read
    usHighway := ← description.part "us_highway" standard.usHighway ShieldStyle.read
    stateHighway := ← description.part "state_highway" standard.stateHighway ShieldStyle.read }

def toJson (config : ShieldsConfig F) : Json F :=
  .object [
    ("enabled", .bool config.enabled),
    ("min_zoom", .ofNumber? config.minZoom),
    ("interstate", config.interstate.toJson),
    ("us_highway", config.usHighway.toJson),
    ("state_highway", config.stateHighway.toJson)]

end ShieldsConfig

end MapStyle
