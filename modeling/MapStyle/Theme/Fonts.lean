import MapStyle.Theme.Description

/-!
# Fonts

The stacks of fonts that glyphs are served for, and the choice of a stack for each group of
labels.
-/

namespace MapStyle

set_option autoImplicit false

/-- Names of fonts, the first one preferred. -/
abbrev FontStack := List String

/-- The font stacks of a theme. -/
structure Fonts where
  regular : FontStack := ["Noto Sans Regular"]
  semibold : FontStack := ["Noto Sans SemiBold"]
  italic : FontStack := ["Noto Sans Italic"]
  bold : Option FontStack := none

/-- Font stacks by group of labels. A group that is left open takes the default stack. -/
structure LabelFonts where
  default : Option FontStack := none
  place : Option FontStack := none
  road : Option FontStack := none
  water : Option FontStack := none
  poi : Option FontStack := none
  grid : Option FontStack := none

variable {F : Type} [Arithmetic F]

namespace Fonts

def standard : Fonts := {}

def read (description : Description F) : Result F Fonts := do
  return {
    regular := ← description.texts "regular" standard.regular
    semibold := ← description.texts "semibold" standard.semibold
    italic := ← description.texts "italic" standard.italic
    bold := ← description.textsOrOpen "bold" }

def toJson (fonts : Fonts) : Json F :=
  .object [
    ("regular", .texts fonts.regular),
    ("semibold", .texts fonts.semibold),
    ("italic", .texts fonts.italic),
    ("bold", .ofTexts? fonts.bold)]

end Fonts

namespace LabelFonts

def read (description : Description F) : Result F LabelFonts := do
  return {
    default := ← description.textsOrOpen "default"
    place := ← description.textsOrOpen "place"
    road := ← description.textsOrOpen "road"
    water := ← description.textsOrOpen "water"
    poi := ← description.textsOrOpen "poi"
    grid := ← description.textsOrOpen "grid" }

def toJson (fonts : LabelFonts) : Json F :=
  .object [
    ("default", .ofTexts? fonts.default),
    ("place", .ofTexts? fonts.place),
    ("road", .ofTexts? fonts.road),
    ("water", .ofTexts? fonts.water),
    ("poi", .ofTexts? fonts.poi),
    ("grid", .ofTexts? fonts.grid)]

end LabelFonts

end MapStyle
