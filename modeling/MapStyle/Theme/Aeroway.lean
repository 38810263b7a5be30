import MapStyle.Theme.Description

/-!
# Airports

How runways, aprons, taxiways and helipads are drawn, and the labels of runways and helipads.
-/

namespace MapStyle

set_option autoImplicit false

structure RunwayStyle (F : Type) where
  colour : Option String
  width : Option (Number F)
  opacity : Option (Number F)
  majorLength : Option (Number F)

structure ApronStyle (F : Type) where
  fillColour : Option String
  fillOpacity : Option (Number F)
  outlineColour : Option String
  outlineWidth : Option (Number F)

structure TaxiwayStyle (F : Type) where
  colour : Option String
  width : Option (Number F)
  opacity : Option (Number F)

structure HelipadStyle (F : Type) where
  fillColour : Option String
  fillOpacity : Option (Number F)
  outlineColour : Option String
  outlineWidth : Option (Number F)
  size : Option (Number F)

structure AerowayLabelStyle (F : Type) where
  colour : Option String
  haloColour : Option String
  haloWidth : Option (Number F)
  opacity : Option (Number F)
  majorSize : RangeSetting F
  detailedSize : RangeSetting F

structure AerowayConfig (F : Type) where
  enabled : Bool
  runway : RunwayStyle F
  apron : ApronStyle F
  taxiway : TaxiwayStyle F
  helipad : HelipadStyle F
  label : AerowayLabelStyle F

variable {F : Type} [Arithmetic F]

namespace RunwayStyle

def standard : RunwayStyle F where
  colour := "#4a5568"
  width := some 0.5
  opacity := some 0.8
  majorLength := some 2500

def read (description : Description F) : Result F (RunwayStyle F) := do
  return {
    colour := ← description.text "color" (standard (F := F)).colour
    width := ← description.number "width" standard.width
    opacity := ← description.number "opacity" standard.opacity
    majorLength := ← description.number "major_length" standard.majorLength }

def toJson (style : RunwayStyle F) : Json F :=
  .object [
    ("color", .ofText? style.colour),
    ("width", .ofNumber? style.width),
    ("opacity", .ofNumber? style.opacity),
    ("major_length", .ofNumber? style.majorLength)]

end RunwayStyle

namespace ApronStyle

def standard : ApronStyle F where
  fillColour := "#3a4455"
  fillOpacity := some 0.3
  outlineColour := "#4a5568"
  outlineWidth := some 0.3

def read (description : Description F) : Result F (ApronStyle F) := do
  return {
    fillColour := ← description.text "fill_color" (standard (F := F)).fillColour
    fillOpacity := ← description.number "fill_opacity" standard.fillOpacity
    outlineColour := ← description.text "outline_color" (standard (F := F)).outlineColour
    outlineWidth := ← description.number "outline_width" standard.outlineWidth }

def toJson (style : ApronStyle F) : Json F :=
  .object [
    ("fill_color", .ofText? style.fillColour),
    ("fill_opacity", .ofNumber? style.fillOpacity),
    ("outline_color", .ofText? style.outlineColour),
    ("outline_width", .ofNumber? style.outlineWidth)]

end ApronStyle

namespace TaxiwayStyle

def standard : TaxiwayStyle F where
  colour := "#5a6578"
  width := some 0.4
  opacity := some 0.7

def read (description : Description F) : Result F (TaxiwayStyle F) := do
  return {
    colour := ← description.text "color" (standard (F := F)).colour
    width := ← description.number "width" standard.width
    opacity := ← description.number "opacity" standard.opacity }

def toJson (style : TaxiwayStyle F) : Json F :=
  .object [
    ("color", .ofText? style.colour),
    ("width", .ofNumber? style.width),
    ("opacity", .ofNumber? style.opacity)]

end TaxiwayStyle

namespace HelipadStyle

def standard : HelipadStyle F where
  fillColour := "#5a6578"
  fillOpacity := some 0.6
  outlineColour := "#6a7588"
  outlineWidth := some 0.3
  size := some 4

def read (description : Description F) : Result F (HelipadStyle F) := do
  return {
    fillColour := ← description.text "fill_color" (standard (F := F)).fillColour
    fillOpacity := ← description.number "fill_opacity" standard.fillOpacity
    outlineColour := ← description.text "outline_color" (standard (F := F)).outlineColour
    outlineWidth := ← description.number "outline_width" standard.outlineWidth
    size := ← description.number "size" standard.size }

def toJson (style : HelipadStyle F) : Json F :=
  .object [
    ("fill_color", .ofText? style.fillColour),
    ("fill_opacity", .ofNumber? style.fillOpacity),
    ("outline_color", .ofText? style.outlineColour),
    ("outline_width", .ofNumber? style.outlineWidth),
    ("size", .ofNumber? style.size)]

end HelipadStyle

namespace AerowayLabelStyle

def standard : AerowayLabelStyle F where
  colour := "#a8b8d0"
  haloColour := "#0b0f14"
  haloWidth := some 2
  opacity := some 0.9
  majorSize := .unset
  detailedSize := .unset

def read (description : Description F) : Result F (AerowayLabelStyle F) := do
  return {
    colour := ← description.text "color" (standard (F := F)).colour
    haloColour := ← description.text "halo_color" (standard (F := F)).haloColour
    haloWidth := ← description.number "halo_width" standard.haloWidth
    opacity := ← description.number "opacity" standard.opacity
    majorSize := ← description.setting "major_size" .unset (RangeSetting.read "major_size")
    detailedSize :=
      ← description.setting "detailed_size" .unset (RangeSetting.read "detailed_size") }

def toJson (style : AerowayLabelStyle F) : Json F :=
  .object [
    ("color", .ofText? style.colour),
    ("halo_color", .ofText? style.haloColour),
    ("halo_width", .ofNumber? style.haloWidth),
    ("opacity", .ofNumber? style.opacity),
    ("major_size", style.majorSize.toJson),
    ("detailed_size", style.detailedSize.toJson)]

end AerowayLabelStyle

namespace AerowayConfig

def standard : AerowayConfig F where
  enabled := true
  runway := .standard
  apron := .standard
  taxiway := .standard
  helipad := .standard
  label := .standard

def read (description : Description F) : Result F (AerowayConfig F) := do
  return {
    enabled := ← description.switch "enabled" true
    runway := ← description.part "runway" .standard RunwayStyle.read
    apron := ← description.part "apron" .standard ApronStyle.read
    taxiway := ← description.part "taxiway" .standard TaxiwayStyle.read
    helipad := ← description.part "helipad" .standard HelipadStyle.read
    label := ← description.part "label" .standard AerowayLabelStyle.read }

def toJson (config : AerowayConfig F) : Json F :=
  .object [
    ("enabled", .bool config.enabled),
    ("runway", config.runway.toJson),
    ("apron", config.apron.toJson),
    ("taxiway", config.taxiway.toJson),
    ("helipad", config.helipad.toJson),
    ("label", config.label.toJson)]

end AerowayConfig

end MapStyle
