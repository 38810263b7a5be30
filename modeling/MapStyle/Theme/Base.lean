import MapStyle.Theme.Description

/-!
# Settings of the base layers

Switches of boundaries, buildings, land and water. A theme that leaves them open takes the
standard settings.
-/

namespace MapStyle

set_option autoImplicit false

/-- Which boundaries are drawn, and whether water hides them. -/
structure BoundaryConfig where
  country : Bool := true
  state : Bool := true
  maritime : Bool := true
  hideOverWater : Bool := false
  deriving DecidableEq, Repr

structure BuildingsConfig (F : Type) where
  enabled : Bool
  minZoom : Option (Number F)
  maxZoom : Option (Number F)
  heightColoursMinZoom : Option (Number F)

/-- Whether land is drawn at all, and one colour for all of it. -/
structure LandConfig where
  transparent : Bool := false
  useOverrideColour : Bool := false
  overrideColour : Option String := none
  deriving DecidableEq, Repr

structure WaterConfig where
  transparent : Bool := false
  transparentWaterway : Bool := false
  useOverrideColour : Bool := false
  overrideColour : Option String := none
  useOverrideColourWaterway : Bool := false
  overrideColourWaterway : Option String := none
  deriving DecidableEq, Repr

variable {F : Type} [Arithmetic F]

namespace BoundaryConfig

def read (description : Description F) : Result F BoundaryConfig := do
  return {
    country := ← description.switch "country" true
    state := ← description.switch "state" true
    maritime := ← description.switch "maritime" true
    hideOverWater := ← description.switch "hide_over_water" false }

def toJson (config : BoundaryConfig) : Json F :=
  .object [
    ("country", .bool config.country),
    ("state", .bool config.state),
    ("maritime", .bool config.maritime),
    ("hide_over_water", .bool config.hideOverWater)]

end BoundaryConfig

namespace BuildingsConfig

def standard : BuildingsConfig F where
  enabled := true
  minZoom := some 6
  maxZoom := none
  heightColoursMinZoom := none

def read (description : Description F) : Result F (BuildingsConfig F) := do
  let enabled ← description.switch "enabled" true
  let minZoom ← description.number "min_zoom" standard.minZoom
  let maxZoom ← description.number "max_zoom" none
  let heightColoursMinZoom ← description.number "height_colors_min_zoom" none
  checkZoomRange "buildings" minZoom maxZoom
  return { enabled, minZoom, maxZoom, heightColoursMinZoom }

def toJson (config : BuildingsConfig F) : Json F :=
  .object [
    ("enabled", .bool config.enabled),
    ("min_zoom", .ofNumber? config.minZoom),
    ("max_zoom", .ofNumber? config.maxZoom),
    ("height_colors_min_zoom", .ofNumber? config.heightColoursMinZoom)]

end BuildingsConfig

namespace LandConfig

def read (description : Description F) : Result F LandConfig := do
  return {
    transparent := ← description.switch "transparent" false
    useOverrideColour := ← description.switch "use_override_color" false
    overrideColour := ← description.colour "override_color" "override_color" false }

def toJson (config : LandConfig) : Json F :=
  .object [
    ("transparent", .bool config.transparent),
    ("use_override_color", .bool config.useOverrideColour),
    ("override_color", .ofText? config.overrideColour)]

end LandConfig

namespace WaterConfig

def read (description : Description F) : Result F WaterConfig := do
  return {
    transparent := ← description.switch "transparent" false
    transparentWaterway := ← description.switch "transparent_waterway" false
    useOverrideColour := ← description.switch "use_override_color" false
    useOverrideColourWaterway := ← description.switch "use_override_color_waterway" false
    overrideColour := ← description.colour "override_color" "override_color" false
    overrideColourWaterway :=
      ← description.colour "override_color_waterway" "override_color_waterway" false }

def toJson (config : WaterConfig) : Json F :=
  .object [
    ("transparent", .bool config.transparent),
    ("transparent_waterway", .bool config.transparentWaterway),
    ("use_override_color", .bool config.useOverrideColour),
    ("override_color", .ofText? config.overrideColour),
    ("use_override_color_waterway", .bool config.useOverrideColourWaterway),
    ("override_color_waterway", .ofText? config.overrideColourWaterway)]

end WaterConfig

end MapStyle
