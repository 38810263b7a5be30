import MapStyle.Expr.Error
import MapStyle.Json.Printer

/-!
# Mistakes in themes

Why the description of a theme is refused, and what goes wrong when a theme is asked for a colour
or a domain that does not exist. Every cause names the setting as its author knows it.
-/

namespace MapStyle

set_option autoImplicit false

inductive ThemeError (F : Type) where
  | notText (setting : String) (value : Json F)
  | invalidColour (setting : String) (hexOnly : Bool) (value : String)
  | opacityOutside (setting : String) (value : Number F)
  | zoomRange (setting : String) (least largest : Number F)
  | unknownProjection (value : Json F)
  | scaleStart (zoom : Number F)
  | neverVisible (setting : String)
  | emptyName
  | unknownCategory (category : String)
  | noCategory (category : String)
  | unknownDomain (domain : String)
  | unknownPoiCategory (category : String)
  | unknownPreset (name : String) (available : List String)
  | notHex (value : String)
  | noZoomStops
  | missing (setting : String)
  | wrongType (setting : String)

def ThemeError.message {F : Type} [Arithmetic F] : ThemeError F → String
  | .notText setting value => s!"{setting}: expected a colour string, got {value.described}"
  | .invalidColour setting hexOnly value =>
      let kind := if hexOnly then "hex colour" else "colour"
      s!"{setting}: invalid {kind} {Text.quoted value}"
  | .opacityOutside setting value => s!"{setting}: opacity {value.text} outside [0, 1]"
  | .zoomRange setting least largest =>
      s!"{setting}: min_zoom {least.text} must be below max_zoom {largest.text}"
  | .unknownProjection value =>
      s!"projection: expected 'mercator' or 'globe', got {value.described}"
  | .scaleStart zoom => s!"real_world_scale_min_zoom: {zoom.text} must be below {lastScaleZoom}"
  | .neverVisible setting => s!"{setting}: must be above 0"
  | .emptyName => "name: theme name must not be empty"
  | .unknownCategory category => s!"Unknown colour category: {Text.quoted category}"
  | .noCategory category => category
  | .unknownDomain domain => s!"Unknown domain: {Text.quoted domain}"
  | .unknownPoiCategory category => s!"Unknown POI category: {Text.quoted category}"
  | .unknownPreset name available =>
      s!"Unknown theme '{name}'. Available: " ++ ", ".intercalate available
  | .notHex value => s!"Not a hex colour: {Text.quoted value}"
  | .noZoomStops => "evaluate_stops needs at least one stop"
  | .missing setting => s!"{setting} is not set"
  | .wrongType setting => s!"{setting} has a value of the wrong type"

end MapStyle
