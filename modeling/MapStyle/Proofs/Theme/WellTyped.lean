import MapStyle.Proofs.Expr.Total
import MapStyle.Theme

/-!
# Themes with values of the declared types

Reading a theme keeps a setting that is given as open, and keeps texts of any length among the
keys of a mapping. Here such themes are set apart: a setting that is not declared as optional is
given, a text size has its four entries, and the texts among the keys of mappings are short.
-/

namespace MapStyle

set_option autoImplicit false

structure ValueRange.WellTyped (range : ValueRange Rat) : Prop where
  atMin : range.atMin.isSome
  atMax : range.atMax.isSome

structure BathymetryConfig.WellTyped (config : BathymetryConfig Rat) : Prop where
  minZoom : config.minZoom.isSome
  maxZoom : config.maxZoom.isSome
  opacity : config.opacity.WellTyped

structure ContourStyle.WellTyped (style : ContourStyle Rat) : Prop where
  width : style.width.WellTyped
  opacity : style.opacity.isSome

structure ContoursConfig.WellTyped (config : ContoursConfig Rat) : Prop where
  maxZoom : config.maxZoom.isSome
  major : config.major.WellTyped
  minor : config.minor.WellTyped

structure IceConfig.WellTyped (config : IceConfig Rat) : Prop where
  minZoom : config.minZoom.isSome
  maxZoom : config.maxZoom.isSome
  opacity : config.opacity.WellTyped
  edge : ∀ edge ∈ config.iceEdge, edge.opacity.isSome

structure HillshadeConfig.WellTyped (config : HillshadeConfig Rat) : Prop where
  minZoom : config.minZoom.isSome
  opacity : config.opacity.isSome
  exaggeration : config.exaggeration.isSome

structure GridLine.WellTyped (line : GridLine Rat) : Prop where
  opacity : line.opacity.isSome
  label : ∀ label ∈ line.label, label.opacity.isSome

structure GridConfig.WellTyped (config : GridConfig Rat) : Prop where
  minZoom : config.minZoom.isSome
  maxZoom : config.maxZoom.isSome
  latitude : ∀ line ∈ config.latitude, line.WellTyped
  longitude : ∀ line ∈ config.longitude, line.WellTyped

structure ShieldStyle.WellTyped (style : ShieldStyle Rat) : Prop where
  minZoom : style.minZoom.isSome
  textSize : ∀ size ∈ style.textSize, size.length = 4

structure ShieldsConfig.WellTyped (config : ShieldsConfig Rat) : Prop where
  minZoom : config.minZoom.isSome
  style : ∀ kind, (config.style kind).WellTyped

structure ThemeWidths.ShortKeys (widths : ThemeWidths Rat) : Prop where
  country : MapStyle.ShortKeys (widths.boundary.country.getD [])
  state : MapStyle.ShortKeys (widths.boundary.state.getD [])
  waterLine : MapStyle.ShortKeys (widths.waterLine.getD [])
  road : widths.road.ShortKeys
  roadCasing : widths.roadCasing.ShortKeys
  tunnelRoad : ∀ own ∈ widths.tunnelRoad, own.ShortKeys
  bridgeRoad : ∀ own ∈ widths.bridgeRoad, own.ShortKeys
  path : MapStyle.ShortKeys (widths.path.getD [])
  railway : MapStyle.ShortKeys (widths.railway.getD [])

theorem ThemeWidths.shortKeys_standard : (standard : ThemeWidths Rat).ShortKeys where
  country := by decide
  state := by decide
  waterLine := by decide
  road := ⟨by decide, fun roadClass => by cases roadClass <;> decide⟩
  roadCasing := ⟨by decide, fun roadClass => by cases roadClass <;> decide⟩
  tunnelRoad := by simp [standard]
  bridgeRoad := by simp [standard]
  path := by decide
  railway := by decide

/-- The opacity of country borders is a number or a mapping with short keys. -/
def CountryOpacity.WellTyped : CountryOpacity Rat → Prop
  | .fixed _ => True
  | .stops mapping => ShortKeys (mapping.getD [])
  | .unusable _ => False

/-- The settings of a theme have values of their declared types, as far as layers depend on it. No
line break ends the colour of water, which the reader of a theme would let through. -/
structure Theme.WellTyped (theme : Theme Rat) : Prop where
  waterFill : ∃ fill, theme.colours.water.fill = some fill ∧ fill.toList.getLast? ≠ some '\n'
  widths : theme.widths.ShortKeys
  countryOpacity : theme.opacities.boundary.country.WellTyped
  scaleStart : theme.settings.realWorldScaleMinZoom.isSome
  buildings : ∀ config ∈ theme.buildings, config.minZoom.isSome
  bathymetry : ∀ config ∈ theme.bathymetry, config.WellTyped
  contours : ∀ config ∈ theme.contours, config.WellTyped
  ice : ∀ config ∈ theme.ice, config.WellTyped
  hillshade : ∀ config ∈ theme.hillshade, config.WellTyped
  grid : ∀ config ∈ theme.grid, config.WellTyped
  shields : ∀ config ∈ theme.shields, config.WellTyped

/-- What is not set is of the declared type. -/
theorem Theme.plain_wellTyped (name : String) {colours : ThemeColours Rat} {fill : String}
    (given : colours.water.fill = some fill) (unbroken : fill.toList.getLast? ≠ some '\n') :
    (plain name colours).WellTyped where
  waterFill := ⟨fill, given, unbroken⟩
  widths := ThemeWidths.shortKeys_standard
  countryOpacity := trivial
  scaleStart := rfl
  buildings := by simp [plain]
  bathymetry := by simp [plain]
  contours := by simp [plain]
  ice := by simp [plain]
  hillshade := by simp [plain]
  grid := by simp [plain]
  shields := by simp [plain]

end MapStyle
