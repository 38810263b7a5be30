import MapStyle.Theme

/-!
# Built-in themes

The themes that come with the compiler, by name: a dark grey map on a globe, with places coloured by
the density of their population, and a light sepia map in the manner of an old printed atlas. Case
does not matter in a name, and a blank or a hyphen may stand for an underscore.
-/

namespace MapStyle.Preset

set_option autoImplicit false

variable {F : Type} [Arithmetic F]

/-- All categories of points of interest, from one zoom on. -/
def allPois (minZoom : Number F) : PoisConfig F :=
  let settings : Option (PoiSettings F) := some ⟨true, some minZoom⟩
  { enabled := true
    minZoom := some minZoom
    airport := settings
    airfield := settings
    hospital := settings
    museum := settings
    zoo := settings
    stadium := settings
    park := settings
    rail := settings
    school := settings }

/-! ### Monochrome -/

namespace Monochrome

def waterColour : String := "#1e1e1e"

def colours : ThemeColours F where
  background := "#303030"
  land :=
    { fallback := "#303030"
      classes := [
        ("wood", "#2e2e2e"),
        ("grass", "#353535"),
        ("scrub", "#3a3a3a"),
        ("cropland", "#3b3b3b"),
        ("farmland", "#3b3b3b"),
        ("rock", "#373737"),
        ("sand", "#3c3c3c"),
        ("wetland", "#343434")] }
  landuse :=
    { fallback := "#303030"
      classes := [
        ("park", "#3a3a3a"),
        ("cemetery", "#3a3a3a"),
        ("pitch", "#3a3a3a"),
        ("stadium", "#3a3a3a"),
        ("residential", "#343434"),
        ("college", "#3a3a3a"),
        ("commercial", "#3a3a3a"),
        ("construction", "#343434"),
        ("dam", "#343434"),
        ("farmland", "#3b3b3b"),
        ("grass", "#353535"),
        ("hospital", "#3a3a3a"),
        ("industrial", "#343434"),
        ("military", "#2f2f2f"),
        ("neighbourhood", "#343434"),
        ("quarry", "#343434"),
        ("quarter", "#343434"),
        ("railway", "#343434"),
        ("retail", "#3a3a3a"),
        ("school", "#3a3a3a"),
        ("suburb", "#343434"),
        ("theme_park", "#3a3a3a"),
        ("track", "#3a3a3a"),
        ("university", "#3a3a3a"),
        ("zoo", "#3a3a3a")] }
  water :=
    { fill := waterColour
      line := "#2f2f2f"
      fallback := waterColour
      classes :=
        ["ocean", "sea", "lake", "pond", "river", "canal", "stream", "ditch", "drain", "bay",
          "gulf", "reservoir"].map fun featureClass => (featureClass, waterColour) }
  boundary := { country := "#9a9a9a", state := "#6e6e6e" }
  road :=
    { motorway := "#5e5e5e"
      trunk := "#595959"
      primary := "#545454"
      secondary := "#4f4f4f"
      tertiary := "#4a4a4a"
      residential := "#454545"
      service := "#404040"
      parkingAisle := "#3d3d3d"
      other := "#404040"
      casing := "#252525" }
  path := "#292929"
  railway := "#282828"
  building :=
    { fill := "#303030"
      outline := "#252525"
      short := "#303030"
      medium := "#353535"
      tall := "#3a3a3a"
      skyscraper := "#3f3f3f"
      supertall := "#444444"
      megatall := "#494949"
      fallback := "#303030" }
  label :=
    { place := { colour := "#b1b1b1", halo := "#252525" }
      road :=
        { major := { colour := "#b1b1b1", opacity := some 0.8 }
          secondary := { colour := "#b1b1b1", opacity := some 0.7 }
          tertiary := { colour := "#b1b1b1", opacity := some 0.7 }
          other := { colour := "#b1b1b1", opacity := some 0.7 }
          halo := "#313131" }
      water := { colour := "#c1c1c1", halo := "#313131" }
      poi := some
        { iconColour := "#a1a1a1"
          iconSize := some 0.8
          textColour := "#a1a1a1"
          textHalo := "#313131"
          textHaloWidth := some 1.5 } }

def labelFonts : LabelFonts where
  default := some ["Noto Sans Regular"]
  place := some ["Noto Sans Regular"]
  road := some ["Noto Sans Regular"]
  water := some ["Noto Sans Italic"]
  poi := some ["Noto Sans Regular"]
  grid := some ["Noto Sans Regular"]

def shields : ShieldsConfig F where
  enabled := true
  minZoom := some 6
  interstate :=
    { ShieldStyle.plain "shield-interstate-custom" "#a1a1a1" 6 with
      textPadding := [5, 5, 5, 5]
      textSize := some [6, 9, 14, 13]
      textFont := some ["Noto Sans SemiBold"]
      upperBackground := "#444444"
      lowerBackground := "#444444"
      strokeColour := "#444444"
      strokeWidth := some 2 }
  usHighway :=
    { ShieldStyle.plain "shield-ushighway-custom" "#a1a1a1" 7 with
      textPadding := [5, 5, 5, 5]
      textSize := some [6, 9, 14, 13]
      textFont := some ["Noto Sans SemiBold"]
      background := "#444444"
      strokeColour := "#444444"
      strokeWidth := some 2.5 }
  stateHighway :=
    { ShieldStyle.plain "shield-state-custom" "#a1a1a1" 8 with
      textPadding := [4, 4, 4, 4]
      textSize := some [8, 8, 14, 12]
      textFont := some ["Noto Sans SemiBold"]
      background := "#444444"
      strokeColour := "#444444"
      strokeWidth := some 1 }

def bathymetry : BathymetryConfig F where
  enabled := true
  minZoom := some 0
  maxZoom := some 7
  opacity := .ofNumbers 0.7 0.9
  colours := some [
    ("shallow", "#1f1f1f"),
    ("shelf", "#1e1e1e"),
    ("slope", "#1e1e1e"),
    ("deep1", "#1d1d1d"),
    ("deep2", "#1c1c1c"),
    ("abyss", "#1b1b1b"),
    ("trench", "#1a1a1a")]
  depthOpacities := some [
    ("shallow", some 0.3),
    ("shelf", some 0.35),
    ("slope", some 0.45),
    ("deep1", some 0.55),
    ("deep2", some 0.7),
    ("abyss", some 0.85),
    ("trench", some 1)]

def densityColours : DensityColours F where
  fallbackFill := "#ecda9a"
  fallbackOutline := "#c4b87a"
  ranges := [
    ⟨100, "#f6e6b8", none⟩,
    ⟨300, "#f3d28f", none⟩,
    ⟨1000, "#f0bd6b", none⟩,
    ⟨2000, "#f2a14a", none⟩,
    ⟨3000, "#f08a2a", none⟩,
    ⟨4000, "#ef6800", none⟩,
    ⟨5000, "#f04f1a", none⟩,
    ⟨7500, "#f03a34", none⟩,
    ⟨10000, "#ee2b4e", none⟩,
    ⟨15000, "#e21f64", none⟩,
    ⟨25000, "#c81b78", none⟩]

end Monochrome

def monochrome : Theme F :=
  { Theme.plain "Monochrome" Monochrome.colours with
    description := "Dark grey basemap on a globe with population-density places"
    labelFonts := some Monochrome.labelFonts
    opacities :=
      { ThemeOpacities.standard with
        boundary :=
          { country := .stops (some [("z0", 0.25), ("z3", 0.25), ("z6", 0.75), ("z10", 0.8)])
            state := some 0.6
            maritime := some 0 } }
    settings :=
      { projection := .globe
        minZoom := .byProjection ⟨some 0, some 2⟩
        realWorldScale := true
        realWorldScaleMinZoom := some 16
        view := { View.standard with centre := [-98.0, 39.0], zoom := some 4.25 } }
    shields := some Monochrome.shields
    pois := some (allPois 12)
    bathymetry := some Monochrome.bathymetry
    hillshade := some
      { HillshadeConfig.standard with
        maxZoom := some 12
        opacity := some 0.25
        exaggeration := some 0.25
        shadowColour := "#252525"
        highlightColour := "#303030"
        accentColour := "#252525" }
    boundary := some { maritime := false, hideOverWater := true }
    buildings := some
      { BuildingsConfig.standard with minZoom := some 13, heightColoursMinZoom := some 14 }
    land := some { overrideColour := "#0f141b" }
    landuse := some { overrideColour := "#0e131a" }
    water := some { overrideColour := "#0a2846", overrideColourWaterway := "#103457" }
    places := some
      { PlacesConfig.standard with
        fill := { colour := "#6a7588", opacity := some 1.0 }
        densityColours := some Monochrome.densityColours }
    starfield := some .standard }

/-! ### Parchment -/

namespace Parchment

def fonts : Fonts where
  regular := ["Cormorant Garamond Regular"]
  semibold := ["Cormorant Garamond SemiBold"]
  italic := ["Cormorant Garamond Italic"]
  bold := some ["Cormorant Garamond Bold"]

def colours : ThemeColours F where
  background := "#f2e8d0"
  land :=
    { fallback := "#efe3c6"
      classes := [
        ("wood", "#dcd3ad"),
        ("grass", "#e6dcb8"),
        ("scrub", "#e3d7b4"),
        ("cropland", "#ece0bd"),
        ("sand", "#f3e6c3"),
        ("wetland", "#dad6b6")] }
  landuse :=
    { fallback := "#ebdfc2"
      classes := [
        ("park", "#dcd5ae"),
        ("cemetery", "#d9d2b0"),
        ("residential", "#e9dcbd"),
        ("industrial", "#e3d5b8"),
        ("commercial", "#e6d6b9")] }
  water :=
    { fill := "#c9d3c0"
      line := "#a9b8a8"
      classes := [("river", "#a9b8a8"), ("canal", "#a9b8a8"), ("stream", "#b4c2b2")] }
  boundary := { country := "#8c6d4f", state := "#b49a7c" }
  road :=
    { motorway := "#b8865b"
      trunk := "#c29468"
      primary := "#cca377"
      secondary := "#d6b38a"
      tertiary := "#ddc19c"
      residential := "#e4cfae"
      service := "#e8d6b8"
      other := "#e8d6b8"
      casing := "#a88b6a" }
  path := "#c9b393"
  railway := "#9a8468"
  building := { fill := "#e0d0b0", outline := "#c8b48f" }
  label :=
    { place := { colour := "#4a3826", halo := "#f2e8d0" }
      road :=
        { major := { colour := "#5a4632", opacity := some 0.9 }
          secondary := { colour := "#6b5640", opacity := some 0.85 }
          tertiary := { colour := "#7a664f", opacity := some 0.8 }
          other := { colour := "#7a664f", opacity := some 0.75 }
          halo := "#f2e8d0" }
      water := { colour := "#5e7468", halo := "#e4eadc" }
      poi := some
        { PoiLabelColours.standard with
          iconColour := "#7a664f"
          textColour := "#5a4632"
          textHalo := "#f2e8d0" } }

def shieldFont : Option FontStack := some ["Cormorant Garamond Bold"]

def shields : ShieldsConfig F where
  enabled := true
  minZoom := some 6
  interstate :=
    { ShieldStyle.plain "shield-interstate-parchment" "#f2e8d0" 6 with
      textFont := shieldFont
      upperBackground := "#8c3b2e"
      lowerBackground := "#2f4a6b"
      strokeColour := "#f2e8d0"
      strokeWidth := some 2 }
  usHighway :=
    { ShieldStyle.plain "shield-ushighway-parchment" "#3a2b1c" 7 with
      textFont := shieldFont
      background := "#f7f0de"
      strokeColour := "#3a2b1c"
      strokeWidth := some 2 }
  stateHighway :=
    { ShieldStyle.plain "shield-state-parchment" "#3a2b1c" 8 with
      textFont := shieldFont
      background := "#efe3c6"
      strokeColour := "#6b5640"
      strokeWidth := some 1 }

end Parchment

def parchment : Theme F :=
  { Theme.plain "Parchment" Parchment.colours with
    description := "Light sepia basemap in the manner of an old printed atlas"
    fonts := Parchment.fonts
    labelFonts := some { water := some ["IM FELL English Italic"] }
    settings :=
      { ThemeSettings.standard with projection := .mercator, minZoom := .same (some 0) }
    shields := some Parchment.shields
    pois := some (allPois 12) }

/-! ### All of them -/

/-- The built-in themes, ordered by name. -/
def all : List (String × Theme F) :=
  [("monochrome", monochrome), ("parchment", parchment)]

def names : List String := ["monochrome", "parchment"]

/-- The key of a name. No character outside the basic Latin alphabet has a lower case that occurs
in the name of a built-in theme, so only basic letters are lowered. -/
def key (name : String) : String :=
  String.ofList (name.toList.map fun character =>
    if character = ' ' ∨ character = '-' then '_' else character.toLower)

def named (name : String) : Result F (Theme F) :=
  match all.lookup (key name) with
  | some theme => .ok theme
  | none => Result.ofTheme (.unknownPreset name names)

end MapStyle.Preset
