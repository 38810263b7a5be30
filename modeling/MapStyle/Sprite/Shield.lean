import MapStyle.Colour.Hex
import MapStyle.Sprite.Image
import MapStyle.Sprite.Shape
import MapStyle.Theme

/-!
# Shields as images

A shield is drawn into a square whose side depends on its kind and on the number of pixels for
each pixel of the map page. A pixel has the colour of the area in which its centre lies.
-/

namespace MapStyle

set_option autoImplicit false

variable {F : Type} [Arithmetic F]

def refuseSprite {α : Type} (cause : SpriteError) : Result F α :=
  .error (.sprite cause)

namespace ShieldKind

/-- The side of a shield in pixels of the map page. -/
def side : ShieldKind → Nat
  | .interstate => 28
  | .usHighway => 26
  | .stateHighway => 34

/-- The width of the stroke, in hundredths of the side, of a shield that has none of its own. -/
def strokeWidth : ShieldKind → Number F
  | .interstate => 2
  | .usHighway => 3
  | .stateHighway => 2

end ShieldKind

/-- A shield that is to be drawn: its kind by name, and the name of its sprite. -/
structure ShieldSprite (F : Type) where
  kind : String
  name : String
  style : ShieldStyle F

namespace ShieldSprite

/-! ### Outlines, in hundredths of the side -/

/-- Two tips at the top, a notch between them, and a round body that ends in a point. -/
def interstateOutline : List Shape.Point :=
  [⟨15, 2⟩, ⟨32, 7⟩, ⟨50, 3⟩, ⟨68, 7⟩, ⟨85, 2⟩, ⟨95, 18⟩, ⟨99, 40⟩, ⟨96, 62⟩, ⟨85, 80⟩,
    ⟨50, 98⟩, ⟨15, 80⟩, ⟨4, 62⟩, ⟨1, 40⟩, ⟨5, 18⟩]

/-- The end of the upper band of an interstate shield. -/
def bandEnd : Int := 24

def usHighwayOutline : List Shape.Point :=
  [⟨10, 17⟩, ⟨30, 10⟩, ⟨50, 4⟩, ⟨70, 10⟩, ⟨90, 17⟩, ⟨85, 38⟩, ⟨91, 62⟩, ⟨84, 82⟩, ⟨50, 96⟩,
    ⟨16, 82⟩, ⟨9, 62⟩, ⟨15, 38⟩]

/-- The square of a state highway, wide enough for numbers of three digits. -/
def stateHighwaySquare : Shape.RoundedSquare := ⟨12, 88, 18⟩

/-! ### Colours -/

def standardUpperBackground : String := "#2a3444"

def standardBackground : String := "#1e2530"

def standardStroke : String := "#4a5a6a"

/-- The opaque pixel of a hexadecimal colour. -/
def pixelOf (colour : String) : Result F Pixel :=
  let text := String.ofList (Colour.withoutFinalBreak colour.toList)
  match if Colour.isHex text then Colour.channels? text else none with
  | some (red, green, blue) => .ok (.solid red.toNat green.toNat blue.toNat)
  | none => refuseSprite (.notHex colour)

/-- The colours of the three areas of a shield. Only an interstate shield tells its upper band
from the rest. -/
structure Palette where
  upper : Pixel
  lower : Pixel
  stroke : Pixel
  deriving DecidableEq, Repr

def palette (kind : ShieldKind) (style : ShieldStyle F) : Result F Palette := do
  let colour (given : Option String) (standard : String) : Result F Pixel :=
    pixelOf ((givenColour? given).getD standard)
  let stroke ← colour style.strokeColour standardStroke
  match kind with
  | .interstate =>
      let upper ← colour style.upperBackground standardUpperBackground
      let lower ← colour style.lowerBackground standardBackground
      return ⟨upper, lower, stroke⟩
  | .usHighway | .stateHighway =>
      let background ← colour style.background standardBackground
      return ⟨background, background, stroke⟩

/-! ### Drawing -/

/-- The pixels across one pixel of a shield on the finer grid in which strokes are measured. -/
def fineness : Nat := 4

/-- The width of the stroke on the finer grid: at least one. -/
def strokeOnGrid (kind : ShieldKind) (style : ShieldStyle F) (side : Nat) : Result F Int := do
  let width := style.strokeWidth.getD kind.strokeWidth
  let scaled ← width.mul (.int (side * fineness))
  let exact ← scaled.div 100
  return max 1 (← exact.round)

/-- Half of one pixel of the finer grid, in the unit in which shields are drawn: a hundredth of
the side is twice as many units as the side has pixels. -/
def halfGridPixel : Int := 25

/-- The centre of a pixel. -/
def centre (column row : Nat) : Shape.Point :=
  ⟨100 * (2 * column + 1), 100 * (2 * row + 1)⟩

/-- The colour at a point of a shield of `side` pixels whose stroke has a width on the finer
grid. -/
def colourAt (kind : ShieldKind) (palette : Palette) (side : Nat) (stroke : Int)
    (point : Shape.Point) : Pixel :=
  let unit : Int := 2 * side
  let within (outline : List Shape.Point) (filling : Pixel) : Pixel :=
    let scaled := outline.map (Shape.Point.scale unit)
    if Shape.isOnStroke scaled (stroke * halfGridPixel) point then palette.stroke
    else if Shape.encloses scaled point then filling
    else .transparent
  match kind with
  | .interstate =>
      within interstateOutline
        (if point.y < bandEnd * unit then palette.upper else palette.lower)
  | .usHighway => within usHighwayOutline palette.lower
  | .stateHighway =>
      let square : Shape.RoundedSquare :=
        ⟨stateHighwaySquare.low * unit, stateHighwaySquare.high * unit,
          stateHighwaySquare.radius * unit⟩
      if (square.shrink (2 * stroke * halfGridPixel)).encloses point then palette.lower
      else if square.encloses point then palette.stroke
      else .transparent

/-- The image of a shield. -/
def render (shield : ShieldSprite F) (ratio : Nat) : Result F Image := do
  match ShieldKind.ofName? shield.kind with
  | none => refuseSprite (.unknownKind shield.kind)
  | some kind =>
      let side := kind.side * ratio
      let stroke ← strokeOnGrid kind shield.style side
      let colours ← palette kind shield.style
      return {
        width := side
        height := side
        mode := .rgba
        pixel := fun column row => colourAt kind colours side stroke (centre column row) }

end ShieldSprite

/-- The shields that a theme draws. There is at least one. -/
def Theme.shieldSprites (theme : Theme F) : Result F (List (ShieldSprite F)) := do
  match theme.shields with
  | none => refuseSprite (.notConfigured theme.name)
  | some config =>
      if !config.enabled then refuseSprite (.disabled theme.name)
      else
        let styles := ShieldKind.all.map fun kind => (kind, config.style kind)
        let sprites := (styles.filter fun entry => entry.2.enabled).map
          fun (kind, style) => ShieldSprite.mk kind.name (style.sprite.getD "null") style
        if sprites.isEmpty then refuseSprite (.noneEnabled theme.name) else return sprites

end MapStyle
