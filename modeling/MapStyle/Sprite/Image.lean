/-!
# Images

An image is a size, a way of storing pixels, and the pixel at every place. Images are put on top
of one another; nothing is blended.
-/

namespace MapStyle

set_option autoImplicit false

/-- A pixel: four channels between 0 and 255. -/
structure Pixel where
  red : Nat
  green : Nat
  blue : Nat
  alpha : Nat
  deriving DecidableEq, Repr

/-- What an image stores of its pixels: all channels, no opacity, or a single shade. -/
inductive ImageMode where
  | rgba
  | rgb
  | grey
  deriving DecidableEq, Repr

/-- Rows are counted from the top, columns from the left. -/
structure Image where
  width : Nat
  height : Nat
  mode : ImageMode
  pixel : (column row : Nat) → Pixel

namespace Pixel

def transparent : Pixel := ⟨0, 0, 0, 0⟩

def solid (red green blue : Nat) : Pixel := ⟨red, green, blue, 255⟩

end Pixel

namespace ImageMode

def name : ImageMode → String
  | .rgba => "RGBA"
  | .rgb => "RGB"
  | .grey => "L"

end ImageMode

namespace Image

/-- An image of one colour. -/
def plain (width height : Nat) (mode : ImageMode) (colour : Pixel) : Image :=
  { width, height, mode, pixel := fun _ _ => colour }

def blank (width height : Nat) : Image :=
  plain width height .rgba .transparent

/-- The rows of an image above a row. -/
def above (row : Nat) (image : Image) : Image :=
  { image with height := min image.height row }

/-- Puts an image on top of another one, its first row in a row of the lower one. What would lie
outside the lower image is lost. -/
def paste (upper : Image) (top : Nat) (lower : Image) : Image :=
  { lower with
    pixel := fun column row =>
      if column < upper.width ∧ top ≤ row ∧ row < top + upper.height then
        upper.pixel column (row - top)
      else lower.pixel column row }

/-- A coordinate within a length; negative ones count from the end. -/
def within? (length : Nat) (coordinate : Int) : Option Nat :=
  let shifted := if coordinate < 0 then coordinate + length else coordinate
  if 0 ≤ shifted ∧ shifted < length then some shifted.toNat else none

/-- The pixel at a place, if the place lies within the image. -/
def at? (image : Image) (column row : Int) : Option Pixel := do
  let found ← within? image.width column
  let foundRow ← within? image.height row
  return image.pixel found foundRow

end Image

end MapStyle
