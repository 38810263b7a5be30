import MapStyle.Entries
import MapStyle.Sprite.Shield

/-!
# Sprite sheets

A sheet is an image with all sprites and an index that tells where each of them lies. Shields are
added below everything that the index keeps, one below the other; entries of the same names are
replaced, and rows that no entry needs any more are dropped first.
-/

namespace MapStyle

set_option autoImplicit false

variable {F : Type} [Arithmetic F]

/-- The entries of an index, in order. -/
abbrev SpriteIndex (F : Type) := List (String × Json F)

structure SpriteSheet (F : Type) where
  index : SpriteIndex F
  image : Option Image

namespace SpriteIndex

/-- A field of an entry that has to be there. -/
def field (fields : List (String × Json F)) (name : String) : Result F (Json F) :=
  match fields.lookup name with
  | some value => .ok value
  | none => refuseSprite (.noCoordinate name)

def quantity (name : String) : Json F → Result F (Number F)
  | .number value => .ok value
  | _ => refuseSprite (.noNumber name)

/-- The lowest row of a sprite in pixels of the map page. A sprite without a pixel ratio has one
pixel for each of them. -/
def entryBottom (entry : Json F) : Result F (Number F) := do
  match entry with
  | .object fields =>
      let ratio := (fields.lookup "pixelRatio").getD 1
      let y ← field fields "y"
      let height ← field fields "height"
      let bottom ← (← quantity "y" y).add (← quantity "height" height)
      return ← bottom.div (← quantity "pixelRatio" ratio)
  | _ => refuseSprite .noEntry

/-- The row below all sprites of an index, on a sheet with a pixel ratio. -/
def contentBottom (index : SpriteIndex F) (ratio : Number F) : Result F Int := do
  let bottoms ← index.mapM fun entry => entryBottom entry.2
  let lowest ← (bottoms.foldl Number.larger 0.0).mul ratio
  return ← lowest.ceil

def without (names : List String) (index : SpriteIndex F) : SpriteIndex F :=
  index.filter fun entry => !names.contains entry.1

/-- The names whose entries are taken out of an index. -/
def replaced (names : List String) (index : SpriteIndex F) : List String :=
  names.eraseDups.filter fun name =>
    match index.lookup name with
    | none | some .null => false
    | some _ => true

end SpriteIndex

/-- A shield with its image and the row of the sheet in which it begins. -/
structure PlacedShield where
  name : String
  image : Image
  top : Nat

/-- What a sheet keeps, and the shields that go below it. -/
structure SheetPlan (F : Type) where
  kept : SpriteIndex F
  top : Nat
  placed : List PlacedShield

namespace PlacedShield

/-- Places images one below the other. -/
def stack (top : Nat) : List (String × Image) → List PlacedShield
  | [] => []
  | (name, image) :: rest => ⟨name, image, top⟩ :: stack (top + image.height) rest

theorem map_name_stack (top : Nat) (images : List (String × Image)) :
    (stack top images).map PlacedShield.name = images.map Prod.fst := by
  induction images generalizing top with
  | nil => rfl
  | cons image rest ih => simp [stack, ih]

def entry (shield : PlacedShield) (ratio : Nat) : Json F :=
  .object [
    ("width", .int shield.image.width),
    ("height", .int shield.image.height),
    ("x", 0),
    ("y", .int shield.top),
    ("pixelRatio", .int ratio)]

end PlacedShield

namespace SheetPlan

def make (index : SpriteIndex F) (shields : List (ShieldSprite F)) (ratio : Nat) :
    Result F (SheetPlan F) := do
  let kept := index.without (shields.map ShieldSprite.name)
  let top := (← kept.contentBottom (.int ratio)).toNat
  let images ← shields.mapM fun shield => do
    return (shield.name, ← shield.render ratio)
  return { kept, top, placed := PlacedShield.stack top images }

/-- The index of the sheet; of two shields with one name the last one counts. -/
def index (plan : SheetPlan F) (ratio : Nat) : SpriteIndex F :=
  plan.placed.foldl (fun entries shield =>
    Entries.put shield.name (shield.entry ratio) entries) plan.kept

def height (plan : SheetPlan F) : Nat :=
  plan.placed.foldl (fun height shield => height + shield.image.height) plan.top

/-- The image of the sheet: what is kept of an old one, and the shields below it. -/
def image (plan : SheetPlan F) (old : Option Image) : Result F Image := do
  let base := old.map (Image.above plan.top)
  let widths := plan.placed.map (·.image.width) ++ (base.map Image.width).toList
  match widths.max? with
  | none => refuseSprite .emptySheet
  | some width =>
      if plan.height = 0 then refuseSprite .emptyImage
      else
        let blank := Image.blank width plan.height
        let lower := (base.map fun image => image.paste 0 blank).getD blank
        return plan.placed.foldl (fun sheet shield => shield.image.paste shield.top sheet) lower

end SheetPlan

namespace SpriteSheet

/-- The sheet with shields added. -/
def add (sheet : SpriteSheet F) (shields : List (ShieldSprite F)) (ratio : Nat) :
    Result F (SpriteSheet F) := do
  let plan ← SheetPlan.make sheet.index shields ratio
  let image ← plan.image sheet.image
  return { index := plan.index ratio, image }

end SpriteSheet

end MapStyle
