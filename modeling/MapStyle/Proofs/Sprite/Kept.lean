import MapStyle.Proofs.Number.Scaling
import MapStyle.Proofs.Sprite.Sheet
import MapStyle.Proofs.Sprite.Store

/-!
# Sprites that are kept

Shields are placed below the row that is computed for the entries of an index, and the old image
is cut off there. A sprite that has no more pixels for each pixel of the map page than the sheet
lies above that row: it stays as it was, and no shield is put over it. The row is computed in
fractional numbers, in which no row is lost as long as an image can be stored.
-/

namespace MapStyle

set_option autoImplicit false

/-! ### Rectangles of pixels -/

structure PixelArea where
  left : Nat
  top : Nat
  width : Nat
  height : Nat
  deriving DecidableEq, Repr

namespace PixelArea

def bottom (area : PixelArea) : Nat :=
  area.top + area.height

def Contains (area : PixelArea) (column row : Nat) : Prop :=
  area.left ≤ column ∧ column < area.left + area.width ∧ area.top ≤ row ∧ row < area.bottom

instance (area : PixelArea) (column row : Nat) : Decidable (area.Contains column row) :=
  inferInstanceAs (Decidable (_ ∧ _))

def Within (area : PixelArea) (image : Image) : Prop :=
  area.left + area.width ≤ image.width ∧ area.bottom ≤ image.height

def Overlaps (area other : PixelArea) : Prop :=
  ∃ column row, area.Contains column row ∧ other.Contains column row

/-- The part of an image is a part of another one, with the same pixels. -/
structure Unchanged (area : PixelArea) (old new : Image) : Prop where
  within : area.Within new
  pixel : ∀ column row, area.Contains column row → new.pixel column row = old.pixel column row

end PixelArea

/-- The rectangle in which a shield is drawn. -/
def PlacedShield.area (shield : PlacedShield) : PixelArea :=
  ⟨0, shield.top, shield.image.width, shield.image.height⟩

theorem PlacedShield.not_overlaps {shield : PlacedShield} {area : PixelArea}
    (below : area.bottom ≤ shield.top) : ¬ area.Overlaps shield.area := by
  rintro ⟨column, row, ⟨_, _, _, above⟩, ⟨_, _, reached, _⟩⟩
  exact absurd (below.trans reached) (not_le.mpr above)

variable {F : Type} [Arithmetic F]

namespace SpriteIndex

variable {index : SpriteIndex F} {scale : Nat}

/-- An entry gives a rectangle in integers, and a pixel ratio. -/
structure Describes (fields : List (String × Json F)) (area : PixelArea) (ratio : Number F) :
    Prop where
  left : fields.lookup "x" = some (.number (.int area.left))
  top : fields.lookup "y" = some (.number (.int area.top))
  width : fields.lookup "width" = some (.number (.int area.width))
  height : fields.lookup "height" = some (.number (.int area.height))
  ratio : (fields.lookup "pixelRatio").getD 1 = .number ratio

/-! ### The row below all entries -/

variable {fields : List (String × Json F)} {area : PixelArea} {own : Number F}

/-- The bottom of a sprite is its lowest row divided by its pixel ratio. -/
theorem entryBottom_eq (describes : Describes fields area own) :
    entryBottom (.object fields) =
      liftM ((Number.int (area.bottom : Nat) : Number F).div own) := by
  have sum : ((area.bottom : Nat) : Int) = area.top + area.height := Nat.cast_add _ _
  simp only [entryBottom, field, describes.top, describes.height, describes.ratio, quantity, sum]
  rfl

/-- An entry with no more pixels for each pixel of the map page than the sheet lies above the row
below all entries. -/
theorem bottom_le_contentBottom [OrderedArithmetic F] [ScalingArithmetic F] {name : String}
    {bottom : Int} (member : (name, .object fields) ∈ index)
    (describes : Describes fields area own) (positive : (0 : Number F).lt own = true)
    (notFiner : own.le (.int scale) = true) (stored : area.bottom < 2 ^ 32)
    (scaleStored : scale < 2 ^ 32) (found : index.contentBottom (.int scale) = .ok bottom) :
    area.bottom ≤ bottom.toNat := by
  obtain empty | occupied := Nat.eq_zero_or_pos area.bottom
  · rw [empty]
    exact Nat.zero_le _
  · obtain ⟨bottoms, bottomsFound, rest⟩ := bind_eq_ok.mp found
    obtain ⟨lowest, multiplied, rounded⟩ := bind_eq_ok.mp rest
    obtain ⟨quotient, isBottom, divided⟩ := exists_mem_of_mapM bottomsFound member
    rw [entryBottom_eq describes, lift_eq_ok] at divided
    have start : (0.0 : Number F).place? = some (.ofRat 0) := ScalingArithmetic.zero
    obtain ⟨ratio, isRatio, ratioPositive, ratioBelow⟩ := Number.exists_ratio positive notFiner
    have below := Number.row_le_ceil occupied stored scaleStored isRatio ratioPositive ratioBelow
      divided
      (Number.atLeast_foldl_of_mem start isBottom) (lift_eq_ok.mp multiplied)
      (lift_eq_ok.mp rounded)
    omega

end SpriteIndex

/-! ### The new image -/

namespace SheetPlan

variable {plan : SheetPlan F} {base image : Image} {area : PixelArea}

omit [Arithmetic F] in
/-- What of an old image lies above the shields is in the new image as it was. -/
theorem unchanged_of_image (below : ∀ shield ∈ plan.placed, plan.top ≤ shield.top)
    (notShorter : plan.top ≤ plan.height) (drawn : plan.image (some base) = .ok image)
    (within : area.Within base) (above : area.bottom ≤ plan.top) : area.Unchanged base image := by
  obtain ⟨inWidth, inHeight⟩ := within
  constructor
  · have wide : base.width ≤ image.width := width_le_of_image drawn (by simp [widths, Image.above])
    refine ⟨inWidth.trans wide, ?_⟩
    rw [height_of_image drawn]
    exact above.trans notShorter
  · obtain ⟨width, _, _, rfl⟩ := image_eq_ok.mp drawn
    rintro column row ⟨_, inColumns, _, inRows⟩
    rw [drawnOn, (foldl_paste _ below).2.2 column row (inRows.trans_le above)]
    have kept : column < (base.above plan.top).width ∧ 0 ≤ row ∧
        row < 0 + (base.above plan.top).height := by
      refine ⟨inColumns.trans_le inWidth, Nat.zero_le row, ?_⟩
      rw [Nat.zero_add]
      exact inRows.trans_le (le_min inHeight above)
    exact if_pos kept

end SheetPlan

namespace SpriteStore

variable [OrderedArithmetic F] [ScalingArithmetic F] {directory : Path} {ratio : Nat}
  {sheet : SpriteSheet F} {base : Image} {before after : Session}
  {shields : List (ShieldSprite F)} {verbose : Bool} {written : List Path}

def here : Path := ⟨"", []⟩

def poiText : String :=
  "\x7b\"poi\": \x7b\"x\": 0, \"y\": 0, \"width\": 4, \"height\": 20, \"pixelRatio\": 2\x7d\x7d"

def poiFields : List (String × Json Rat) :=
  [("x", 0), ("y", 0), ("width", 4), ("height", 20), ("pixelRatio", 2)]

def poiArea : PixelArea := ⟨0, 0, 4, 20⟩

def poiImage : Image := .plain 4 20 .rgba (.solid 200 30 30)

def poiSheet : SpriteSheet Rat := ⟨[("poi", .object poiFields)], some poiImage⟩

/-- The sprite on a sheet of its own, with a pixel ratio. -/
def poiFiles (ratio : Nat) : FileTree :=
  ⟨[([fileName ratio ++ ".json"], .file (.text poiText)),
    ([fileName ratio ++ ".png"], .file (.image poiImage))]⟩

def interstate : ShieldSprite Rat :=
  ⟨"interstate", "shield-interstate", .plain "shield-interstate" "#ffffff" 6⟩

theorem describes_poi : SpriteIndex.Describes poiFields poiArea 2 :=
  ⟨rfl, rfl, rfl, rfl, rfl⟩

theorem poi_within : poiArea.Within poiImage :=
  ⟨le_refl 4, le_refl 20⟩

set_option maxRecDepth 4000 in
theorem indexOf_poiText : indexOf (Text.unifiedBreaks poiText) = .ok poiSheet.index := by
  with_unfolding_all rfl

theorem holds_poiFiles : ∀ ratio ∈ ratios, Holds (poiFiles ratio) here ratio poiSheet := by
  have holds (ratio : Nat)
      (index : (poiFiles ratio).read (indexPath here ratio) = .ok (.text poiText))
      (image : (poiFiles ratio).read (imagePath here ratio) = .ok (.image poiImage)) :
      Holds (poiFiles ratio) here ratio poiSheet :=
    ⟨.inr ⟨poiText, index, indexOf_poiText⟩, .inr ⟨poiImage, image, rfl⟩⟩
  simp only [ratios, List.forall_mem_cons]
  exact ⟨holds 1 rfl rfl, holds 2 rfl rfl, by simp⟩

theorem interstate_added : ∀ ratio ∈ ratios, ∃ written after,
    (addShields here [interstate] ratio false).Ends ⟨poiFiles ratio, ""⟩ written after := by
  have isOk : ∀ ratio ∈ ratios,
      ((addShields here [interstate] ratio false).run ⟨poiFiles ratio, ""⟩).1.isOk = true := by
    decide +kernel
  exact fun ratio isRatio => Work.ends_of_isOk (isOk ratio isRatio)

end SpriteStore

end MapStyle
