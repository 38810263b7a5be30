import MapStyle.Proofs.Json.Real
import MapStyle.Proofs.Number.Sign
import MapStyle.Proofs.Sprite.Held
import MapStyle.Proofs.Sprite.Kept

/-!
# Shields one below the other

Shields of different names are added behind all entries that are kept, and below all of them: the first
one begins in the row below what is kept, each further one where the one before it ends, and the image
ends with the last one. So no two of them overlap, and none is cut off. They can be added whenever that
row can be computed, every one of them can be drawn and the files of the sheet can be written.
-/

namespace MapStyle

set_option autoImplicit false

/-! ### Places in a stack -/

namespace PlacedShield

variable {images : List (String × Image)}

/-- Each shield begins in the row below the one before it. -/
theorem isChain_stack (top : Nat) (images : List (String × Image)) :
    (stack top images).IsChain fun shield next => next.top = shield.area.bottom := by
  induction images generalizing top with
  | nil => exact .nil
  | cons first rest ih =>
      refine List.isChain_cons.mpr ⟨?_, ih _⟩
      cases rest with
      | nil => rintro _ ⟨⟩
      | cons second others =>
          rintro _ ⟨⟩
          rfl

/-- Each shield lies below all that come before it. -/
theorem pairwise_stack (top : Nat) (images : List (String × Image)) :
    (stack top images).Pairwise fun shield other => shield.area.bottom ≤ other.top := by
  induction images generalizing top with
  | nil => exact .nil
  | cons first rest ih =>
      exact List.pairwise_cons.mpr ⟨fun other below => (mem_stack below).2.1, ih _⟩

theorem getLast?_stack (top : Nat) (given : images ≠ []) :
    ∃ shield, (stack top images).getLast? = some shield ∧ shield.area.bottom = top + rows images := by
  induction images generalizing top with
  | nil => exact absurd rfl given
  | cons first rest ih =>
      cases rest with
      | nil => exact ⟨_, rfl, rfl⟩
      | cons second others =>
          obtain ⟨shield, isLast, ends⟩ := ih (top + first.2.height) (List.cons_ne_nil _ _)
          refine ⟨shield, ?_, ?_⟩
          · rw [stack, stack, List.getLast?_cons_cons]
            exact isLast
          · rw [ends, Nat.add_assoc]
            rfl

end PlacedShield

variable {F : Type} [Arithmetic F]

/-! ### The row below what is kept -/

/-- The row below all entries is a row of the sheet, whatever the entries say. -/
theorem SpriteIndex.contentBottom_notNegative [OrderedArithmetic F] [ScalingArithmetic F]
    [SignedArithmetic F] {index : SpriteIndex F} {ratio : Nat} {bottom : Int}
    (found : index.contentBottom (.int ratio) = .ok bottom) : 0 ≤ bottom := by
  obtain ⟨bottoms, _, rest⟩ := bind_eq_ok.mp found
  obtain ⟨lowest, multiplied, rounded⟩ := bind_eq_ok.mp rest
  have start : (0.0 : Number F).AtLeast 0 := ⟨.ofRat 0, ScalingArithmetic.zero, le_rfl⟩
  have notBelow : (bottoms.foldl Number.larger 0.0).NotBelow := start.foldl_larger.notBelow
  exact (notBelow.mul (lift_eq_ok.mp multiplied)).ceil_notNegative (lift_eq_ok.mp rounded)

/-! ### Sheets on which shields are packed -/

/-- The entry of a sprite that fills a rectangle. -/
def PixelArea.entry (area : PixelArea) (ratio : Nat) : Json F :=
  .object [
    ("width", .int area.width),
    ("height", .int area.height),
    ("x", .int area.left),
    ("y", .int area.top),
    ("pixelRatio", .int ratio)]

/-- A square at the left edge, of the size that the kind of a shield has. -/
def ShieldSprite.Fills (shield : ShieldSprite F) (ratio : Nat) (area : PixelArea) : Prop :=
  ∃ kind, ShieldKind.ofName? shield.kind = some kind ∧ area.left = 0 ∧
    area.width = kind.side * ratio ∧ area.height = kind.side * ratio

/-- A sheet shows shields in rectangles one below the other, below all that it keeps, and nothing
more. -/
structure Packs (kept : SpriteIndex F) (shields : List (ShieldSprite F)) (ratio : Nat)
    (index : SpriteIndex F) (image : Image) (areas : List PixelArea) : Prop where
  index : index = kept ++
    List.zipWith (fun shield area => (shield.name, area.entry ratio)) shields areas
  squares : List.Forall₂ (fun shield area => shield.Fills ratio area) shields areas
  first : ∃ area, areas.head? = some area ∧ kept.contentBottom (.int ratio) = .ok (area.top : Int)
  next : areas.IsChain fun area next => next.top = area.bottom
  apart : areas.Pairwise fun area other => ¬ area.Overlaps other
  within : ∀ area ∈ areas, area.Within image
  last : ∃ area, areas.getLast? = some area ∧ image.height = area.bottom

namespace SheetPlan

variable {index : SpriteIndex F} {shields : List (ShieldSprite F)} {ratio : Nat}
  {plan : SheetPlan F} {images : List (String × Image)} {old : Option Image} {image : Image}

/-- The shields, each with the place of its image. -/
theorem Rendered.forall₂_stack (rendered : Rendered ratio shields images) (top : Nat) :
    List.Forall₂ (fun shield placed => placed.name = shield.name ∧ shield.Fills ratio placed.area)
      shields (PlacedShield.stack top images) := by
  induction rendered generalizing top with
  | nil => exact .nil
  | cons first _ ih =>
      obtain ⟨name, drawn⟩ := first
      obtain ⟨kind, isKind, width, height⟩ := ShieldSprite.render_eq_ok drawn
      exact .cons ⟨name, kind, isKind, rfl, width, height⟩ (ih _)

omit [Arithmetic F] in
/-- The new entries, told by the places alone. -/
theorem map_entry_of_forall₂ {placed : List PlacedShield}
    (each : List.Forall₂ (fun shield placed => placed.name = shield.name ∧
      shield.Fills ratio placed.area) shields placed) :
    placed.map (fun shield => (shield.name, (shield.entry ratio : Json F))) =
      List.zipWith (fun shield area => (shield.name, area.entry ratio)) shields
        (placed.map PlacedShield.area) := by
  induction each with
  | nil => rfl
  | cons first _ ih =>
      rw [List.map_cons, List.map_cons, List.zipWith_cons_cons, ih, first.1]
      rfl

/-- Shields of different names have their entries behind all that are kept. -/
theorem index_of_make (made : make index shields ratio = .ok plan)
    (keys : (index.map Prod.fst).Nodup) (distinct : (shields.map ShieldSprite.name).Nodup) :
    plan.index ratio = index.without (shields.map ShieldSprite.name) ++
      List.zipWith (fun shield area => (shield.name, area.entry ratio)) shields
        (plan.placed.map PlacedShield.area) := by
  have names := map_name_placed made
  obtain ⟨bottom, images, _, rendered, rfl⟩ := make_eq_ok.mp made
  have kept : ((index.without (shields.map ShieldSprite.name)).map Prod.fst).Nodup :=
    keys.sublist (List.filter_sublist.map Prod.fst)
  -- No entry that is kept has the name of a shield, so none of them is put in another's place.
  have fresh : ((index.without (shields.map ShieldSprite.name)).map Prod.fst ++
      shields.map ShieldSprite.name).Nodup := by
    refine List.nodup_append.mpr ⟨kept, distinct, ?_⟩
    rintro name isKept _ isShield rfl
    obtain ⟨entry, member, rfl⟩ := List.mem_map.mp isKept
    exact (mem_without.mp member).2 isShield
  rw [SheetPlan.index, Entries.foldl_put_of_nodup,
    map_entry_of_forall₂ (rendered.forall₂_stack bottom.toNat)]
  rwa [names]

/-- The image of a plan is large enough for each of its shields. -/
theorem within_of_image (made : make index shields ratio = .ok plan)
    (drawn : plan.image old = .ok image) :
    ∀ placed ∈ plan.placed, placed.area.Within image := by
  intro placed member
  constructor
  · have shown : placed.image.width ∈ widths plan old :=
      List.mem_append_left _ (List.mem_map_of_mem member)
    exact (Nat.zero_add _).trans_le (width_le_of_image drawn shown)
  · obtain ⟨_, above, _⟩ := placed_shield made member
    exact above.trans (height_of_image drawn).ge

variable [OrderedArithmetic F] [ScalingArithmetic F] [SignedArithmetic F]

/-- What a plan makes of a sheet. -/
theorem packs_of_make (made : make index shields ratio = .ok plan)
    (drawn : plan.image old = .ok image) (given : shields ≠ [])
    (keys : (index.map Prod.fst).Nodup) (distinct : (shields.map ShieldSprite.name).Nodup) :
    Packs (index.without (shields.map ShieldSprite.name)) shields ratio (plan.index ratio) image
      (plan.placed.map PlacedShield.area) := by
  have newIndex := index_of_make made keys distinct
  have inside := within_of_image made drawn
  have height := height_of_image drawn
  obtain ⟨bottom, images, found, rendered, isPlan⟩ := make_eq_ok.mp made
  have isBottom : (bottom.toNat : Int) = bottom :=
    Int.toNat_of_nonneg (SpriteIndex.contentBottom_notNegative found)
  have imagesGiven : images ≠ [] := by
    rintro rfl
    exact given (List.forall₂_nil_right_iff.mp rendered)
  subst isPlan
  constructor
  case index => exact newIndex
  case squares =>
    exact List.forall₂_map_right_iff.mpr
      ((rendered.forall₂_stack bottom.toNat).imp fun _ _ both => both.2)
  case first =>
    obtain ⟨first, rest, rfl⟩ := List.exists_cons_of_ne_nil imagesGiven
    refine ⟨_, rfl, found.trans ?_⟩
    exact congrArg Except.ok isBottom.symm
  case next => exact (List.isChain_map _).mpr (PlacedShield.isChain_stack _ _)
  case apart =>
    refine List.pairwise_map.mpr ((PlacedShield.pairwise_stack _ _).imp ?_)
    exact PlacedShield.not_overlaps
  case within => exact List.forall_mem_map.mpr inside
  case last =>
    obtain ⟨shield, isLast, ends⟩ := PlacedShield.getLast?_stack bottom.toNat imagesGiven
    refine ⟨shield.area, ?_, ?_⟩
    · rw [List.getLast?_map, isLast, Option.map_some]
    · rw [height, ends, SheetPlan.height, PlacedShield.foldl_height_stack]

/-! ### Sheets to which shields can be added -/

omit [OrderedArithmetic F] [ScalingArithmetic F] [SignedArithmetic F] in
theorem exists_rendered_iff : (∃ images, Rendered ratio shields images) ↔
    ∀ shield ∈ shields, ∃ image, shield.render ratio = .ok image := by
  constructor
  · rintro ⟨images, rendered⟩ shield member
    obtain ⟨image, _, _, drawn⟩ := rendered.exists_image member
    exact ⟨image.2, drawn⟩
  · intro each
    induction shields with
    | nil => exact ⟨[], .nil⟩
    | cons shield rest ih =>
        obtain ⟨⟨image, drawn⟩, others⟩ := List.forall_mem_cons.mp each
        obtain ⟨images, rendered⟩ := ih others
        exact ⟨(shield.name, image) :: images, .cons ⟨rfl, drawn⟩ rendered⟩

omit [OrderedArithmetic F] [ScalingArithmetic F] [SignedArithmetic F] in
theorem exists_make_iff : (∃ plan, make index shields ratio = .ok plan) ↔
    (∃ bottom, (index.without (shields.map ShieldSprite.name)).contentBottom (.int ratio) =
      .ok bottom) ∧ ∀ shield ∈ shields, ∃ image, shield.render ratio = .ok image := by
  rw [← exists_rendered_iff]
  constructor
  · rintro ⟨plan, made⟩
    obtain ⟨bottom, images, found, rendered, _⟩ := make_eq_ok.mp made
    exact ⟨⟨bottom, found⟩, images, rendered⟩
  · rintro ⟨⟨bottom, found⟩, images, rendered⟩
    exact ⟨_, make_eq_ok.mpr ⟨bottom, images, found, rendered, rfl⟩⟩

omit [OrderedArithmetic F] [ScalingArithmetic F] [SignedArithmetic F] in
/-- A sheet with shields has rows. -/
theorem height_ne_zero (made : make index shields ratio = .ok plan) (given : shields ≠ [])
    (positive : 0 < ratio) : plan.height ≠ 0 := by
  obtain ⟨shield, rest, rfl⟩ := List.exists_cons_of_ne_nil given
  obtain ⟨bottom, images, _, rendered, rfl⟩ := make_eq_ok.mp made
  cases rendered with
  | cons first others =>
      obtain ⟨kind, _, _, height⟩ := ShieldSprite.render_eq_ok first.2
      have side : 0 < kind.side := by cases kind <;> decide
      have rows := Nat.mul_pos side positive
      rw [SheetPlan.height, PlacedShield.foldl_height_stack, PlacedShield.rows]
      omega

end SheetPlan

/-- Shields can be added to a sheet if the row below all that is kept can be computed and every one
of them can be drawn. -/
theorem SpriteSheet.exists_add_iff {sheet : SpriteSheet F} {shields : List (ShieldSprite F)}
    {ratio : Nat} (given : shields ≠ []) (positive : 0 < ratio) :
    (∃ new, sheet.add shields ratio = .ok new) ↔
      (∃ bottom, (sheet.index.without (shields.map ShieldSprite.name)).contentBottom (.int ratio) =
        .ok bottom) ∧ ∀ shield ∈ shields, ∃ image, shield.render ratio = .ok image := by
  rw [exists_add_iff_plan given, ← SheetPlan.exists_make_iff]
  constructor
  · rintro ⟨plan, made, _⟩
    exact ⟨plan, made⟩
  · rintro ⟨plan, made⟩
    exact ⟨plan, made, SheetPlan.height_ne_zero made given positive⟩

namespace SpriteStore

open FileTree (Fillable)

variable [OrderedArithmetic F] [ScalingArithmetic F] [SignedArithmetic F] [WrittenArithmetic F]
  {directory : Path} {ratio : Nat} {sheet : SpriteSheet F} {before : Session}
  {shields : List (ShieldSprite F)}

def stacked : List (ShieldSprite Float) :=
  [⟨"state_highway", "shield-state", .plain "shield-state" "#202020" 8⟩,
    ⟨"interstate", "shield-interstate", .plain "shield-interstate" "#ffffff" 6⟩]

/-- The sheet to which they are added. -/
def groundSheet : SpriteSheet Float :=
  ⟨[("poi", .object [("x", 0), ("y", 0), ("width", 4), ("height", 20), ("pixelRatio", 2)])],
    some poiImage⟩

set_option maxRecDepth 4000 in
theorem holds_groundSheet : Holds (poiFiles 2) here 2 groundSheet :=
  ⟨.inr ⟨poiText, rfl, by with_unfolding_all rfl⟩, .inr ⟨poiImage, rfl, rfl⟩⟩

end SpriteStore

end MapStyle
