import Mathlib.Data.List.Nodup
import MapStyle.Proofs.Entries
import MapStyle.Proofs.Outcome
import MapStyle.Sprite.Sheet

/-!
# What a sheet becomes

A plan keeps the entries that no shield is named after and places the shields one below the other,
none of them above the row below all that is kept. From this follows what the new index and the new
image hold: the kept entries as they were, and an entry and a square for every shield. The image is
as wide as the widest of what it shows and ends where its last shield does, and it can be drawn as
soon as it has a row.
-/

namespace MapStyle

set_option autoImplicit false

section Index

variable {F : Type} [Arithmetic F]

/-! ### One shield -/

/-- The image of a shield is a square of the size of its kind. -/
theorem ShieldSprite.render_eq_ok {shield : ShieldSprite F} {ratio : Nat} {image : Image}
    (rendered : shield.render ratio = .ok image) :
    ∃ kind, ShieldKind.ofName? shield.kind = some kind ∧
      image.width = kind.side * ratio ∧ image.height = kind.side * ratio := by
  unfold ShieldSprite.render at rendered
  split at rendered
  · cases rendered
  · rename_i kind named
    obtain ⟨_, _, rest⟩ := bind_eq_ok.mp rendered
    obtain ⟨_, _, same⟩ := bind_eq_ok.mp rest
    cases same
    exact ⟨kind, named, rfl, rfl⟩

/-- An entry of a sprite that is as wide as it is high. -/
def SpriteIndex.IsSquare (side : Nat) (entry : Json F) : Prop :=
  ∃ fields, entry = .object fields ∧
    fields.lookup "width" = some (.number (.int side)) ∧
    fields.lookup "height" = some (.number (.int side))

omit [Arithmetic F] in
theorem PlacedShield.isSquare_entry {shield : PlacedShield} {side : Nat}
    (width : shield.image.width = side) (height : shield.image.height = side) (ratio : Nat) :
    SpriteIndex.IsSquare side (shield.entry ratio : Json F) := by
  refine ⟨_, rfl, ?_, ?_⟩
  · rw [← width]
    rfl
  · rw [← height]
    rfl

/-! ### Shields one below the other -/

namespace PlacedShield

variable {shield : PlacedShield} {images : List (String × Image)}

/-- The rows that images fill one below the other. -/
def rows : List (String × Image) → Nat
  | [] => 0
  | (_, image) :: rest => image.height + rows rest

/-- Every image lies below the row from which they are placed, and above the row below all. -/
theorem mem_stack {top : Nat} (member : shield ∈ stack top images) :
    (shield.name, shield.image) ∈ images ∧ top ≤ shield.top ∧
      shield.top + shield.image.height ≤ top + rows images := by
  induction images generalizing top with
  | nil => cases member
  | cons first rest ih =>
      obtain ⟨name, image⟩ := first
      obtain here | below := List.mem_cons.mp member
      · subst here
        exact ⟨List.mem_cons_self, Nat.le_refl top, by simp only [rows]; omega⟩
      · obtain ⟨inRest, start, finish⟩ := ih below
        exact ⟨List.mem_cons_of_mem _ inRest, by omega, by simp only [rows]; omega⟩

theorem foldl_height_stack (top start : Nat) (images : List (String × Image)) :
    (stack top images).foldl (fun height shield => height + shield.image.height) start =
      start + rows images := by
  induction images generalizing top start with
  | nil => rfl
  | cons image rest ih =>
      simp only [stack, List.foldl_cons, ih, rows]
      omega

end PlacedShield

/-! ### Plans -/

namespace SheetPlan

variable {index : SpriteIndex F} {shields : List (ShieldSprite F)} {ratio : Nat}
  {plan : SheetPlan F}

/-- The shields of a plan with the images that they have. -/
abbrev Rendered (ratio : Nat) (shields : List (ShieldSprite F)) (images : List (String × Image)) :
    Prop :=
  List.Forall₂ (fun shield image => image.1 = shield.name ∧ shield.render ratio = .ok image.2)
    shields images

theorem make_eq_ok : make index shields ratio = .ok plan ↔
    ∃ bottom images,
      (index.without (shields.map ShieldSprite.name)).contentBottom (.int ratio) = .ok bottom ∧
      Rendered ratio shields images ∧
      plan = ⟨index.without (shields.map ShieldSprite.name), bottom.toNat,
        PlacedShield.stack bottom.toNat images⟩ := by
  have each : ∀ (shield : ShieldSprite F) (image : String × Image),
      (do return (shield.name, ← shield.render ratio) : Result F _) = .ok image ↔
        image.1 = shield.name ∧ shield.render ratio = .ok image.2 := by
    rintro shield ⟨name, image⟩
    rw [bind_eq_ok]
    constructor
    · rintro ⟨_, rendered, same⟩
      cases same
      exact ⟨rfl, rendered⟩
    · rintro ⟨rfl, rendered⟩
      exact ⟨image, rendered, rfl⟩
  simp only [make, bind_eq_ok, mapM_eq_ok, each]
  constructor
  · rintro ⟨bottom, found, images, rendered, same⟩
    cases same
    exact ⟨bottom, images, found, rendered, rfl⟩
  · rintro ⟨bottom, images, found, rendered, rfl⟩
    exact ⟨bottom, found, images, rendered, rfl⟩

theorem Rendered.map_name {images : List (String × Image)} (rendered : Rendered ratio shields images) :
    images.map Prod.fst = shields.map ShieldSprite.name := by
  induction rendered with
  | nil => rfl
  | cons first _ ih => rw [List.map_cons, List.map_cons, first.1, ih]

theorem Rendered.exists_shield {images : List (String × Image)} {image : String × Image}
    (rendered : Rendered ratio shields images) (member : image ∈ images) :
    ∃ shield ∈ shields, image.1 = shield.name ∧ shield.render ratio = .ok image.2 :=
  exists_item_of_forall₂ rendered member

theorem Rendered.exists_image {images : List (String × Image)} {shield : ShieldSprite F}
    (rendered : Rendered ratio shields images) (member : shield ∈ shields) :
    ∃ image ∈ images, image.1 = shield.name ∧ shield.render ratio = .ok image.2 :=
  exists_result_of_forall₂ rendered member

omit [Arithmetic F] in
theorem mem_without {names : List String} {entry : String × Json F} :
    entry ∈ index.without names ↔ entry ∈ index ∧ entry.1 ∉ names := by
  simp [SpriteIndex.without, List.mem_filter]

theorem map_name_placed (made : make index shields ratio = .ok plan) :
    plan.placed.map PlacedShield.name = shields.map ShieldSprite.name := by
  obtain ⟨_, images, _, rendered, rfl⟩ := make_eq_ok.mp made
  rw [PlacedShield.map_name_stack, rendered.map_name]

theorem placed_ne_nil (made : make index shields ratio = .ok plan) (given : shields ≠ []) :
    plan.placed ≠ [] := by
  intro nothing
  have names := map_name_placed made
  rw [nothing, List.map_nil] at names
  exact given (List.map_eq_nil_iff.mp names.symm)

/-- Everything placed is one of the shields, drawn, and lies in the rows below what is kept. -/
theorem placed_shield (made : make index shields ratio = .ok plan) {placed : PlacedShield}
    (member : placed ∈ plan.placed) :
    plan.top ≤ placed.top ∧ placed.top + placed.image.height ≤ plan.height ∧
      ∃ shield ∈ shields, placed.name = shield.name ∧
        shield.render ratio = .ok placed.image := by
  obtain ⟨bottom, images, _, rendered, rfl⟩ := make_eq_ok.mp made
  obtain ⟨inImages, start, finish⟩ := PlacedShield.mem_stack member
  obtain ⟨shield, inShields, name, drawn⟩ := rendered.exists_shield inImages
  refine ⟨start, ?_, shield, inShields, name, drawn⟩
  unfold height
  rwa [PlacedShield.foldl_height_stack]

theorem top_le_height (made : make index shields ratio = .ok plan) : plan.top ≤ plan.height := by
  obtain ⟨bottom, images, _, _, rfl⟩ := make_eq_ok.mp made
  unfold height
  rw [PlacedShield.foldl_height_stack]
  exact Nat.le_add_right _ _

/-! ### The index of a plan -/

/-- An entry that no shield is named after is in the new index exactly if it was in the old one. -/
theorem mem_index_of_unnamed (made : make index shields ratio = .ok plan)
    {entry : String × Json F} (unnamed : entry.1 ∉ shields.map ShieldSprite.name) :
    entry ∈ plan.index ratio ↔ entry ∈ index := by
  have different : ∀ shield ∈ plan.placed, entry.1 ≠ shield.name := by
    intro shield member same
    apply unnamed
    rw [same, ← map_name_placed made]
    exact List.mem_map_of_mem member
  unfold SheetPlan.index
  rw [Entries.mem_foldl_put_of_ne different]
  obtain ⟨_, _, _, _, rfl⟩ := make_eq_ok.mp made
  simp [mem_without, unnamed]

/-- There is an entry for every shield. -/
theorem mem_keys_index (made : make index shields ratio = .ok plan) {shield : ShieldSprite F}
    (member : shield ∈ shields) : shield.name ∈ (plan.index ratio).map Prod.fst := by
  unfold SheetPlan.index
  rw [Entries.mem_keys_foldl_put, map_name_placed made]
  exact .inl (List.mem_map_of_mem member)

/-- If no two shields have one name, the entry of a shield tells the size of its kind. -/
theorem isSquare_of_mem_index (made : make index shields ratio = .ok plan)
    (distinct : (shields.map ShieldSprite.name).Nodup) {shield : ShieldSprite F} {kind : ShieldKind}
    (member : shield ∈ shields) (named : ShieldKind.ofName? shield.kind = some kind)
    {entry : Json F} (listed : (shield.name, entry) ∈ plan.index ratio) :
    SpriteIndex.IsSquare (kind.side * ratio) entry := by
  obtain old | ⟨placed, isPlaced, same⟩ := Entries.mem_foldl_put listed
  · obtain ⟨_, _, _, _, rfl⟩ := make_eq_ok.mp made
    exact absurd (List.mem_map_of_mem member) (mem_without.mp old).2
  · obtain ⟨_, _, other, inShields, name, drawn⟩ := placed_shield made isPlaced
    obtain ⟨sameName, rfl⟩ := Prod.mk.inj same
    have isShield : other = shield :=
      List.inj_on_of_nodup_map distinct inShields member (name.symm.trans sameName.symm)
    subst isShield
    obtain ⟨drawnKind, drawnNamed, width, height⟩ := ShieldSprite.render_eq_ok drawn
    rw [named] at drawnNamed
    cases drawnNamed
    exact PlacedShield.isSquare_entry width height ratio

end SheetPlan

/-! ### Sheets -/

theorem SpriteSheet.add_eq_ok {sheet result : SpriteSheet F} {shields : List (ShieldSprite F)}
    {ratio : Nat} : sheet.add shields ratio = .ok result ↔
      ∃ plan image, SheetPlan.make sheet.index shields ratio = .ok plan ∧
        plan.image sheet.image = .ok image ∧ result = ⟨plan.index ratio, some image⟩ := by
  simp only [SpriteSheet.add, bind_eq_ok, pure, Except.pure, Except.ok.injEq]
  constructor
  · rintro ⟨plan, made, image, drawn, rfl⟩
    exact ⟨plan, image, made, drawn, rfl⟩
  · rintro ⟨plan, image, made, drawn, rfl⟩
    exact ⟨plan, made, image, drawn, rfl⟩

end Index

/-! ### The image of a new sheet

Putting shields on an image changes nothing above them. -/

namespace SheetPlan

variable {F : Type} {plan : SheetPlan F} {old : Option Image} {image : Image}

/-- The shields of a plan, drawn on an image. -/
def drawnOn (plan : SheetPlan F) (lower : Image) : Image :=
  plan.placed.foldl (fun sheet shield => shield.image.paste shield.top sheet) lower

/-- The widths of the shields, and of the old image if there is one. -/
def widths (plan : SheetPlan F) (old : Option Image) : List Nat :=
  plan.placed.map (·.image.width) ++ ((old.map (Image.above plan.top)).map Image.width).toList

/-- What is kept of an old image, on an image of the size of the new one. -/
def lower (plan : SheetPlan F) (old : Option Image) (width : Nat) : Image :=
  ((old.map (Image.above plan.top)).map fun base =>
    base.paste 0 (Image.blank width plan.height)).getD (Image.blank width plan.height)

theorem image_eq_ok : plan.image old = .ok image ↔
    ∃ width, (plan.widths old).max? = some width ∧ plan.height ≠ 0 ∧
      image = plan.drawnOn (plan.lower old width) := by
  unfold SheetPlan.image
  dsimp only
  split
  · rename_i nothing
    rw [← widths] at nothing
    simp [nothing, refuseSprite]
  · rename_i width widest
    rw [← widths] at widest
    split
    · rename_i empty
      simp [empty, refuseSprite]
    · rename_i high
      rw [widest]
      constructor
      · rintro ⟨⟩
        exact ⟨width, rfl, high, rfl⟩
      · rintro ⟨_, ⟨⟩, _, rfl⟩
        rfl

/-- Putting shields on a sheet changes nothing of the rows above all of them. -/
theorem foldl_paste (sheet : Image) {placed : List PlacedShield} {limit : Nat}
    (below : ∀ shield ∈ placed, limit ≤ shield.top) :
    let result := placed.foldl (fun sheet shield => shield.image.paste shield.top sheet) sheet
    result.width = sheet.width ∧ result.height = sheet.height ∧
      ∀ column row, row < limit → result.pixel column row = sheet.pixel column row := by
  induction placed generalizing sheet with
  | nil => exact ⟨rfl, rfl, fun _ _ _ => rfl⟩
  | cons shield rest ih =>
      obtain ⟨first, others⟩ := List.forall_mem_cons.mp below
      obtain ⟨width, height, pixels⟩ := ih (shield.image.paste shield.top sheet) others
      refine ⟨width, height, fun column row above => (pixels column row above).trans ?_⟩
      have outside : ¬ (column < shield.image.width ∧ shield.top ≤ row ∧
          row < shield.top + shield.image.height) := by omega
      exact if_neg outside

theorem width_drawnOn (plan : SheetPlan F) (sheet : Image) : (plan.drawnOn sheet).width = sheet.width :=
  (foldl_paste sheet fun _ _ => Nat.zero_le _).1

theorem height_drawnOn (plan : SheetPlan F) (sheet : Image) :
    (plan.drawnOn sheet).height = sheet.height :=
  (foldl_paste sheet fun _ _ => Nat.zero_le _).2.1

theorem width_lower (plan : SheetPlan F) (old : Option Image) (width : Nat) :
    (plan.lower old width).width = width := by
  cases old <;> rfl

theorem height_lower (plan : SheetPlan F) (old : Option Image) (width : Nat) :
    (plan.lower old width).height = plan.height := by
  cases old <;> rfl

/-- Everything that the image of a sheet shows is at most as wide as the image. -/
theorem width_le_of_image (drawn : plan.image old = .ok image) {width : Nat}
    (shown : width ∈ plan.widths old) : width ≤ image.width := by
  obtain ⟨widest, isWidest, _, rfl⟩ := image_eq_ok.mp drawn
  rw [width_drawnOn, width_lower]
  exact (List.max?_eq_some_iff.mp isWidest).2 width shown

/-- The image of a sheet ends where its last shield does. -/
theorem height_of_image (drawn : plan.image old = .ok image) : image.height = plan.height := by
  obtain ⟨_, _, _, rfl⟩ := image_eq_ok.mp drawn
  rw [height_drawnOn, height_lower]

/-- The image of a sheet with shields can be drawn unless it has no rows. -/
theorem exists_image_iff (given : plan.placed ≠ []) (old : Option Image) :
    (∃ image, plan.image old = .ok image) ↔ plan.height ≠ 0 := by
  obtain ⟨shield, rest, isPlaced⟩ := List.exists_cons_of_ne_nil given
  obtain ⟨width, widest⟩ : ∃ width, (plan.widths old).max? = some width := by
    rw [widths, isPlaced, List.map_cons, List.cons_append, List.max?_cons]
    exact ⟨_, rfl⟩
  simp only [image_eq_ok, widest]
  constructor
  · rintro ⟨_, _, _, high, _⟩
    exact high
  · intro high
    exact ⟨_, _, rfl, high, rfl⟩

end SheetPlan

/-- Shields can be added to a sheet if they can be planned and the new sheet has a row. -/
theorem SpriteSheet.exists_add_iff_plan {F : Type} [Arithmetic F] {sheet : SpriteSheet F}
    {shields : List (ShieldSprite F)} {ratio : Nat} (given : shields ≠ []) :
    (∃ new, sheet.add shields ratio = .ok new) ↔
      ∃ plan, SheetPlan.make sheet.index shields ratio = .ok plan ∧ plan.height ≠ 0 := by
  constructor
  · rintro ⟨new, added⟩
    obtain ⟨plan, image, made, drawn, _⟩ := add_eq_ok.mp added
    have placed := SheetPlan.placed_ne_nil made given
    exact ⟨plan, made, (SheetPlan.exists_image_iff placed sheet.image).mp ⟨image, drawn⟩⟩
  · rintro ⟨plan, made, high⟩
    have placed := SheetPlan.placed_ne_nil made given
    obtain ⟨image, drawn⟩ := (SheetPlan.exists_image_iff placed sheet.image).mpr high
    exact ⟨_, add_eq_ok.mpr ⟨plan, image, made, drawn, rfl⟩⟩

end MapStyle
