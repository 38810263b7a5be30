import MapStyle.Proofs.Json.Real
import MapStyle.Proofs.Sprite.Held
import MapStyle.Proofs.Sprite.Kept

/-!
# Shields that are added again

Of a sheet to which shields have been added, everything is kept but these shields. Shields of the same
names, however they are ordered and drawn, are placed where they would have been placed without the
first ones. So adding them replaces the first ones, and adding the same shields any number of times
is adding them once.
-/

namespace MapStyle

set_option autoImplicit false

variable {F : Type} [Arithmetic F]

/-! ### Entries that are taken out again -/

namespace SpriteIndex

variable {names others : List String} {index : SpriteIndex F}

omit [Arithmetic F] in
theorem without_congr (same : ∀ name, name ∈ names ↔ name ∈ others) (index : SpriteIndex F) :
    index.without names = index.without others := by
  apply List.filter_congr
  intro entry _
  simp [same]

omit [Arithmetic F] in
theorem without_without (names : List String) (index : SpriteIndex F) :
    (index.without names).without names = index.without names := by
  simp [without]

omit [Arithmetic F] in
/-- An entry that is taken out again might as well not have been put. -/
theorem without_put {name : String} (taken : name ∈ names) (entry : Json F) (index : SpriteIndex F) :
    SpriteIndex.without names (Entries.put name entry index) = index.without names := by
  induction index with
  | nil => simp [Entries.put, without, taken]
  | cons first rest ih =>
      obtain ⟨other, old⟩ := first
      rw [Entries.put]
      split
      · rename_i same
        rw [← beq_iff_eq.mp same]
        simp [without, taken]
      · simp only [without, List.filter_cons] at ih ⊢
        rw [ih]

end SpriteIndex

namespace SheetPlan

variable {index : SpriteIndex F} {shields others : List (ShieldSprite F)} {ratio : Nat}
  {plan : SheetPlan F} {old : Option Image} {image : Image}

/-- What is placed is placed below what is kept. -/
theorem make_congr {other : SpriteIndex F}
    (same : index.without (shields.map ShieldSprite.name) =
      other.without (shields.map ShieldSprite.name)) :
    make index shields ratio = make other shields ratio := by
  unfold make
  rw [same]

/-- Without its shields, the new index is the old one without them. -/
theorem without_index (made : make index shields ratio = .ok plan) :
    (plan.index ratio).without (shields.map ShieldSprite.name) =
      index.without (shields.map ShieldSprite.name) := by
  have taken : ∀ shield ∈ plan.placed, shield.name ∈ shields.map ShieldSprite.name := by
    intro shield member
    rw [← map_name_placed made]
    exact List.mem_map_of_mem member
  have removed (placed : List PlacedShield) (entries : SpriteIndex F)
      (taken : ∀ shield ∈ placed, shield.name ∈ shields.map ShieldSprite.name) :
      SpriteIndex.without (shields.map ShieldSprite.name)
        (placed.foldl (fun entries shield => Entries.put shield.name (shield.entry ratio) entries)
          entries) = entries.without (shields.map ShieldSprite.name) := by
    induction placed generalizing entries with
    | nil => rfl
    | cons shield rest ih =>
        obtain ⟨first, restTaken⟩ := List.forall_mem_cons.mp taken
        rw [List.foldl_cons, ih _ restTaken, SpriteIndex.without_put first]
  obtain ⟨_, _, _, _, isPlan⟩ := make_eq_ok.mp made
  have kept : plan.kept = index.without (shields.map ShieldSprite.name) := by rw [isPlan]
  rw [SheetPlan.index, removed _ _ taken, kept, SpriteIndex.without_without]

/-- Shields of the same names are placed alike on the old sheet and on the new one. -/
theorem make_index (made : make index shields ratio = .ok plan)
    (same : ∀ name, name ∈ shields.map ShieldSprite.name ↔ name ∈ others.map ShieldSprite.name) :
    make (plan.index ratio) others ratio = make index others ratio := by
  apply make_congr
  rw [← SpriteIndex.without_congr same, ← SpriteIndex.without_congr same, without_index made]

end SheetPlan

namespace SpriteSheet

variable {old between again once : SpriteSheet F} {first second : List (ShieldSprite F)} {ratio : Nat}
  (added : old.add first ratio = .ok between)
  (same : ∀ name, name ∈ first.map ShieldSprite.name ↔ name ∈ second.map ShieldSprite.name)

/-- The number of rows of the image. -/
def height? (sheet : SpriteSheet F) : Option Nat :=
  sheet.image.map Image.height

include added same

/-- Adding shields to a sheet that already has shields of their names gives the index and the height
that adding them to the sheet without these shields gives. -/
theorem add_again_agrees (addedAgain : between.add second ratio = .ok again)
    (addedOnce : old.add second ratio = .ok once) :
    once.index = again.index ∧ once.height? = again.height? := by
  obtain ⟨plan, image, made, _, rfl⟩ := add_eq_ok.mp added
  obtain ⟨againPlan, againImage, againMade, againDrawn, rfl⟩ := add_eq_ok.mp addedAgain
  obtain ⟨oncePlan, onceImage, onceMade, onceDrawn, rfl⟩ := add_eq_ok.mp addedOnce
  rw [SheetPlan.make_index made same, onceMade] at againMade
  cases againMade
  refine ⟨rfl, congrArg some ?_⟩
  exact (SheetPlan.height_of_image onceDrawn).trans (SheetPlan.height_of_image againDrawn).symm

/-- And they can be added to the one exactly if they can be added to the other. -/
theorem exists_add_again_iff (given : second ≠ []) :
    (∃ again, between.add second ratio = .ok again) ↔ ∃ once, old.add second ratio = .ok once := by
  obtain ⟨plan, image, made, _, rfl⟩ := add_eq_ok.mp added
  rw [exists_add_iff_plan given, exists_add_iff_plan given, SheetPlan.make_index made same]

end SpriteSheet

/-! ### Runs one after the other -/

namespace SpriteStore

open Work (ends_bind ends_pure)

variable [WrittenArithmetic F] {directory : Path} {ratio : Nat} {before between after : Session}

/-- Two directories hold sheets with one index, entry for entry, and as many rows in their images. -/
def Agree (F : Type) [Arithmetic F] (directory : Path) (ratio : Nat) (files other : FileTree) : Prop :=
  ∃ (index : SpriteIndex F) (image otherImage : Image),
    Holds files directory ratio ⟨index, some image⟩ ∧
    Holds other directory ratio ⟨index, some otherImage⟩ ∧ image.height = otherImage.height

omit [WrittenArithmetic F] in
theorem Agree.trans {files other last : FileTree} (first : Agree F directory ratio files other)
    (second : Agree F directory ratio other last) : Agree F directory ratio files last := by
  obtain ⟨index, image, middle, holds, holdsMiddle, height⟩ := first
  obtain ⟨_, _, lastImage, alsoMiddle, holdsLast, lastHeight⟩ := second
  cases holdsMiddle.unique alsoMiddle
  exact ⟨index, image, lastImage, holds, holdsLast, height.trans lastHeight⟩

section Second

variable {first second : List (ShieldSprite F)} {verbose loud : Bool} {written : List Path}
  (ran : (addShields directory first ratio verbose).Ends before written between)
  (same : ∀ name, name ∈ first.map ShieldSprite.name ↔ name ∈ second.map ShieldSprite.name)

include ran same

/-- Shields of the same names that are added later leave what they would have left at once. -/
theorem agree_of_again {once : Session} {writtenOnce writtenAgain : List Path}
    (ranOnce : (addShields directory second ratio loud).Ends before writtenOnce once)
    (ranAgain : (addShields directory second ratio loud).Ends between writtenAgain after) :
    Agree F directory ratio once.files after.files := by
  obtain ⟨old, index, image, holds, added, _, holdsBetween⟩ := holds_of_addShields ran
  obtain ⟨_, onceIndex, onceImage, alsoHolds, addedOnce, _, holdsOnce⟩ := holds_of_addShields ranOnce
  obtain ⟨_, againIndex, againImage, alsoBetween, addedAgain, _, holdsAgain⟩ :=
    holds_of_addShields ranAgain
  cases alsoHolds.unique holds
  cases alsoBetween.unique holdsBetween
  obtain ⟨isIndex, isHeight⟩ := SpriteSheet.add_again_agrees added same addedAgain addedOnce
  cases isIndex
  exact ⟨_, _, _, holdsOnce, holdsAgain, Option.some_inj.mp isHeight⟩

/-- Shields of the same names can be added later exactly if they could have been added at once. -/
theorem exists_again_iff (given : second ≠ []) :
    (∃ written after, (addShields directory second ratio loud).Ends between written after) ↔
      ∃ written once, (addShields directory second ratio loud).Ends before written once := by
  obtain ⟨old, index, image, holds, added, stored, holdsBetween⟩ := holds_of_addShields ran
  rw [exists_addShields_iff holdsBetween, exists_addShields_iff holds,
    SpriteSheet.exists_add_again_iff added same given]
  exact and_congr_left fun _ => iff_of_true stored.ready.fillable (fillable_of_addShields ran)

end Second

/-- Adds the same shields one time after the other. -/
def addRepeatedly (directory : Path) (shields : List (ShieldSprite F)) (ratio : Nat)
    (verbose : Bool) : Nat → Work F Unit
  | 0 => pure ()
  | count + 1 => do
      addRepeatedly directory shields ratio verbose count
      let _ ← addShields directory shields ratio verbose

/-- One more run with the same shields leaves what the last one has left. -/
theorem exists_addShields_again {shields : List (ShieldSprite F)} {verbose : Bool}
    {written : List Path} (given : shields ≠ [])
    (ran : (addShields directory shields ratio verbose).Ends before written between) :
    ∃ written after, (addShields directory shields ratio verbose).Ends between written after ∧
      Agree F directory ratio between.files after.files := by
  obtain ⟨writtenAgain, after, ranAgain⟩ :=
    (exists_again_iff ran (fun _ => Iff.rfl) given).mpr ⟨written, between, ran⟩
  exact ⟨writtenAgain, after, ranAgain, agree_of_again ran (fun _ => Iff.rfl) ran ranAgain⟩

/-- So do any number of runs after the first one. -/
theorem exists_addRepeatedly {shields : List (ShieldSprite F)} {verbose : Bool}
    {written : List Path} (given : shields ≠ [])
    (ran : (addShields directory shields ratio verbose).Ends before written between) (count : Nat) :
    ∃ last, (addRepeatedly directory shields ratio verbose (count + 1)).Ends before () last ∧
      Agree F directory ratio between.files last.files ∧
      ∃ start written, (addShields directory shields ratio verbose).Ends start written last := by
  induction count with
  | zero =>
      obtain ⟨_, index, image, _, _, _, holds⟩ := holds_of_addShields ran
      have once : (addRepeatedly directory shields ratio verbose 1).Ends before () between :=
        ends_bind.mpr ⟨(), before, ends_pure.mpr ⟨rfl, rfl⟩,
          ends_bind.mpr ⟨written, between, ran, ends_pure.mpr ⟨rfl, rfl⟩⟩⟩
      exact ⟨between, once, ⟨index, image, image, holds, holds, rfl⟩, before, written, ran⟩
  | succ count ih =>
      obtain ⟨last, repeated, agree, start, lastWritten, lastRan⟩ := ih
      obtain ⟨nextWritten, next, nextRan, nextAgree⟩ := exists_addShields_again given lastRan
      refine ⟨next, ?_, agree.trans nextAgree, last, nextWritten, nextRan⟩
      exact ends_bind.mpr ⟨(), last, repeated,
        ends_bind.mpr ⟨nextWritten, next, nextRan, ends_pure.mpr ⟨rfl, rfl⟩⟩⟩

def numbered : List (ShieldSprite Float) :=
  [⟨"interstate", "shield-one", .plain "shield-one" "#ffffff" 6⟩,
    ⟨"us_highway", "shield-two", .plain "shield-two" "#ffffff" 7⟩]

/-- Shields of the same names in another order and of other kinds. -/
def renumbered : List (ShieldSprite Float) :=
  [⟨"state_highway", "shield-two", .plain "shield-two" "#202020" 8⟩,
    ⟨"us_highway", "shield-one", .plain "shield-one" "#ffffff" 6⟩]

end SpriteStore

end MapStyle
