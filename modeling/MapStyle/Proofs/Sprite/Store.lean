import MapStyle.Proofs.Files.Session
import MapStyle.Proofs.Sprite.Sheet
import MapStyle.Sprite.Store

/-!
# Sheets in files

What is known of a session in which shields have been added to the sheets of a directory. Each of
the sheets has become what adding the shields makes of the sheet that was there, and adding them to
one sheet leaves the files of the others as they are.
-/

namespace MapStyle.SpriteStore

set_option autoImplicit false

open FileTree (Keeps)
open Work (Ends ends_bind ends_pure ends_ofResult)

variable {F : Type} [Arithmetic F] {directory : Path} {ratio : Nat}

/-! ### File names -/

/-- The names of the files of a sheet: its image and its index. -/
def fileNames (ratio : Nat) : List String :=
  [fileName ratio ++ ".png", fileName ratio ++ ".json"]

/-- Neither name is a step up. -/
theorem ordinary_of_mem_fileNames {name : String} (member : name ∈ fileNames ratio) :
    name ≠ Path.parentName := by
  have longer : 2 < name.length := by
    obtain rfl | rfl : name = fileName ratio ++ ".png" ∨ name = fileName ratio ++ ".json" := by
      simpa [fileNames] using member
    · rw [String.length_append]
      exact Nat.lt_add_left _ (by decide)
    · rw [String.length_append]
      exact Nat.lt_add_left _ (by decide)
  rintro rfl
  exact absurd longer (by decide)

/-- Whether one of the files of a sheet lies at a location. -/
def IsSheetFile (files : FileTree) (directory : Path) (ratio : Nat) (location : Location) : Prop :=
  ∃ name ∈ fileNames ratio, files.locate (directory.child name) = .ok location

/-- The files of sheets lie apart if their names differ. -/
theorem not_isSheetFile {files : FileTree} {other : Nat}
    (apart : ∀ name ∈ fileNames ratio, name ∉ fileNames other) {location : Location}
    (isFile : IsSheetFile files directory ratio location) :
    ¬ IsSheetFile files directory other location := by
  rintro ⟨otherName, otherMember, otherLocated⟩
  obtain ⟨name, member, located⟩ := isFile
  have same := FileTree.child_injective (ordinary_of_mem_fileNames member)
    (ordinary_of_mem_fileNames otherMember) located otherLocated
  exact apart name member (same ▸ otherMember)

/-! ### Sheets that are there -/

/-- The sheet that files hold: an index and an image that are not there count as empty. -/
structure Holds (files : FileTree) (directory : Path) (ratio : Nat) (sheet : SpriteSheet F) :
    Prop where
  index : (files.at? (indexPath directory ratio) = none ∧ sheet.index = []) ∨
    ∃ text, files.read (indexPath directory ratio) = .ok (.text text) ∧
      indexOf (Text.unifiedBreaks text) = .ok sheet.index
  image : (files.at? (imagePath directory ratio) = none ∧ sheet.image = none) ∨
    ∃ image, files.read (imagePath directory ratio) = .ok (.image image) ∧
      sheet.image = some image

/-- Files hold one sheet. -/
theorem Holds.unique {files : FileTree} {sheet other : SpriteSheet F}
    (holds : Holds files directory ratio sheet) (otherHolds : Holds files directory ratio other) :
    sheet = other := by
  have absent : ∀ {path : Path} {content : FileContent}, files.at? path = none →
      files.read path = .ok content → False := by
    intro path content nothing found
    obtain ⟨location, located, isFile⟩ := FileTree.read_eq_ok.mp found
    simp [FileTree.at?, located, isFile] at nothing
  have index : sheet.index = other.index := by
    obtain ⟨nothing, empty⟩ | ⟨text, found, isIndex⟩ := holds.index
    · obtain ⟨_, otherEmpty⟩ | ⟨_, otherFound, _⟩ := otherHolds.index
      · rw [empty, otherEmpty]
      · exact (absent nothing otherFound).elim
    · obtain ⟨nothing, _⟩ | ⟨_, otherFound, isOther⟩ := otherHolds.index
      · exact (absent nothing found).elim
      · cases found.symm.trans otherFound
        exact Except.ok.inj (isIndex.symm.trans isOther)
  have image : sheet.image = other.image := by
    obtain ⟨nothing, empty⟩ | ⟨_, found, isImage⟩ := holds.image
    · obtain ⟨_, otherEmpty⟩ | ⟨_, otherFound, _⟩ := otherHolds.image
      · rw [empty, otherEmpty]
      · exact (absent nothing otherFound).elim
    · obtain ⟨nothing, _⟩ | ⟨_, otherFound, isOther⟩ := otherHolds.image
      · exact (absent nothing found).elim
      · cases found.symm.trans otherFound
        rw [isImage, isOther]
  cases sheet
  cases other
  cases index
  cases image
  rfl

/-- The files hold a sheet as it is written. -/
structure Stored (files : FileTree) (directory : Path) (ratio : Nat) (sheet : SpriteSheet F) :
    Prop where
  index : files.read (indexPath directory ratio) =
    .ok (.text ((Json.object sheet.index).indented 0))
  image : ∃ image, sheet.image = some image ∧
    files.read (imagePath directory ratio) = .ok (.image image)

variable {before after : Session}

theorem ends_readIndex {path : Path} {index : SpriteIndex F}
    (ended : (readIndex path).Ends before index after) :
    after = before ∧
      ((before.files.at? path = none ∧ index = []) ∨
        ∃ text, before.files.read path = .ok (.text text) ∧
          indexOf (Text.unifiedBreaks text) = .ok index) := by
  obtain ⟨absent, empty, same⟩ | reading := Work.ends_ifThere ended
  · exact ⟨same, .inl ⟨absent, empty⟩⟩
  · obtain ⟨text, _, readText, understood⟩ := ends_bind.mp reading
    obtain ⟨written, found, rfl, rfl⟩ := Work.ends_readText.mp readText
    obtain ⟨isIndex, rfl⟩ := ends_ofResult.mp understood
    exact ⟨rfl, .inr ⟨written, found, isIndex⟩⟩

omit [Arithmetic F] in
theorem ends_readImage {path : Path} {image : Option Image}
    (ended : (readImage path : Work F (Option Image)).Ends before image after) :
    after = before ∧
      ((before.files.at? path = none ∧ image = none) ∨
        ∃ found, before.files.read path = .ok (.image found) ∧ image = some found) := by
  obtain ⟨absent, empty, same⟩ | reading := Work.ends_ifThere ended
  · exact ⟨same, .inl ⟨absent, empty⟩⟩
  · obtain ⟨found, _, readImage, returned⟩ := ends_bind.mp reading
    obtain ⟨isFile, rfl⟩ := Work.ends_readImage.mp readImage
    obtain ⟨rfl, rfl⟩ := ends_pure.mp returned
    exact ⟨rfl, .inr ⟨found, isFile, rfl⟩⟩

/-! ### Shields are added -/

/-- Everything up to the first file that is written: the plan and the image of the new sheet. -/
def prepare (directory : Path) (shields : List (ShieldSprite F)) (ratio : Nat) (verbose : Bool) :
    Work F (SheetPlan F × Image) := do
  let old ← readIndex (indexPath directory ratio)
  Work.sayAll (if verbose then
    (old.replaced (shields.map ShieldSprite.name)).map removalLine else [])
  let plan ← Work.ofResult (SheetPlan.make old shields ratio)
  let image ← Work.ofResult (plan.image (← readImage (imagePath directory ratio)))
  Work.sayAll (if verbose then plan.placed.map additionLine else [])
  return (plan, image)

/-- The two files of a sheet are written, into a directory that is made if need be. -/
def finish (directory : Path) (ratio : Nat) (prepared : SheetPlan F × Image) :
    Work F (List Path) := do
  Work.ensureDirectory directory
  Work.write (imagePath directory ratio) (.image prepared.2)
  Work.write (indexPath directory ratio)
    (.text ((Json.object (prepared.1.index ratio)).indented 0))
  return [imagePath directory ratio, indexPath directory ratio]

theorem addShields_eq (directory : Path) (shields : List (ShieldSprite F)) (ratio : Nat)
    (verbose : Bool) : addShields directory shields ratio verbose =
      prepare directory shields ratio verbose >>= finish directory ratio := by
  cases verbose <;>
    simp only [addShields, prepare, finish, bind_assoc, pure_bind] <;> rfl

/-- What is prepared is the sheet that the files hold with the shields added. -/
theorem ends_prepare {shields : List (ShieldSprite F)} {verbose : Bool}
    {prepared : SheetPlan F × Image}
    (ended : (prepare directory shields ratio verbose).Ends before prepared after) :
    after.files = before.files ∧ ∃ old, Holds before.files directory ratio old ∧
      SheetPlan.make old.index shields ratio = .ok prepared.1 ∧
      prepared.1.image old.image = .ok prepared.2 := by
  obtain ⟨index, _, indexRead, removing⟩ := ends_bind.mp ended
  obtain ⟨rfl, holdsIndex⟩ := ends_readIndex indexRead
  obtain ⟨_, _, removals, planning⟩ := ends_bind.mp removing
  obtain ⟨plan, _, planned, reading⟩ := ends_bind.mp planning
  obtain ⟨made, rfl⟩ := ends_ofResult.mp planned
  obtain ⟨oldImage, _, imageRead, composing⟩ := ends_bind.mp reading
  obtain ⟨rfl, holdsImage⟩ := ends_readImage imageRead
  obtain ⟨image, _, composed, adding⟩ := ends_bind.mp composing
  obtain ⟨isImage, rfl⟩ := ends_ofResult.mp composed
  obtain ⟨_, _, additions, returning⟩ := ends_bind.mp adding
  obtain ⟨rfl, rfl⟩ := ends_pure.mp returning
  rw [Work.files_of_sayAll removals] at holdsImage
  exact ⟨(Work.files_of_sayAll additions).trans (Work.files_of_sayAll removals),
    ⟨index, oldImage⟩, ⟨holdsIndex, holdsImage⟩, made, isImage⟩

/-- What has been prepared is stored, and no other file is touched. -/
theorem ends_finish {prepared : SheetPlan F × Image} {written : List Path}
    (ended : (finish directory ratio prepared).Ends before written after) :
    Stored after.files directory ratio ⟨prepared.1.index ratio, some prepared.2⟩ ∧
      Keeps (IsSheetFile after.files directory ratio) before.files after.files := by
  obtain ⟨_, made, ensured, writingImage⟩ := ends_bind.mp ended
  obtain ⟨_, drawn, imageWritten, writingIndex⟩ := ends_bind.mp writingImage
  obtain ⟨_, _, indexWritten, returning⟩ := ends_bind.mp writingIndex
  obtain ⟨rfl, rfl⟩ := ends_pure.mp returning
  obtain ⟨withImage, imageWrite, rfl⟩ := Work.ends_write.mp imageWritten
  obtain ⟨withIndex, indexWrite, rfl⟩ := Work.ends_write.mp indexWritten
  have madeKeeps := Work.keepsAll_of_ensureDirectory ensured
  have imageKeeps := FileTree.keeps_write imageWrite
  have indexKeeps := FileTree.keeps_write indexWrite
  have imageName : fileName ratio ++ ".png" ∈ fileNames ratio := List.mem_cons_self
  have indexName : fileName ratio ++ ".json" ∈ fileNames ratio :=
    List.mem_cons_of_mem _ List.mem_cons_self
  have apart : ∀ location, withIndex.locate (imagePath directory ratio) = .ok location →
      ¬ withIndex.locate (indexPath directory ratio) = .ok location := by
    intro location imageLocated indexLocated
    have same := FileTree.child_injective (ordinary_of_mem_fileNames imageName)
      (ordinary_of_mem_fileNames indexName) imageLocated indexLocated
    have lengths := congrArg String.length same
    rw [String.length_append, String.length_append] at lengths
    change _ + 4 = _ + 5 at lengths
    omega
  constructor
  · exact ⟨FileTree.read_write indexWrite, prepared.2, rfl,
      indexKeeps.read apart (FileTree.read_write imageWrite)⟩
  · apply (madeKeeps.mono fun _ impossible => impossible.elim).trans
    apply Keeps.trans
    · apply imageKeeps.mono
      intro location located
      exact ⟨_, imageName, indexKeeps.locate located⟩
    · exact indexKeeps.mono fun location located => ⟨_, indexName, located⟩

/-- Adding shields to the sheet of a directory makes of it what adding them to the sheet itself
makes, and touches no other file. -/
theorem ends_addShields {shields : List (ShieldSprite F)} {verbose : Bool} {written : List Path}
    (ended : (addShields directory shields ratio verbose).Ends before written after) :
    ∃ old new, Holds before.files directory ratio old ∧ old.add shields ratio = .ok new ∧
      Stored after.files directory ratio new ∧
      Keeps (IsSheetFile after.files directory ratio) before.files after.files := by
  rw [addShields_eq] at ended
  obtain ⟨prepared, between, preparing, finishing⟩ := ends_bind.mp ended
  obtain ⟨unchanged, old, holds, made, drawn⟩ := ends_prepare preparing
  obtain ⟨stored, keeps⟩ := ends_finish finishing
  rw [unchanged] at keeps
  exact ⟨old, _, holds, SpriteSheet.add_eq_ok.mpr ⟨prepared.1, prepared.2, made, drawn, rfl⟩,
    stored, keeps⟩

/-! ### The sheets of a theme -/

/-- A sheet whose files have not been changed is still stored. -/
theorem Stored.keep {files changedFiles : FileTree} {sheet : SpriteSheet F}
    {changed : Location → Prop} (stored : Stored files directory ratio sheet)
    (keeps : Keeps changed files changedFiles)
    (unchanged : ∀ location, IsSheetFile changedFiles directory ratio location →
      ¬ changed location) :
    Stored changedFiles directory ratio sheet := by
  obtain ⟨image, isImage, imageStored⟩ := stored.image
  constructor
  · apply keeps.read _ stored.index
    intro location located
    exact unchanged location ⟨_, List.mem_cons_of_mem _ List.mem_cons_self, located⟩
  · refine ⟨image, isImage, keeps.read ?_ imageStored⟩
    intro location located
    exact unchanged location ⟨_, List.mem_cons_self, located⟩

/-- Adding shields to several sheets leaves each of them stored: the later ones do not touch it. -/
theorem ends_addToAll {shields : List (ShieldSprite F)} {verbose : Bool} {given : List Nat}
    {lines : Nat → List String} {written : List (List Path)}
    (apart : given.Pairwise fun ratio other => ∀ name ∈ fileNames ratio, name ∉ fileNames other)
    (ended : Work.Ends (given.mapM fun ratio => do
      Work.sayAll (lines ratio)
      addShields directory shields ratio verbose) before written after) :
    (∀ ratio ∈ given, ∃ old new : SpriteSheet F, old.add shields ratio = .ok new ∧
      Stored after.files directory ratio new) ∧
    Keeps (fun location => ∃ ratio ∈ given, IsSheetFile after.files directory ratio location)
      before.files after.files := by
  induction given generalizing before written with
  | nil =>
      obtain ⟨_, rfl⟩ := ends_pure.mp ended
      exact ⟨by simp, .refl _⟩
  | cons ratio rest ih =>
      rw [List.mapM_cons] at ended
      obtain ⟨apartFirst, apartRest⟩ := List.pairwise_cons.mp apart
      obtain ⟨_, between, adding, following⟩ := ends_bind.mp ended
      obtain ⟨_, _, told, added⟩ := ends_bind.mp adding
      obtain ⟨_, _, others, returning⟩ := ends_bind.mp following
      obtain ⟨_, rfl⟩ := ends_pure.mp returning
      obtain ⟨old, new, _, isNew, stored, firstKeeps⟩ := ends_addShields added
      obtain ⟨restStored, restKeeps⟩ := ih apartRest others
      rw [Work.files_of_sayAll told] at firstKeeps
      constructor
      · refine List.forall_mem_cons.mpr ⟨⟨old, new, isNew, ?_⟩, restStored⟩
        apply stored.keep restKeeps
        rintro location isFile ⟨other, inRest, isOther⟩
        exact not_isSheetFile (apartFirst other inRest) isFile isOther
      · apply Keeps.trans
        · apply firstKeeps.mono
          rintro location ⟨name, member, located⟩
          exact ⟨ratio, List.mem_cons_self, name, member, restKeeps.locate located⟩
        · apply restKeeps.mono
          rintro location ⟨other, inRest, isOther⟩
          exact ⟨other, List.mem_cons_of_mem _ inRest, isOther⟩

/-- When the shields of a theme have been added, there is a sheet with them for every ratio. -/
theorem ends_addTheme {theme : Theme F} {verbose : Bool} {written : List Path}
    (ended : (addTheme theme directory verbose).Ends before written after) :
    ∃ shields, theme.shieldSprites = .ok shields ∧
      ∀ ratio ∈ ratios, ∃ old new : SpriteSheet F, old.add shields ratio = .ok new ∧
        Stored after.files directory ratio new := by
  obtain ⟨shields, _, listed, adding⟩ := ends_bind.mp ended
  obtain ⟨found, rfl⟩ := ends_ofResult.mp listed
  obtain ⟨_, _, added, returning⟩ := ends_bind.mp adding
  obtain ⟨_, rfl⟩ := ends_pure.mp returning
  have apart : ratios.Pairwise fun ratio other =>
      ∀ name ∈ fileNames ratio, name ∉ fileNames other := by decide
  exact ⟨shields, found, (ends_addToAll apart added).1⟩

end MapStyle.SpriteStore
