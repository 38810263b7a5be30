import MapStyle.Proofs.Files.Ready
import MapStyle.Proofs.Json.Read
import MapStyle.Proofs.Sprite.Store

/-!
# Sheets that are read back

The index of a sheet gives no name twice, since it has been read or made by replacing entries. So the
sheet that has been written is the one that is read the next time. Adding shields ends exactly if they
can be added to the sheet that is there and its files can be written.
-/

namespace MapStyle.SpriteStore

set_option autoImplicit false

open FileTree (Fillable Ready)
open Json (WellKeyed)
open Work (ends_bind ends_pure ends_ofResult)

variable {F : Type} [Arithmetic F] {directory : Path} {ratio : Nat} {files : FileTree}
  {sheet : SpriteSheet F} {shields : List (ShieldSprite F)} {plan : SheetPlan F}

/-! ### Indexes without a name given twice -/

theorem Holds.wellKeyed (holds : Holds files directory ratio sheet) :
    WellKeyed (.object sheet.index) := by
  obtain ⟨_, empty⟩ | ⟨text, _, isIndex⟩ := holds.index
  · rw [empty]
    exact .object List.nodup_nil (by simp)
  · unfold indexOf at isIndex
    split at isIndex
    · cases isIndex
    · rename_i found
      cases isIndex
      exact Json.wellKeyed_of_read found
    · cases isIndex

omit [Arithmetic F] in
theorem wellKeyed_entry (shield : PlacedShield) (ratio : Nat) :
    WellKeyed (shield.entry ratio : Json F) := by
  apply WellKeyed.object
  · show ["width", "height", "x", "y", "pixelRatio"].Nodup
    decide
  · simp only [List.forall_mem_cons, List.not_mem_nil, false_implies, implies_true, and_true]
    exact ⟨.number _, .number _, .number _, .number _, .number _⟩

theorem wellKeyed_index {index : SpriteIndex F} (wellKeyed : WellKeyed (.object index))
    (made : SheetPlan.make index shields ratio = .ok plan) :
    WellKeyed (.object (plan.index ratio)) := by
  obtain ⟨_, _, _, _, rfl⟩ := SheetPlan.make_eq_ok.mp made
  cases wellKeyed with
  | object distinct each =>
      have kept : ((index.without (shields.map ShieldSprite.name)).map Prod.fst).Nodup :=
        distinct.sublist (List.filter_sublist.map Prod.fst)
      apply WellKeyed.object (Entries.nodup_keys_foldl_put kept)
      intro entry member
      obtain old | ⟨shield, _, rfl⟩ := Entries.mem_foldl_put member
      · exact each entry (SheetPlan.mem_without.mp old).1
      · exact wellKeyed_entry shield ratio

/-- The sheet that is written is the sheet that is read. -/
theorem Stored.holds [WrittenArithmetic F] (stored : Stored files directory ratio sheet)
    (wellKeyed : WellKeyed (.object sheet.index)) : Holds files directory ratio sheet := by
  constructor
  · refine .inr ⟨_, stored.index, ?_⟩
    rw [Json.unifiedBreaks_indented, indexOf, Json.read_indented wellKeyed]
  · obtain ⟨image, isImage, found⟩ := stored.image
    exact .inr ⟨image, found, isImage⟩

variable {before after : Session} {verbose : Bool} {written : List Path}

/-- Adding shields turns the sheet that the files hold into another one that they hold. -/
theorem holds_of_addShields [WrittenArithmetic F]
    (ended : (addShields directory shields ratio verbose).Ends before written after) :
    ∃ old index image, Holds before.files directory ratio old ∧
      old.add shields ratio = .ok ⟨index, some image⟩ ∧
      Stored after.files directory ratio ⟨index, some image⟩ ∧
      Holds after.files directory ratio ⟨index, some image⟩ := by
  obtain ⟨old, new, isOld, added, stored, _⟩ := ends_addShields ended
  obtain ⟨plan, image, made, _, rfl⟩ := SpriteSheet.add_eq_ok.mp added
  exact ⟨old, _, image, isOld, added, stored,
    stored.holds (wellKeyed_index isOld.wellKeyed made)⟩

/-! ### Shields that can be added -/

theorem mem_fileNames_image : fileName ratio ++ ".png" ∈ fileNames ratio :=
  List.mem_cons_self

theorem mem_fileNames_index : fileName ratio ++ ".json" ∈ fileNames ratio :=
  List.mem_cons_of_mem _ List.mem_cons_self

/-- Where a sheet is stored, another one can be written. -/
theorem Stored.ready (stored : Stored files directory ratio sheet) :
    Ready files directory (fileNames ratio) := by
  obtain ⟨image, _, imageFound⟩ := stored.image
  obtain ⟨location, located, isImage⟩ := FileTree.read_eq_ok.mp imageFound
  obtain ⟨indexLocation, indexLocated, isIndex⟩ := FileTree.read_eq_ok.mp stored.index
  obtain ⟨within, found, isDirectory, short, rfl⟩ :=
    (FileTree.locate_child (ordinary_of_mem_fileNames mem_fileNames_image)).mp located
  obtain ⟨other, otherFound, _, otherShort, rfl⟩ :=
    (FileTree.locate_child (ordinary_of_mem_fileNames mem_fileNames_index)).mp indexLocated
  cases found.symm.trans otherFound
  refine ⟨within, found, isDirectory, ?_⟩
  simp only [fileNames, List.forall_mem_cons, List.not_mem_nil, false_implies, implies_true,
    and_true]
  refine ⟨⟨ordinary_of_mem_fileNames mem_fileNames_image, short, ?_⟩,
    ⟨ordinary_of_mem_fileNames mem_fileNames_index, otherShort, ?_⟩⟩
  · rw [FileTree.isDirectoryAt, isImage]
  · rw [FileTree.isDirectoryAt, isIndex]

/-- Once a directory has been made for the files of a sheet, they can be written again. -/
theorem fillable_of_finish {prepared : SheetPlan F × Image}
    (ended : (finish directory ratio prepared).Ends before written after) :
    Fillable before.files directory (fileNames ratio) := by
  obtain ⟨stored, _⟩ := ends_finish ended
  obtain ⟨_, ensured, ensures, writingImage⟩ := ends_bind.mp ended
  obtain ⟨_, drawn, imageWritten, writingIndex⟩ := ends_bind.mp writingImage
  obtain ⟨_, _, indexWritten, returning⟩ := ends_bind.mp writingIndex
  obtain ⟨_, rfl⟩ := ends_pure.mp returning
  obtain ⟨withImage, imageWrite, rfl⟩ := Work.ends_write.mp imageWritten
  obtain ⟨withIndex, indexWrite, rfl⟩ := Work.ends_write.mp indexWritten
  obtain ⟨location, located, _⟩ := FileTree.write_eq_ok.mp imageWrite
  obtain ⟨within, found, isDirectory, _⟩ :=
    (FileTree.locate_child (ordinary_of_mem_fileNames mem_fileNames_image)).mp located
  obtain ⟨other, otherFound, _, free⟩ := stored.ready
  have imageKeeps := FileTree.keeps_write imageWrite
  have indexKeeps := FileTree.keeps_write indexWrite
  cases (indexKeeps.locate (imageKeeps.locate found)).symm.trans otherFound
  refine ⟨ensured.files, (Work.ends_ensureDirectory.mp ensures).1, within, found, isDirectory, ?_⟩
  intro name member
  obtain ⟨ordinary, short, noDirectory⟩ := free name member
  refine ⟨ordinary, short, ?_⟩
  -- A directory would still be there after the files have been written.
  cases isThere : ensured.files.isDirectoryAt (within ++ [name]) with
  | false => rfl
  | true =>
      have still := indexKeeps.directories _ (imageKeeps.directories _ isThere)
      exact absurd (noDirectory.symm.trans still) Bool.false_ne_true

theorem fillable_of_addShields
    (ended : (addShields directory shields ratio verbose).Ends before written after) :
    Fillable before.files directory (fileNames ratio) := by
  rw [addShields_eq] at ended
  obtain ⟨_, between, preparing, finishing⟩ := ends_bind.mp ended
  rw [← (ends_prepare preparing).1]
  exact fillable_of_finish finishing

theorem ends_readIndex_of_fillable (fillable : Fillable before.files directory (fileNames ratio))
    (holds : Holds before.files directory ratio sheet) :
    (readIndex (indexPath directory ratio)).Ends before sheet.index before := by
  have short : before.files.locate (indexPath directory ratio) ≠ .error .nameTooLong :=
    fillable.locate_ne mem_fileNames_index
  refine ends_bind.mpr ⟨_, _, Work.ends_isThere_of_locate_ne short, ?_⟩
  obtain ⟨nothing, empty⟩ | ⟨text, found, isIndex⟩ := holds.index
  · rw [nothing, empty]
    rfl
  · rw [FileTree.at?_of_read found, Option.isSome_some, if_pos rfl]
    exact ends_bind.mpr ⟨_, _, Work.ends_readText.mpr ⟨text, found, rfl, rfl⟩,
      ends_ofResult.mpr ⟨isIndex, rfl⟩⟩

theorem ends_readImage_of_fillable (fillable : Fillable before.files directory (fileNames ratio))
    (holds : Holds before.files directory ratio sheet) :
    (readImage (imagePath directory ratio) : Work F (Option Image)).Ends before sheet.image before := by
  have short : before.files.locate (imagePath directory ratio) ≠ .error .nameTooLong :=
    fillable.locate_ne mem_fileNames_image
  refine ends_bind.mpr ⟨_, _, Work.ends_isThere_of_locate_ne short, ?_⟩
  obtain ⟨nothing, empty⟩ | ⟨image, found, isImage⟩ := holds.image
  · rw [nothing, empty]
    rfl
  · rw [FileTree.at?_of_read found, Option.isSome_some, if_pos rfl, isImage]
    exact ends_bind.mpr ⟨_, _, Work.ends_readImage.mpr ⟨found, rfl⟩, ends_pure.mpr ⟨rfl, rfl⟩⟩

/-- The sheet that the files hold can be prepared if the shields can be added to it. -/
theorem exists_prepare (fillable : Fillable before.files directory (fileNames ratio))
    (holds : Holds before.files directory ratio sheet) {image : Image}
    (made : SheetPlan.make sheet.index shields ratio = .ok plan)
    (drawn : plan.image sheet.image = .ok image) (verbose : Bool) :
    ∃ after, (prepare directory shields ratio verbose).Ends before (plan, image) after ∧
      after.files = before.files := by
  obtain ⟨told, removals⟩ := Work.ends_sayAll (F := F) (if verbose then
    (sheet.index.replaced (shields.map ShieldSprite.name)).map removalLine else []) before
  obtain ⟨after, additions⟩ := Work.ends_sayAll (F := F)
    (if verbose then plan.placed.map additionLine else []) told
  have toldFiles := Work.files_of_sayAll removals
  refine ⟨after, ?_, (Work.files_of_sayAll additions).trans toldFiles⟩
  refine ends_bind.mpr ⟨_, _, ends_readIndex_of_fillable fillable holds, ?_⟩
  refine ends_bind.mpr ⟨_, _, removals, ?_⟩
  refine ends_bind.mpr ⟨_, _, ends_ofResult.mpr ⟨made, rfl⟩, ?_⟩
  rw [← toldFiles] at fillable holds
  refine ends_bind.mpr ⟨_, _, ends_readImage_of_fillable fillable holds, ?_⟩
  refine ends_bind.mpr ⟨_, _, ends_ofResult.mpr ⟨drawn, rfl⟩, ?_⟩
  exact ends_bind.mpr ⟨_, _, additions, ends_pure.mpr ⟨rfl, rfl⟩⟩

/-- Two files can be written one after the other. -/
theorem exists_finish (fillable : Fillable before.files directory (fileNames ratio))
    (prepared : SheetPlan F × Image) :
    ∃ after, (finish directory ratio prepared).Ends before
      [imagePath directory ratio, indexPath directory ratio] after := by
  obtain ⟨made, makes, ready⟩ := fillable
  obtain ⟨withImage, imageWritten⟩ := ready.exists_write mem_fileNames_image (.image prepared.2)
  obtain ⟨withIndex, indexWritten⟩ := (ready.write imageWritten).exists_write mem_fileNames_index
    (.text ((Json.object (prepared.1.index ratio)).indented 0))
  refine ⟨{ before with files := withIndex }, ?_⟩
  refine ends_bind.mpr ⟨(), { before with files := made },
    Work.ends_ensureDirectory.mpr ⟨makes, rfl⟩, ?_⟩
  refine ends_bind.mpr ⟨(), _, Work.ends_write.mpr ⟨_, imageWritten, rfl⟩, ?_⟩
  refine ends_bind.mpr ⟨(), _, Work.ends_write.mpr ⟨_, indexWritten, rfl⟩, ?_⟩
  exact ends_pure.mpr ⟨rfl, rfl⟩

theorem exists_addShields (fillable : Fillable before.files directory (fileNames ratio))
    (holds : Holds before.files directory ratio sheet) {new : SpriteSheet F}
    (added : sheet.add shields ratio = .ok new) (verbose : Bool) :
    ∃ after, (addShields directory shields ratio verbose).Ends before
      [imagePath directory ratio, indexPath directory ratio] after := by
  obtain ⟨plan, image, made, drawn, _⟩ := SpriteSheet.add_eq_ok.mp added
  obtain ⟨between, preparing, same⟩ := exists_prepare fillable holds made drawn verbose
  rw [← same] at fillable
  obtain ⟨after, finishing⟩ := exists_finish fillable (plan, image)
  rw [addShields_eq]
  exact ⟨after, ends_bind.mpr ⟨_, _, preparing, finishing⟩⟩

/-- Shields are added if they can be added to the sheet that the files hold. -/
theorem exists_addShields_iff (holds : Holds before.files directory ratio sheet) :
    (∃ written after, (addShields directory shields ratio verbose).Ends before written after) ↔
      Fillable before.files directory (fileNames ratio) ∧
        ∃ new, sheet.add shields ratio = .ok new := by
  constructor
  · rintro ⟨written, after, ended⟩
    obtain ⟨old, new, isOld, added, _⟩ := ends_addShields ended
    cases isOld.unique holds
    exact ⟨fillable_of_addShields ended, new, added⟩
  · rintro ⟨fillable, new, added⟩
    obtain ⟨after, ended⟩ := exists_addShields fillable holds added verbose
    exact ⟨_, after, ended⟩

end MapStyle.SpriteStore
