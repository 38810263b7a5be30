import MapStyle.Proofs.Files.Session

/-!
# Work that can be done

When work on files ends with a value. Files can be written into a directory that is there, or that
can be made, under names at which no directory lies; whether they can does not depend on what is
written. Then it can also be told whether they are there already.
-/

namespace MapStyle

set_option autoImplicit false

namespace FileTree

variable {tree after : FileTree} {path directory : Path} {content : FileContent}
  {location : Location} {name : String}

/-- No directory is made that is there. -/
theorem makeDirectories_of_directory {within : Location} (located : tree.locate directory = .ok within)
    (isDirectory : tree.isDirectoryAt within = true) :
    tree.makeDirectories directory.root directory.names.reverse = (none, tree) := by
  cases names : directory.names.reverse with
  | nil => rfl
  | cons name rest =>
      have same : (⟨directory.root, (name :: rest).reverse⟩ : Path) = directory := by
        rw [← names, List.reverse_reverse]
      have there : tree.isDirectory directory = true := by
        unfold FileTree.isDirectory at?
        rw [located]
        exact isDirectory
      have already : tree.makeDirectory directory = .error .exists := by
        unfold isDirectoryAt at isDirectory
        unfold makeDirectory
        rw [located]
        dsimp only
        cases found : tree.node? within with
        | none =>
            rw [found] at isDirectory
            cases isDirectory
        | some node => rfl
      simp only [makeDirectories, same, already, there, if_true]

theorem at?_of_read (found : tree.read path = .ok content) : tree.at? path = some (.file content) := by
  obtain ⟨location, located, isFile⟩ := read_eq_ok.mp found
  unfold at?
  rw [located]
  exact isFile

/-- A name is only looked at in a directory. -/
theorem step_eq_nameTooLong : tree.step location name = .error .nameTooLong ↔
    tree.isDirectoryAt location = true ∧ name ≠ Path.parentName ∧
      Location.nameLimit < name.utf8ByteSize := by
  unfold step isDirectoryAt
  split
  · simp_all
  · simp_all
  · rename_i found
    simp only [found, true_and]
    split
    · simp_all
    · split <;> simp_all

/-- A path that is refused for a name that is too long is refused in every later tree. -/
theorem Keeps.locate_nameTooLong {changed : Location → Prop} (keeps : Keeps changed tree after)
    (refused : tree.locate path = .error .nameTooLong) :
    after.locate path = .error .nameTooLong := by
  have further (names : List String) (start : Location)
      (refused : names.foldlM tree.step start = .error .nameTooLong) :
      names.foldlM after.step start = .error .nameTooLong := by
    induction names generalizing start with
    | nil => cases refused
    | cons name rest ih =>
        rw [List.foldlM_cons] at refused ⊢
        cases stepped : tree.step start name with
        | ok next =>
            obtain ⟨isDirectory, leads⟩ := step_eq_ok.mp stepped
            rw [stepped] at refused
            rw [step_eq_ok.mpr ⟨keeps.directories start isDirectory, leads⟩]
            exact ih next refused
        | error cause =>
            rw [stepped] at refused
            cases refused
            obtain ⟨isDirectory, long⟩ := step_eq_nameTooLong.mp stepped
            rw [step_eq_nameTooLong.mpr ⟨keeps.directories start isDirectory, long⟩]
            rfl
  exact further path.names (Location.start path) refused

/-- Several names in a directory that is there, at none of which a directory lies. -/
def Ready (tree : FileTree) (directory : Path) (names : List String) : Prop :=
  ∃ within, tree.locate directory = .ok within ∧ tree.isDirectoryAt within = true ∧
    ∀ name ∈ names, name ≠ Path.parentName ∧ name.utf8ByteSize ≤ Location.nameLimit ∧
      tree.isDirectoryAt (within ++ [name]) = false

namespace Ready

variable {names : List String}

theorem locate (ready : tree.Ready directory names) (member : name ∈ names) :
    ∃ location, tree.locate (directory.child name) = .ok location ∧
      tree.isDirectoryAt location = false := by
  obtain ⟨within, located, isDirectory, free⟩ := ready
  obtain ⟨ordinary, short, noDirectory⟩ := free name member
  exact ⟨_, (locate_child ordinary).mpr ⟨within, located, isDirectory, short, rfl⟩, noDirectory⟩

/-- A file can be written under each of the names. -/
theorem exists_write (ready : tree.Ready directory names) (member : name ∈ names)
    (content : FileContent) : ∃ after, tree.write (directory.child name) content = .ok after := by
  obtain ⟨location, located, noDirectory⟩ := ready.locate member
  exact ⟨_, write_eq_ok.mpr ⟨location, located, noDirectory, rfl⟩⟩

/-- After a file has been written, files can still be written. -/
theorem write (ready : tree.Ready directory names) (written : tree.write path content = .ok after) :
    after.Ready directory names := by
  obtain ⟨within, located, isDirectory, free⟩ := ready
  have keeps := keeps_write written
  refine ⟨within, keeps.locate located, keeps.directories within isDirectory, ?_⟩
  intro name member
  obtain ⟨ordinary, short, noDirectory⟩ := free name member
  refine ⟨ordinary, short, ?_⟩
  obtain ⟨location, _, locationFree, rfl⟩ := write_eq_ok.mp written
  by_cases same : within ++ [name] = location
  · have isFile := node?_put tree (.file content) (not_fixed_of_not_directory locationFree)
    rw [same, isDirectoryAt, isFile]
  · rw [isDirectoryAt, node?_put_of_ne tree _ same]
    exact noDirectory

end Ready

/-- A directory that is there, or that can be made, and into which files can then be written. -/
def Fillable (tree : FileTree) (directory : Path) (names : List String) : Prop :=
  ∃ made, tree.makeDirectories directory.root directory.names.reverse = (none, made) ∧
    made.Ready directory names

variable {names : List String}

theorem Ready.fillable (ready : tree.Ready directory names) : tree.Fillable directory names := by
  obtain ⟨within, located, isDirectory, _⟩ := id ready
  exact ⟨tree, makeDirectories_of_directory located isDirectory, ready⟩

/-- No part of the path to one of the names is too long. -/
theorem Fillable.locate_ne (fillable : tree.Fillable directory names) (member : name ∈ names) :
    tree.locate (directory.child name) ≠ .error .nameTooLong := by
  obtain ⟨made, makes, ready⟩ := fillable
  obtain ⟨location, located, _⟩ := ready.locate member
  have keeps := keepsAll_makeDirectories tree directory.root directory.names.reverse
  rw [makes] at keeps
  intro refused
  cases located.symm.trans (keeps.locate_nameTooLong refused)

end FileTree

namespace Work

variable {F : Type} {before after : Session} {path directory : Path}

theorem ends_sayAll (lines : List String) (before : Session) : ∃ after,
    (sayAll lines : Work F Unit).Ends before () after := by
  induction lines generalizing before with
  | nil => exact ⟨before, rfl⟩
  | cons line rest ih =>
      obtain ⟨after, ended⟩ := ih { before with printed := before.printed ++ line ++ "\n" }
      exact ⟨after, ends_bind.mpr ⟨_, _, rfl, ended⟩⟩

theorem ends_isThere_of_locate_ne (short : before.files.locate path ≠ .error .nameTooLong) :
    (isThere path : Work F Bool).Ends before (before.files.at? path).isSome before := by
  refine ends_bind.mpr ⟨before, before, rfl, ?_⟩
  unfold FileTree.at?
  split
  · rename_i location located
    rw [located]
    rfl
  · rename_i refused
    exact absurd refused short
  · rename_i _ _ refused
    rw [refused]
    rfl

theorem ends_ensureDirectory :
    (ensureDirectory directory : Work F Unit).Ends before () after ↔
      before.files.makeDirectories directory.root directory.names.reverse = (none, after.files) ∧
        after.printed = before.printed := by
  constructor
  · intro ended
    obtain ⟨_, _, got, rest⟩ := ends_bind.mp ended
    obtain ⟨rfl, rfl⟩ := ends_get.mp got
    obtain ⟨_, made, kept, told⟩ := ends_bind.mp rest
    have files := ends_keepFiles.mp kept
    split at told
    · rename_i noFailure
      obtain ⟨_, rfl⟩ := ends_pure.mp told
      rw [files]
      exact ⟨Prod.ext noFailure rfl, rfl⟩
    · exact absurd told ends_fail
  · rintro ⟨made, printed⟩
    refine ends_bind.mpr ⟨before, before, rfl, ?_⟩
    dsimp only
    rw [made]
    refine ends_bind.mpr ⟨(), { before with files := after.files }, rfl, ends_pure.mpr ⟨rfl, ?_⟩⟩
    rw [← printed]

end Work

end MapStyle
