import MapStyle.Files.Tree
import MapStyle.Proofs.Outcome

/-!
# What stays in a file tree

Writing a file and making directories leave every directory in its place, and every file but the
one that is written. So paths keep leading to where they led, and what a file holds is what was
last written at its location.
-/

namespace MapStyle.FileTree

set_option autoImplicit false

variable {tree before between after : FileTree} {path directory : Path} {content : FileContent}
  {location start : Location} {name : String}

/-! ### Steps along a path -/

theorem not_fixed_of_not_directory (noDirectory : tree.isDirectoryAt location = false) :
    location.isFixed = false := by
  cases fixed : location.isFixed with
  | false => rfl
  | true => simp [isDirectoryAt, node?, fixed] at noDirectory

/-- A step to a parent depends on nothing that lies there, and only directories lead on. -/
theorem step_eq_ok {result : Location} : tree.step location name = .ok result ↔
    tree.isDirectoryAt location = true ∧
      (if name = Path.parentName then result = location.parent
        else name.utf8ByteSize ≤ Location.nameLimit ∧ result = location ++ [name]) := by
  unfold step isDirectoryAt
  split
  · simp_all
  · simp_all
  · rename_i found
    simp only [found, true_and]
    by_cases up : name = Path.parentName
    · simp [up, eq_comm]
    · by_cases long : Location.nameLimit < name.utf8ByteSize
      · simp [up, long, Nat.not_le.mpr long]
      · simp [up, long, Nat.not_lt.mp long, eq_comm]

/-- A name that is no step up leads to itself inside the directory. -/
theorem locate_child (ordinary : name ≠ Path.parentName) {result : Location} :
    tree.locate (directory.child name) = .ok result ↔
      ∃ within, tree.locate directory = .ok within ∧ tree.isDirectoryAt within = true ∧
        name.utf8ByteSize ≤ Location.nameLimit ∧ result = within ++ [name] := by
  have split : tree.locate (directory.child name) =
      (do tree.step (← tree.locate directory) name) := by
    unfold locate Path.child
    rw [List.foldlM_append]
    simp only [List.foldlM_cons, List.foldlM_nil, bind_pure]
    rfl
  rw [split, bind_eq_ok]
  simp [step_eq_ok, ordinary]

/-- Different names inside a directory are different locations. -/
theorem child_injective {other : String} (ordinary : name ≠ Path.parentName)
    (otherOrdinary : other ≠ Path.parentName)
    (located : tree.locate (directory.child name) = .ok location)
    (otherLocated : tree.locate (directory.child other) = .ok location) : name = other := by
  obtain ⟨within, found, _, _, rfl⟩ := (locate_child ordinary).mp located
  obtain ⟨otherWithin, otherFound, _, _, same⟩ := (locate_child otherOrdinary).mp otherLocated
  rw [found] at otherFound
  cases otherFound
  simpa using same

/-! ### What is kept -/

/-- Directories stay, and so do files at locations that have not been changed. -/
structure Keeps (changed : Location → Prop) (before after : FileTree) : Prop where
  directories : ∀ location, before.isDirectoryAt location = true →
    after.isDirectoryAt location = true
  files : ∀ location content, ¬ changed location →
    before.node? location = some (.file content) → after.node? location = some (.file content)

/-- Nothing has been changed. -/
abbrev KeepsAll (before after : FileTree) : Prop :=
  Keeps (fun _ => False) before after

namespace Keeps

variable {changed wider : Location → Prop}

theorem refl (tree : FileTree) : Keeps changed tree tree where
  directories _ isDirectory := isDirectory
  files _ _ _ found := found

theorem mono (keeps : Keeps changed before after) (weaker : ∀ location, changed location →
    wider location) : Keeps wider before after where
  directories := keeps.directories
  files location content unchanged :=
    keeps.files location content fun isChanged => unchanged (weaker location isChanged)

theorem trans (first : Keeps changed before between) (second : Keeps changed between after) :
    Keeps changed before after where
  directories location isDirectory :=
    second.directories location (first.directories location isDirectory)
  files location content unchanged found :=
    second.files location content unchanged (first.files location content unchanged found)

theorem foldlM_step (keeps : Keeps changed before after) {names : List String} {result : Location}
    (located : names.foldlM before.step start = .ok result) :
    names.foldlM after.step start = .ok result := by
  induction names generalizing start with
  | nil => exact located
  | cons name rest ih =>
      rw [List.foldlM_cons, bind_eq_ok] at located ⊢
      obtain ⟨next, stepped, further⟩ := located
      obtain ⟨isDirectory, leads⟩ := step_eq_ok.mp stepped
      exact ⟨next, step_eq_ok.mpr ⟨keeps.directories start isDirectory, leads⟩, ih further⟩

/-- A path leads to where it led. -/
theorem locate (keeps : Keeps changed before after) {result : Location}
    (located : before.locate path = .ok result) : after.locate path = .ok result :=
  keeps.foldlM_step located

end Keeps

theorem read_eq_ok : tree.read path = .ok content ↔
    ∃ location, tree.locate path = .ok location ∧
      tree.node? location = some (.file content) := by
  unfold read
  split
  · rename_i refused
    simp [refuse, refused]
  · rename_i location found
    simp only [found, Except.ok.injEq, exists_eq_left']
    split
    · rename_i nothing
      simp [refuse, nothing]
    · rename_i isDirectory
      simp [refuse, isDirectory]
    · rename_i isFile
      simp [isFile]

/-- A file is kept if its location is none of those that were changed. -/
theorem Keeps.read {changed : Location → Prop} (keeps : Keeps changed before after)
    (unchanged : ∀ location, after.locate path = .ok location → ¬ changed location)
    (found : before.read path = .ok content) : after.read path = .ok content := by
  obtain ⟨location, located, isFile⟩ := read_eq_ok.mp found
  have leads := keeps.locate located
  exact read_eq_ok.mpr ⟨location, leads, keeps.files _ _ (unchanged location leads) isFile⟩

/-- What is put where no directory lies changes nothing elsewhere. -/
theorem keeps_put (node : FileNode) (noDirectory : tree.isDirectoryAt location = false) :
    Keeps (· = location) tree (tree.put location node) where
  directories other isDirectory := by
    have different : other ≠ location := by
      rintro rfl
      rw [noDirectory] at isDirectory
      cases isDirectory
    unfold isDirectoryAt
    rwa [node?_put_of_ne tree node different]
  files other content different found := by
    rwa [node?_put_of_ne tree node different]

theorem write_eq_ok : tree.write path content = .ok after ↔
    ∃ location, tree.locate path = .ok location ∧ tree.isDirectoryAt location = false ∧
      tree.put location (.file content) = after := by
  unfold write
  split
  · rename_i refused
    simp [refuse, refused]
  · rename_i location found
    simp only [found, Except.ok.injEq, exists_eq_left']
    split
    · rename_i isDirectory
      simp [refuse, isDirectory]
    · rename_i noDirectory
      simp [noDirectory]

theorem keeps_write (written : tree.write path content = .ok after) :
    Keeps (fun location => after.locate path = .ok location) tree after := by
  obtain ⟨location, located, noDirectory, rfl⟩ := write_eq_ok.mp written
  have kept := keeps_put (.file content) noDirectory
  apply kept.mono
  rintro _ rfl
  exact kept.locate located

/-- A file holds what was written into it. -/
theorem read_write (written : tree.write path content = .ok after) :
    after.read path = .ok content := by
  obtain ⟨location, located, noDirectory, rfl⟩ := write_eq_ok.mp written
  have kept := keeps_put (.file content) noDirectory
  exact read_eq_ok.mpr ⟨location, kept.locate located,
    node?_put tree _ (not_fixed_of_not_directory noDirectory)⟩

theorem keepsAll_makeDirectory (made : tree.makeDirectory path = .ok after) :
    KeepsAll tree after := by
  unfold makeDirectory at made
  split at made
  · cases made
  · rename_i location located
    split at made
    · cases made
    · rename_i nothing
      cases made
      have noDirectory : tree.isDirectoryAt location = false := by simp [isDirectoryAt, nothing]
      have kept := keeps_put .directory noDirectory
      refine ⟨kept.directories, fun other content _ found => ?_⟩
      apply kept.files other content _ found
      rintro rfl
      rw [nothing] at found
      cases found

theorem keepsAll_keepDirectory (kept : tree.keepDirectory path = .ok after) :
    KeepsAll tree after := by
  unfold keepDirectory at kept
  split at kept
  · rename_i made
    cases kept
    exact keepsAll_makeDirectory made
  · split at kept
    · cases kept
      exact .refl tree
    · cases kept

theorem keepsAll_makeDirectories (tree : FileTree) (root : String) (reversed : List String) :
    KeepsAll tree (tree.makeDirectories root reversed).2 := by
  induction reversed with
  | nil => exact .refl tree
  | cons name rest ih =>
      simp only [makeDirectories]
      split
      · rename_i made
        exact keepsAll_makeDirectory made
      · split
        · rename_i fault made parents
          rw [parents] at ih
          exact ih
        · rename_i made parents
          rw [parents] at ih
          split
          · rename_i complete
            exact ih.trans (keepsAll_keepDirectory complete)
          · exact ih
      · split <;> exact .refl tree

end MapStyle.FileTree
