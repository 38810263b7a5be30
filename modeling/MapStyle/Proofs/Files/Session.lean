import MapStyle.Files.Session
import MapStyle.Proofs.Files.Tree

/-!
# Work that ends with a value

What is known of a session in which work has ended with a value: which steps of the work ended
before, and what each of them left in the files.
-/

namespace MapStyle.Work

set_option autoImplicit false

open FileTree (Keeps KeepsAll)

variable {F α β : Type} {before after : Session}

/-- Work that is begun in one session ends with a value in another one. -/
def Ends (work : Work F α) (before : Session) (value : α) (after : Session) : Prop :=
  work.run before = (.ok value, after)

theorem ends_of_isOk {work : Work F α} (isOk : (work.run before).1.isOk = true) :
    ∃ value after, work.Ends before value after := by
  obtain ⟨value, found⟩ := exists_of_isOk isOk
  exact ⟨value, (work.run before).2, Prod.ext found rfl⟩

@[simp] theorem ends_pure {value result : α} :
    (pure value : Work F α).Ends before result after ↔ result = value ∧ after = before := by
  constructor
  · intro ended
    cases ended
    exact ⟨rfl, rfl⟩
  · rintro ⟨rfl, rfl⟩
    rfl

/-- Work in two parts ends if the first part does, and the second one after it. -/
theorem ends_bind {work : Work F α} {next : α → Work F β} {result : β} :
    (work >>= next).Ends before result after ↔
      ∃ value between, work.Ends before value between ∧
        (next value).Ends between result after := by
  unfold Ends
  rw [run_bind]
  split
  · rename_i value between ended
    constructor
    · intro further
      exact ⟨value, between, ended, further⟩
    · rintro ⟨_, _, same, further⟩
      rw [ended] at same
      cases same
      exact further
  · rename_i fault between failed
    constructor
    · intro impossible
      cases impossible
    · rintro ⟨_, _, same, _⟩
      rw [failed] at same
      cases same

@[simp] theorem ends_ofResult {outcome : Result F α} {value : α} :
    (ofResult outcome).Ends before value after ↔ outcome = .ok value ∧ after = before := by
  cases outcome with
  | error fault =>
      constructor
      · intro impossible
        cases impossible
      · rintro ⟨impossible, _⟩
        cases impossible
  | ok found =>
      constructor
      · intro ended
        cases ended
        exact ⟨rfl, rfl⟩
      · rintro ⟨same, rfl⟩
        cases same
        rfl

@[simp] theorem ends_fail {cause : FileError} {value : α} :
    ¬ (fail cause : Work F α).Ends before value after := by
  intro impossible
  cases impossible

/-- Looking at the session changes nothing. -/
@[simp] theorem ends_get {value : Session} :
    (get : Work F Session).Ends before value after ↔ value = before ∧ after = before := by
  constructor
  · intro ended
    cases ended
    exact ⟨rfl, rfl⟩
  · rintro ⟨rfl, rfl⟩
    rfl

@[simp] theorem ends_keepFiles {files : FileTree} {value : Unit} :
    (keepFiles files : Work F Unit).Ends before value after ↔ after = { before with files } := by
  constructor
  · intro ended
    cases ended
    rfl
  · rintro rfl
    rfl

theorem files_of_say {line : String} {value : Unit}
    (ended : (say line : Work F Unit).Ends before value after) : after.files = before.files := by
  cases ended
  rfl

/-- Printing leaves the files as they are. -/
theorem files_of_sayAll {lines : List String} {value : Unit}
    (ended : (sayAll lines : Work F Unit).Ends before value after) :
    after.files = before.files := by
  induction lines generalizing before with
  | nil =>
      cases ended
      rfl
  | cons line rest ih =>
      obtain ⟨_, between, said, others⟩ := ends_bind.mp ended
      exact (ih others).trans (files_of_say said)

/-- Whether something lies at a path is told of the files as they are. -/
theorem ends_isThere {path : Path} {isThere : Bool}
    (ended : (Work.isThere path : Work F Bool).Ends before isThere after) :
    after = before ∧ isThere = (before.files.at? path).isSome := by
  obtain ⟨_, _, got, rest⟩ := ends_bind.mp ended
  obtain ⟨rfl, rfl⟩ := ends_get.mp got
  unfold FileTree.at?
  split at rest
  · rename_i location located
    obtain ⟨rfl, rfl⟩ := ends_pure.mp rest
    exact ⟨rfl, by rw [located]⟩
  · exact absurd rest ends_fail
  · rename_i refused
    obtain ⟨rfl, rfl⟩ := ends_pure.mp rest
    exact ⟨rfl, by rw [refused]; rfl⟩

theorem ends_read {path : Path} {content : FileContent} :
    (read path : Work F FileContent).Ends before content after ↔
      before.files.read path = .ok content ∧ after = before := by
  unfold read
  rw [ends_bind]
  simp only [ends_get]
  constructor
  · rintro ⟨_, _, ⟨rfl, rfl⟩, rest⟩
    split at rest
    · rename_i found
      obtain ⟨rfl, rfl⟩ := ends_pure.mp rest
      exact ⟨found, rfl⟩
    · exact absurd rest ends_fail
  · rintro ⟨found, rfl⟩
    exact ⟨_, _, ⟨rfl, rfl⟩, by rw [found]; exact ends_pure.mpr ⟨rfl, rfl⟩⟩

/-- Work on the content of a file ends if there is such a file. -/
theorem ends_read_bind {path : Path} {next : FileContent → Work F β} {result : β} :
    (read path >>= next).Ends before result after ↔
      ∃ content, before.files.read path = .ok content ∧ (next content).Ends before result after := by
  simp only [ends_bind, ends_read]
  constructor
  · rintro ⟨content, _, ⟨found, rfl⟩, further⟩
    exact ⟨content, found, further⟩
  · rintro ⟨content, found, further⟩
    exact ⟨content, before, ⟨found, rfl⟩, further⟩

theorem ends_readText {path : Path} {text : String} :
    (readText path : Work F String).Ends before text after ↔
      ∃ written, before.files.read path = .ok (.text written) ∧
        text = Text.unifiedBreaks written ∧ after = before := by
  unfold readText
  rw [ends_read_bind]
  constructor
  · rintro ⟨written | image, found, rest⟩
    · exact ⟨written, found, ends_pure.mp rest⟩
    · exact absurd rest ends_fail
  · rintro ⟨written, found, same⟩
    exact ⟨_, found, ends_pure.mpr same⟩

theorem ends_readImage {path : Path} {image : Image} :
    (readImage path : Work F Image).Ends before image after ↔
      before.files.read path = .ok (.image image) ∧ after = before := by
  unfold readImage
  rw [ends_read_bind]
  constructor
  · rintro ⟨text | stored, found, rest⟩
    · exact absurd rest ends_fail
    · obtain ⟨rfl, same⟩ := ends_pure.mp rest
      exact ⟨found, same⟩
  · rintro ⟨found, same⟩
    exact ⟨_, found, ends_pure.mpr ⟨rfl, same⟩⟩

/-- What is read only if it is there was not there, or the reading has ended. -/
theorem ends_ifThere {path : Path} {reading : Work F α} {absent value : α}
    (ended : Work.Ends (do if ← Work.isThere path then reading else return absent) before value
      after) :
    (before.files.at? path = none ∧ value = absent ∧ after = before) ∨
      reading.Ends before value after := by
  obtain ⟨isThere, _, looked, rest⟩ := ends_bind.mp ended
  obtain ⟨rfl, told⟩ := ends_isThere looked
  split at rest
  · exact .inr rest
  · rename_i nothing
    rw [told, Option.isSome_iff_ne_none, not_not] at nothing
    exact .inl ⟨nothing, ends_pure.mp rest⟩

theorem ends_write {path : Path} {content : FileContent} {value : Unit} :
    (write path content : Work F Unit).Ends before value after ↔
      ∃ files, before.files.write path content = .ok files ∧ after = { before with files } := by
  unfold write
  simp only [ends_bind, ends_get]
  constructor
  · rintro ⟨_, _, ⟨rfl, rfl⟩, rest⟩
    split at rest
    · rename_i files written
      exact ⟨files, written, ends_keepFiles.mp rest⟩
    · exact absurd rest ends_fail
  · rintro ⟨files, written, rfl⟩
    exact ⟨_, _, ⟨rfl, rfl⟩, by rw [written]; exact ends_keepFiles.mpr rfl⟩

/-- Making directories keeps what there is. -/
theorem keepsAll_of_ensureDirectory {path : Path} {value : Unit}
    (ended : (ensureDirectory path : Work F Unit).Ends before value after) :
    KeepsAll before.files after.files := by
  obtain ⟨_, _, got, rest⟩ := ends_bind.mp ended
  obtain ⟨rfl, rfl⟩ := ends_get.mp got
  obtain ⟨_, made, kept, told⟩ := ends_bind.mp rest
  have files := ends_keepFiles.mp kept
  have same : after = made := by
    split at told
    · exact (ends_pure.mp told).2
    · exact absurd told ends_fail
  rw [same, files]
  exact FileTree.keepsAll_makeDirectories _ _ _

end MapStyle.Work
