import MapStyle.Proofs.Files.Session

/-!
# Work that fails

What is known of a session in which work has ended with a fault. Looking at files and printing
leave the files as they are, whatever happens. Work that first looks and then writes may fail in
either part; while it writes, only the files themselves can be the cause. So work of this kind that
fails for any other reason has changed nothing.
-/

namespace MapStyle.Work

set_option autoImplicit false

variable {F α β : Type} {before after : Session} {fault : Fault F}

/-- Work that is begun in one session fails in another one. -/
def Fails (work : Work F α) (before : Session) (fault : Fault F) (after : Session) : Prop :=
  work.run before = (.error fault, after)

theorem ends_or_fails (work : Work F α) (before : Session) :
    (∃ value after, work.Ends before value after) ∨ ∃ fault after, work.Fails before fault after := by
  unfold Ends Fails
  rcases work.run before with ⟨fault | value, after⟩
  · exact .inr ⟨fault, after, rfl⟩
  · exact .inl ⟨value, after, rfl⟩

/-- Work in two parts fails if the first part does, or the second one after it. -/
theorem fails_bind {work : Work F α} {next : α → Work F β} :
    (work >>= next).Fails before fault after ↔ work.Fails before fault after ∨
      ∃ value between, work.Ends before value between ∧ (next value).Fails between fault after := by
  unfold Fails Ends
  rw [run_bind]
  constructor
  · intro failed
    split at failed
    · rename_i value between ended
      exact .inr ⟨value, between, ended, failed⟩
    · rename_i first between firstFailed
      cases failed
      exact .inl firstFailed
  · rintro (failed | ⟨value, between, ended, failed⟩)
    · rw [failed]
    · rw [ended]
      exact failed

/-! ### Work that leaves the files as they are -/

/-- However the work turns out, no file is changed. -/
def Leaves (work : Work F α) : Prop :=
  ∀ before, (work.run before).2.files = before.files

namespace Leaves

theorem of_fails {work : Work F α} (leaves : work.Leaves) (failed : work.Fails before fault after) :
    after.files = before.files := by
  have same := leaves before
  rwa [failed] at same

theorem pure (value : α) : Leaves (Pure.pure value : Work F α) :=
  fun _ => rfl

theorem ofResult (outcome : Result F α) : Leaves (Work.ofResult outcome) := by
  intro before
  cases outcome <;> rfl

theorem fail (cause : FileError) : Leaves (Work.fail cause : Work F α) :=
  fun _ => rfl

theorem bind {work : Work F α} {next : α → Work F β} (first : work.Leaves)
    (second : ∀ value, (next value).Leaves) : (work >>= next).Leaves := by
  intro before
  have between := first before
  rw [run_bind]
  rcases found : work.run before with ⟨fault | value, middle⟩
  · rwa [found] at between
  · rw [found] at between
    exact (second value middle).trans between

theorem get : Leaves (MonadState.get : Work F Session) :=
  fun _ => rfl

theorem say (line : String) : Leaves (Work.say line : Work F Unit) :=
  fun _ => rfl

theorem sayAll (lines : List String) : Leaves (Work.sayAll lines : Work F Unit) := by
  induction lines with
  | nil => exact pure ()
  | cons line rest ih => exact (say line).bind fun _ => ih

theorem isThere (path : Path) : Leaves (Work.isThere path : Work F Bool) := by
  apply get.bind
  intro session
  split
  · exact pure _
  · exact fail _
  · exact pure _

theorem ifThere {path : Path} {reading : Work F α} {absent : α} (leaves : reading.Leaves) :
    Leaves (do if ← Work.isThere path then reading else return absent) := by
  apply (isThere path).bind
  intro isThere
  split
  · exact leaves
  · exact pure _

theorem read (path : Path) : Leaves (Work.read path : Work F FileContent) := by
  apply get.bind
  intro session
  split
  · exact pure _
  · exact fail _

theorem readText (path : Path) : Leaves (Work.readText path : Work F String) := by
  apply (read path).bind
  intro content
  cases content with
  | text written => exact pure _
  | image drawn => exact fail _

theorem readImage (path : Path) : Leaves (Work.readImage path : Work F Image) := by
  apply (read path).bind
  intro content
  cases content with
  | text written => exact fail _
  | image drawn => exact pure _

end Leaves

/-! ### Work that fails because of files only -/

/-- Whatever the work fails with is about a file. -/
def FailsOnFiles (work : Work F α) : Prop :=
  ∀ before fault after, work.Fails before fault after → ∃ cause, fault = .file cause

namespace FailsOnFiles

theorem pure (value : α) : FailsOnFiles (Pure.pure value : Work F α) := by
  intro before fault after failed
  cases failed

theorem fail (cause : FileError) : FailsOnFiles (Work.fail cause : Work F α) := by
  intro before fault after failed
  cases failed
  exact ⟨cause, rfl⟩

theorem bind {work : Work F α} {next : α → Work F β} (first : work.FailsOnFiles)
    (second : ∀ value, (next value).FailsOnFiles) : (work >>= next).FailsOnFiles := by
  intro before fault after failed
  rcases fails_bind.mp failed with failed | ⟨value, between, _, failed⟩
  · exact first before fault after failed
  · exact second value between fault after failed

theorem get : FailsOnFiles (MonadState.get : Work F Session) := by
  intro before fault after failed
  cases failed

theorem keepFiles (files : FileTree) : FailsOnFiles (Work.keepFiles files : Work F Unit) := by
  intro before fault after failed
  cases failed

theorem write (path : Path) (content : FileContent) :
    FailsOnFiles (Work.write path content : Work F Unit) := by
  apply get.bind
  intro session
  split
  · exact keepFiles _
  · exact fail _

theorem ensureDirectory (path : Path) : FailsOnFiles (Work.ensureDirectory path : Work F Unit) := by
  apply get.bind
  intro session
  apply (keepFiles _).bind
  intro _
  split
  · exact pure _
  · exact fail _

end FailsOnFiles

end MapStyle.Work
