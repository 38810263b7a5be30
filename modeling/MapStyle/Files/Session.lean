import MapStyle.Fault
import MapStyle.Files.Tree
import MapStyle.Text

/-!
# Sessions

Work on files: a step changes the tree, prints lines, or fails. What was changed and printed
before a failure stays.
-/

namespace MapStyle

set_option autoImplicit false

structure Session where
  files : FileTree
  printed : String

abbrev Work (F α : Type) := ExceptT (Fault F) (StateM Session) α

namespace Work

variable {F : Type}

/-- Runs work on a tree; the outcome, what was printed, and the tree afterwards. -/
def runOn {α : Type} (work : Work F α) (files : FileTree) : Result F α × Session :=
  work.run ⟨files, ""⟩

def fail {α : Type} (cause : FileError) : Work F α :=
  throw (.file cause)

/-- A computation that does not touch the session. -/
def ofResult {α : Type} : Result F α → Work F α
  | .ok value => pure value
  | .error fault => throw fault

/-- Prints a line. -/
def say (line : String) : Work F Unit :=
  modify fun session => { session with printed := session.printed ++ line ++ "\n" }

def sayAll (lines : List String) : Work F Unit :=
  lines.forM say

/-- Prints a line if lines of its kind are wanted. -/
def sayIf (wanted : Bool) (line : String) : Work F Unit :=
  if wanted then say line else pure ()

def keepFiles (files : FileTree) : Work F Unit :=
  modify fun session => { session with files }

/-- Whether something lies at a path. -/
def isThere (path : Path) : Work F Bool := do
  let session ← get
  match session.files.locate path with
  | .ok location => return (session.files.node? location).isSome
  | .error .nameTooLong => fail (.refused .nameTooLong path.text)
  | .error _ => return false

def read (path : Path) : Work F FileContent := do
  match (← get).files.read path with
  | .ok content => return content
  | .error cause => fail cause

def readText (path : Path) : Work F String := do
  match ← read path with
  | .text value => return Text.unifiedBreaks value
  | .image _ => fail .notText

def readImage (path : Path) : Work F Image := do
  match ← read path with
  | .image value => return value
  | .text _ => fail (.notImage path.text)

def write (path : Path) (content : FileContent) : Work F Unit := do
  match (← get).files.write path content with
  | .ok files => keepFiles files
  | .error cause => fail cause

/-- Makes a directory and those that lead to it, unless they are there. -/
def ensureDirectory (path : Path) : Work F Unit := do
  let (failure, files) := (← get).files.makeDirectories path.root path.names.reverse
  keepFiles files
  match failure with
  | none => pure ()
  | some cause => fail cause

/-- Writes a text into a file, whose directory is made if need be. -/
def writeTextInto (path : Path) (text : String) : Work F Unit := do
  ensureDirectory path.parent
  write path (.text text)

end Work

end MapStyle
