import MapStyle.Entries
import MapStyle.Fault
import MapStyle.Sprite.Image

/-!
# Paths and file trees

The files and directories that a run can see. Everything lies at a location: the names that lead
to it from the working directory. The working directory, the directories above it and the root of
all paths are always there.
-/

namespace MapStyle

set_option autoImplicit false

/-! ### Paths

A path is a root, or none, and names. Slashes that follow one another count as one, and names that
stand for the directory they are in are left out; a step to the parent directory is kept. -/

structure Path where
  root : String
  names : List String
  deriving DecidableEq, Repr

namespace Path

/-- The name that leads to the parent directory. -/
def parentName : String := ".."

/-- The name that leads nowhere else. -/
def stayName : String := "."

/-- The root of a path that begins with a number of slashes; two of them are a root of their
own. -/
def rootOf (slashes : Nat) : String :=
  match slashes with
  | 0 => ""
  | 2 => "//"
  | _ => "/"

def ofText (text : String) : Path where
  root := rootOf (text.toList.takeWhile (· = '/')).length
  names := (text.splitOn "/").filter fun name => !name.isEmpty && name != stayName

def text (path : Path) : String :=
  let written := path.root ++ "/".intercalate path.names
  if written.isEmpty then stayName else written

/-- The path without its last name; a path without names is its own parent. -/
def parent (path : Path) : Path :=
  { path with names := path.names.dropLast }

/-- The last name of a path. -/
def name (path : Path) : String :=
  path.names.getLast?.getD ""

/-- The path of something inside the directory at a path. -/
def child (path : Path) (name : String) : Path :=
  { path with names := path.names ++ [name] }

end Path

/-! ### Trees -/

/-- Names from the working directory. The parents of that directory are written as steps up, and
the root of all paths as one name. -/
abbrev Location := List String

inductive FileContent where
  | text (value : String)
  | image (value : Image)

inductive FileNode where
  | directory
  | file (content : FileContent)

structure FileTree where
  nodes : List (Location × FileNode)

namespace Location

/-- The name of the root. -/
def root : String := "/"

/-- Whether a location is there without having been made. -/
def isFixed (location : Location) : Bool :=
  location == [root] || location.all (· == Path.parentName)

def parent (location : Location) : Location :=
  if location = [root] then location
  else if location.isFixed then location ++ [Path.parentName]
  else location.dropLast

/-- The location from which a path leads. -/
def start (path : Path) : Location :=
  if path.root.isEmpty then [] else [root]

/-- The number of bytes that a name may have. -/
def nameLimit : Nat := 255

end Location

namespace FileTree

def empty : FileTree := ⟨[]⟩

def node? (tree : FileTree) (location : Location) : Option FileNode :=
  if location.isFixed then some .directory else tree.nodes.lookup location

def isDirectoryAt (tree : FileTree) (location : Location) : Bool :=
  match tree.node? location with
  | some .directory => true
  | _ => false

/-- Puts something at a location, in the place of what was there. -/
def put (tree : FileTree) (location : Location) (node : FileNode) : FileTree :=
  ⟨Entries.put location node tree.nodes⟩

/-- What was put at a location is found there. -/
theorem node?_put (tree : FileTree) {location : Location} (node : FileNode)
    (free : location.isFixed = false) :
    (tree.put location node).node? location = some node := by
  simp [node?, put, free, Entries.lookup_put]

/-- Putting something at a location leaves all others as they are. -/
theorem node?_put_of_ne (tree : FileTree) {location other : Location} (node : FileNode)
    (different : other ≠ location) : (tree.put location node).node? other = tree.node? other := by
  simp [node?, put, Entries.lookup_put_of_ne node tree.nodes different]

/-- A step from a location: only directories lead further. -/
def step (tree : FileTree) (location : Location) (name : String) : Except FileCause Location :=
  match tree.node? location with
  | none => .error .notFound
  | some (.file _) => .error .notDirectory
  | some .directory =>
      if name = Path.parentName then .ok location.parent
      else if Location.nameLimit < name.utf8ByteSize then .error .nameTooLong
      else .ok (location ++ [name])

/-- The location to which a path leads. Nothing needs to be there. -/
def locate (tree : FileTree) (path : Path) : Except FileCause Location :=
  path.names.foldlM tree.step (Location.start path)

/-- What lies at a path, if anything does. -/
def at? (tree : FileTree) (path : Path) : Option FileNode :=
  match tree.locate path with
  | .ok location => tree.node? location
  | .error _ => none

def isDirectory (tree : FileTree) (path : Path) : Bool :=
  match tree.at? path with
  | some .directory => true
  | _ => false

def refuse {α : Type} (cause : FileCause) (path : Path) : Except FileError α :=
  .error (.refused cause path.text)

/-- The content of the file at a path. -/
def read (tree : FileTree) (path : Path) : Except FileError FileContent :=
  match tree.locate path with
  | .error cause => refuse cause path
  | .ok location =>
      match tree.node? location with
      | none => refuse .notFound path
      | some .directory => refuse .isDirectory path
      | some (.file content) => .ok content

/-- The tree with a file at a path, whose directory has to be there. -/
def write (tree : FileTree) (path : Path) (content : FileContent) :
    Except FileError FileTree :=
  match tree.locate path with
  | .error cause => refuse cause path
  | .ok location =>
      if tree.isDirectoryAt location then refuse .isDirectory path
      else .ok (tree.put location (.file content))

/-- The tree with a new directory at a path, whose parent has to be there. -/
def makeDirectory (tree : FileTree) (path : Path) : Except FileCause FileTree :=
  match tree.locate path with
  | .error cause => .error cause
  | .ok location =>
      match tree.node? location with
      | some _ => .error .exists
      | none => .ok (tree.put location .directory)

/-- Makes a directory unless it is there. -/
def keepDirectory (tree : FileTree) (path : Path) : Except FileError FileTree :=
  match tree.makeDirectory path with
  | .ok made => .ok made
  | .error cause => if tree.isDirectory path then .ok tree else refuse cause path

/-- Makes a directory and the directories that lead to it, unless they are there. What was made
before a refusal stays: the second part is the tree afterwards. -/
def makeDirectories (tree : FileTree) (root : String) :
    (reversed : List String) → Option FileError × FileTree
  | [] => (none, tree)
  | name :: rest =>
      let path : Path := ⟨root, (name :: rest).reverse⟩
      match tree.makeDirectory path with
      | .ok made => (none, made)
      | .error .notFound =>
          match makeDirectories tree root rest with
          | (some fault, made) => (some fault, made)
          | (none, made) =>
              match made.keepDirectory path with
              | .ok complete => (none, complete)
              | .error fault => (some fault, made)
      | .error cause =>
          if tree.isDirectory path then (none, tree)
          else (some (.refused cause path.text), tree)

/-- The files below the working directory, each with its names joined. -/
def files (tree : FileTree) : List (String × FileContent) :=
  tree.nodes.filterMap fun (location, node) =>
    match node with
    | .file content =>
        if location.head?.any fun name => name == Path.parentName || name == Location.root then none
        else some ("/".intercalate location, content)
    | .directory => none

end FileTree

end MapStyle
