import MapStyle.Command.Run
import MapStyle.Number.Double
import MapStyle.Sprite.Png

/-!
# The program

Looks at the files that a command may touch, runs the command on them, and writes what it changed.
Requests are left to other programs: here every address is out of reach.
-/

namespace MapStyle.Program

set_option autoImplicit false

/-- The content of a file; bytes that are neither an image nor a text count as no text. -/
def contentOf (bytes : ByteArray) : FileContent :=
  match Png.decode? bytes.toList with
  | some image => .image image
  | none => .text ((String.fromUTF8? bytes).getD "")

def bytesOf : FileContent → ByteArray
  | .text value => value.toUTF8
  | .image value => ⟨(Png.encode value).toArray⟩

/-- What lies at a path: a directory has a name but is no file to be read. -/
def nodeAt? (path : Path) : IO (Option FileNode) := do
  try
    return some (.file (contentOf (← IO.FS.readBinFile path.text)))
  catch
    | .inappropriateType .. => return some .directory
    | _ => return none

/-- The paths that lead to a path, and itself. -/
def wayTo (path : Path) : List Path :=
  (List.range (path.names.length + 1)).map fun count =>
    { path with names := path.names.take count }

def see (files : FileTree) (path : Path) : IO FileTree := do
  match files.locate path with
  | .error _ => return files
  | .ok location =>
      if location.isFixed then return files
      match ← nodeAt? path with
      | some node => return files.put location node
      | none => return files

def keep (before : FileTree) (location : Location) (node : FileNode) : IO Unit := do
  let place := "/".intercalate location
  match node, before.node? location with
  | .directory, none => IO.FS.createDir place
  | .directory, some _ => pure ()
  | .file content, some (.file old) =>
      if bytesOf content != bytesOf old then IO.FS.writeBinFile place (bytesOf content)
  | .file content, _ => IO.FS.writeBinFile place (bytesOf content)

def network : Reach.Network := fun _ _ => .error "no network"

def pathsOf (arguments : List String) : List Path :=
  match (Command.read arguments : CommandLine Float) with
  | .run invocation => invocation.command.paths
  | _ => []

/-- Runs a command line; the number with which the program ends. -/
def run (arguments : List String) : IO UInt32 := do
  let environment ← StyleUrls.Environment.look fun name => IO.getEnv name
  let before ← ((pathsOf arguments).flatMap wayTo).foldlM see .empty
  let (outcome, after) := Command.runLine (F := Float) ⟨environment, network⟩ arguments before
  after.nodes.forM fun (location, node) => keep before location node
  match outcome with
  | .ok report =>
      IO.print report.output
      IO.eprint report.errors
      return report.code.toUInt32
  | .error fault =>
      IO.eprintln fault.told
      return 1

end MapStyle.Program

def main (arguments : List String) : IO UInt32 :=
  MapStyle.Program.run arguments
