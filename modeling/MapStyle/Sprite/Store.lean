import MapStyle.Files.Session
import MapStyle.Json.Printer
import MapStyle.Sprite.Sheet

/-!
# Sprite sheets in a directory

A sheet is a pair of files, an image and an index, with the pixel ratio in their names. Shields
are added to the pair that is there, or to an empty one. The pair is only written when everything
that could fail before has succeeded.
-/

namespace MapStyle.SpriteStore

set_option autoImplicit false

variable {F : Type} [Arithmetic F]

def sheetName : String := "basemap"

/-- The name of the files of a sheet without their endings. -/
def fileName (ratio : Nat) : String :=
  if ratio = 1 then sheetName else s!"{sheetName}@{ratio}x"

def indexPath (directory : Path) (ratio : Nat) : Path :=
  directory.child (fileName ratio ++ ".json")

def imagePath (directory : Path) (ratio : Nat) : Path :=
  directory.child (fileName ratio ++ ".png")

def indexOf (text : String) : Result F (SpriteIndex F) :=
  match Json.read text with
  | .error cause => .error (.json cause)
  | .ok (.object entries) => .ok entries
  | .ok _ => refuseSprite .noIndex

/-- The index that is there; an empty one if there is none. -/
def readIndex (path : Path) : Work F (SpriteIndex F) := do
  if ← Work.isThere path then Work.ofResult (indexOf (← Work.readText path)) else return []

def readImage (path : Path) : Work F (Option Image) := do
  if ← Work.isThere path then return some (← Work.readImage path) else return none

def removalLine (name : String) : String :=
  s!"  Removing existing {name} entry"

def additionLine (shield : PlacedShield) : String :=
  s!"  Added {shield.name}: {shield.image.width}x{shield.image.height} at y={shield.top}"

/-- Adds shields to the sheet with a pixel ratio, and tells which files were written. -/
def addShields (directory : Path) (shields : List (ShieldSprite F)) (ratio : Nat)
    (verbose : Bool) : Work F (List Path) := do
  let indexFile := indexPath directory ratio
  let imageFile := imagePath directory ratio
  let old ← readIndex indexFile
  let names := shields.map ShieldSprite.name
  if verbose then Work.sayAll ((old.replaced names).map removalLine)
  let plan ← Work.ofResult (SheetPlan.make old shields ratio)
  let image ← Work.ofResult (plan.image (← readImage imageFile))
  if verbose then Work.sayAll (plan.placed.map additionLine)
  Work.ensureDirectory directory
  Work.write imageFile (.image image)
  Work.write indexFile (.text ((Json.object (plan.index ratio)).indented 0))
  return [imageFile, indexFile]

/-- The pixel ratios for which a theme has sheets. -/
def ratios : List Nat := [1, 2]

/-- Adds the shields of a theme to its sheets, and tells which files were written. -/
def addTheme (theme : Theme F) (directory : Path) (verbose : Bool) : Work F (List Path) := do
  let shields ← Work.ofResult theme.shieldSprites
  let written ← ratios.mapM fun ratio => do
    Work.sayAll (if verbose then ["", s!"Building {ratio}x sprite sheet..."] else [])
    addShields directory shields ratio verbose
  return written.flatten

end MapStyle.SpriteStore
