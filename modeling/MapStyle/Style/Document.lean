import MapStyle.Files.Session
import MapStyle.Json.Printer
import MapStyle.Style.Source
import MapStyle.Style.Stack
import MapStyle.Text

/-!
# Style documents

A complete style: its sources, its layers with distinct ids, the addresses of glyphs and sprites,
and the initial view. It is written as the text of a style file, and its layers are told as a table.
A style is compiled before its file is touched, so a theme that does not compile leaves no file
behind.
-/

namespace MapStyle

set_option autoImplicit false

variable {F : Type} [Arithmetic F]

structure StyleDocument (F : Type) where
  name : String
  description : Option String
  projection : Projection
  glyphs : String
  sprite : String
  view : View F
  sources : Source.Table F
  layers : List (Layer F)

namespace StyleDocument

def formatVersion : Nat := 8

def generator : String := "basemap_styles"

/-- The ids that occur more than once, in ascending order. -/
def duplicates (ids : List String) : List String :=
  ((ids.filter fun id => 1 < ids.count id).eraseDups).mergeSort (fun left right => left ≤ right)

/-- No two layers have the same id. -/
def checkIds (ids : List String) : Result F Unit :=
  match duplicates ids with
  | [] => .ok ()
  | found => .error (.layer (.duplicateIds found))

/-- Whether the areas of places are drawn: they need an address of their own. -/
def drawsPlaces (theme : Theme F) (urls : StyleUrls) : Bool :=
  (StyleUrls.given? urls.places).isSome && theme.enabled .places

def sourcesOf (theme : Theme F) (urls : StyleUrls) : Source.Table F :=
  let places :=
    if drawsPlaces theme urls then [(Population.sourceName, Source.places urls)] else []
  Source.global urls ++ Source.basemap urls theme ++ places

/-- The layers of the base map, with the areas of places between them if these are drawn. -/
def layersOf (theme : Theme F) (urls : StyleUrls) : Result F (List (Layer F)) := do
  let base ← theme.layers
  if drawsPlaces theme urls then theme.insertPlaces base else return base

/-- The style of a theme. -/
def compile (theme : Theme F) (urls : StyleUrls) : Result F (StyleDocument F) := do
  let layers ← layersOf theme urls
  checkIds (layers.map Layer.id)
  return {
    name := theme.name
    description := theme.description
    projection := theme.settings.projection
    glyphs := urls.glyphs
    sprite := urls.sprite
    view := theme.resolveView
    sources := sourcesOf theme urls
    layers }

def toJson (style : StyleDocument F) : Json F :=
  .object [
    ("version", .int formatVersion),
    ("name", .text style.name),
    ("metadata", .object [
      ("generator", .text generator),
      ("projection", .text style.projection.name),
      ("description", .ofText? style.description)]),
    ("glyphs", .text style.glyphs),
    ("sprite", .text style.sprite),
    ("center", .list (style.view.centre.map .number)),
    ("zoom", .ofNumber? style.view.zoom),
    ("pitch", .ofNumber? style.view.pitch),
    ("bearing", .ofNumber? style.view.bearing),
    ("projection", .object [("type", .text style.projection.name)]),
    ("sources", .object style.sources),
    ("layers", .list (style.layers.map Layer.toJson))]

/-! ### Files and tables -/

open MapStyle.Text

/-- The text of a style file. -/
def fileText (style : StyleDocument F) : String :=
  style.toJson.indented 0 ++ "\n"

/-- The zoom at which a layer without a largest zoom ends. -/
def endZoom : Number F := 24

def layerLine (layer : Layer F) : String :=
  let minZoom := (layer.minZoom.getD 0).text
  let maxZoom := padded 4 (layer.maxZoom.getD endZoom).text
  let source := layer.source.getD "-"
  s!"  {padded 45 layer.id} z{minZoom}-{maxZoom}  ({source})"

/-- The lines of the table of layers. -/
def table (style : StyleDocument F) : List String :=
  ["", s!"Style layers ({style.layers.length} total):"] ++ style.layers.map layerLine

end StyleDocument

namespace StyleStore

/-- Writes the style of a theme into a file, and tells its layers if asked to. -/
def write (theme : Theme F) (urls : StyleUrls) (path : Path) (verbose : Bool) :
    Work F (StyleDocument F) := do
  let style ← Work.ofResult (StyleDocument.compile theme urls)
  Work.writeTextInto path style.fileText
  if verbose then Work.sayAll style.table
  return style

end StyleStore

end MapStyle
