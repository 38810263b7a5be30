import MapStyle.Expr
import MapStyle.Fault

/-!
# Layers

One layer of a style: which features of which source it draws, at which zooms, and how. A layer
has an id; it has a source exactly if it is no background.
-/

namespace MapStyle

set_option autoImplicit false

inductive LayerKind where
  | background
  | fill
  | line
  | symbol
  | circle
  | hillshade
  deriving DecidableEq, Repr

namespace LayerKind

def all : List LayerKind := [.background, .fill, .line, .symbol, .circle, .hillshade]

def name : LayerKind → String
  | .background => "background"
  | .fill => "fill"
  | .line => "line"
  | .symbol => "symbol"
  | .circle => "circle"
  | .hillshade => "hillshade"

def ofName? (name : String) : Option LayerKind :=
  all.find? fun kind => kind.name == name

end LayerKind

structure Layer (F : Type) where
  id : String
  kind : LayerKind
  source : Option String := none
  sourceLayer : Option String := none
  minZoom : Option (Number F) := none
  maxZoom : Option (Number F) := none
  filter : Option (Expr F) := none
  layout : List (String × Expr F) := []
  paint : List (String × Expr F) := []

/-- A layer as it is described, with an id and a kind that have not been checked. -/
structure LayerDescription (F : Type) where
  id : Option String
  kind : String
  source : Option String := none
  sourceLayer : Option String := none
  minZoom : Option (Number F) := none
  maxZoom : Option (Number F) := none
  filter : Option (Expr F) := none
  layout : List (String × Expr F) := []
  paint : List (String × Expr F) := []

namespace Layer

variable {F : Type}

def refuse {α : Type} (cause : LayerError F) : Result F α :=
  .error (.layer cause)

/-- A background takes no source, not even an empty one; any other layer needs one. -/
def checkSource (id : String) (kind : LayerKind) (source : Option String) : Result F Unit :=
  if kind = .background then
    if source.isSome then refuse (.backgroundSource id) else .ok ()
  else if (source.getD "").isEmpty then refuse (.noSource id)
  else .ok ()

def check (layer : Layer F) : Result F Unit := do
  if layer.id.isEmpty then refuse .emptyId
  checkSource layer.id layer.kind layer.source

def ofDescription (description : LayerDescription F) : Result F (Layer F) := do
  let id := description.id.getD ""
  if id.isEmpty then refuse .emptyId
  match LayerKind.ofName? description.kind with
  | none => refuse (.unknownKind description.kind id (LayerKind.all.map LayerKind.name))
  | some kind =>
      checkSource id kind description.source
      return {
        id, kind
        source := description.source
        sourceLayer := description.sourceLayer
        minZoom := description.minZoom
        maxZoom := description.maxZoom
        filter := description.filter
        layout := description.layout
        paint := description.paint }

/-- A setting that is left out when it is not given. -/
def entry? (key : String) (value : Option (Json F)) : List (String × Json F) :=
  match value with
  | some found => [(key, found)]
  | none => []

/-- A group of properties that is left out when it is empty. -/
def properties? (key : String) (properties : List (String × Expr F)) : List (String × Json F) :=
  if properties.isEmpty then [] else [(key, (Expr.mapping properties).toJson)]

/-- The layer as it stands in a style document. -/
def toJson (layer : Layer F) : Json F :=
  .object ([("id", .text layer.id), ("type", .text layer.kind.name)] ++
    entry? "source" (layer.source.map .text) ++
    entry? "source-layer" (layer.sourceLayer.map .text) ++
    entry? "minzoom" (layer.minZoom.map .number) ++
    entry? "maxzoom" (layer.maxZoom.map .number) ++
    entry? "filter" (layer.filter.map Expr.toJson) ++
    properties? "layout" layer.layout ++
    properties? "paint" layer.paint)

end Layer

end MapStyle
