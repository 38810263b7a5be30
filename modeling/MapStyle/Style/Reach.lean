import MapStyle.Fault
import MapStyle.Text

/-!
# Addresses of a style and whether they can be reached

The remote addresses that a style refers to: the archives of its sources, the glyphs of its first
font stack, and its sprites. Each is asked for by its head first, and in full if the server does
not allow that.
-/

namespace MapStyle.Reach

set_option autoImplicit false

open MapStyle.Text

variable {F : Type}

/-! ### Collecting -/

def archivePrefix : String := "pmtiles://"

/-- The range of characters whose glyphs are asked for. -/
def glyphRange : String := "0-255"

def isRemote (url : String) : Bool :=
  startsWith url "http://" || startsWith url "https://"

def textOf : Option (Json F) → Option String
  | some (.text value) => some value
  | _ => none

def itemsOf : Option (Json F) → List (Json F)
  | some (.list items) => items
  | _ => []

def entriesOf : Option (Json F) → List (String × Json F)
  | some (.object entries) => entries
  | _ => []

/-- The remote addresses of the sources. -/
def sourceUrls (style : Json F) : List String :=
  (entriesOf (style.get? "sources")).filterMap fun entry =>
    let url := withoutBeginning ((textOf (entry.2.get? "url")).getD "") archivePrefix
    if isRemote url then some url else none

/-- The names of a stack of fonts, if it is one: a list of texts that is not empty. -/
def fontStack? (fonts : Option (Json F)) : Option (List String) :=
  match itemsOf fonts with
  | [] => none
  | items => items.mapM fun item =>
      match item with
      | .text name => some name
      | _ => none

/-- The first stack of fonts that a layer asks for. -/
def firstFonts? (style : Json F) : Option (List String) :=
  (itemsOf (style.get? "layers")).findSome? fun layer =>
    fontStack? ((layer.get? "layout").bind fun layout => layout.get? "text-font")

def glyphUrls (style : Json F) : List String :=
  match (textOf (style.get? "glyphs")).filter (fun glyphs => !glyphs.isEmpty),
    firstFonts? style with
  | some glyphs, some fonts =>
      let named := replaced glyphs "\x7bfontstack\x7d" (percentEncode (",".intercalate fonts))
      [replaced named "\x7brange\x7d" glyphRange]
  | _, _ => []

def spriteUrls (style : Json F) : List String :=
  match textOf (style.get? "sprite") with
  | some sprite => if isRemote sprite then [sprite ++ ".json", sprite ++ ".png"] else []
  | none => []

/-- Values in the order in which they first occur. -/
def distinct (values : List String) : List String :=
  (values.foldl (fun found value => if found.contains value then found else value :: found)
    []).reverse

/-- The addresses that a style asks for, each once, in the order of the style. -/
def urls (style : Json F) : List String :=
  distinct (sourceUrls style ++ glyphUrls style ++ spriteUrls style)

/-! ### Asking -/

inductive Method where
  | head
  | get
  deriving DecidableEq, Repr

def Method.name : Method → String
  | .head => "HEAD"
  | .get => "GET"

/-- A network answers a request with a status, or fails with words. -/
abbrev Network := Method → String → Except String Int

structure UrlCheck where
  url : String
  ok : Bool
  status : Option Int
  error : Option String
  deriving DecidableEq, Repr

def UrlCheck.toJson (check : UrlCheck) : Json F :=
  .object [
    ("url", .text check.url),
    ("ok", .bool check.ok),
    ("status", (check.status.map Json.int).getD .null),
    ("error", (check.error.map Json.text).getD .null)]

/-- The status that says that a request of this method is not allowed. -/
def notAllowed : Int := 405

/-- The seconds after which a request is given up. -/
def standardTimeout : Number F := 10

/-- Statuses from 400 to 599 are failures. -/
def isOk (status : Int) : Bool :=
  !(400 ≤ status && status < 600)

/-- The requests that have been made, in order. -/
abbrev Calls := List (Method × String)

/-- Asking for one address: every request is noted before it is answered, and a failure ends it. -/
abbrev Asking := ExceptT String (StateM Calls)

def ask (network : Network) (method : Method) (url : String) : Asking Int := do
  modify (· ++ [(method, url)])
  MonadExcept.ofExcept (network method url)

/-- The status of an address by its head, or in full where that is not allowed. -/
def statusOf (network : Network) (url : String) : Asking Int := do
  let status ← ask network .head url
  if status = notAllowed then ask network .get url else return status

/-- The outcome for an address, which is a failure in words if a request failed. -/
def check (network : Network) (url : String) : StateM Calls UrlCheck := do
  match ← (statusOf network url).run with
  | .ok status => return ⟨url, isOk status, some status, none⟩
  | .error words => return ⟨url, false, none, some words⟩

def checkAll (network : Network) (style : Json F) : StateM Calls (List UrlCheck) :=
  (urls style).mapM (check network)

/-- The outcome for every address of a style. -/
def checks (network : Network) (style : Json F) : List UrlCheck :=
  (checkAll network style []).1

/-- All requests for the addresses of a style, in order. -/
def calls (network : Network) (style : Json F) : Calls :=
  (checkAll network style []).2

end MapStyle.Reach
