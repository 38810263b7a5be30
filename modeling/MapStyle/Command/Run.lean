import MapStyle.Command
import MapStyle.Presets
import MapStyle.Sprite.Store
import MapStyle.Style.Document
import MapStyle.Style.MapConfig
import MapStyle.Style.Reach

/-!
# Running commands

A command works on the files it can see, and reports what it printed, how it ended and which
requests it made. A fault of whoever gave the command is told in one line; any other fault is the
outcome of the run.
-/

namespace MapStyle

set_option autoImplicit false

/-- What a command finds around it besides files. -/
structure Surroundings where
  environment : StyleUrls.Environment
  network : Reach.Network

/-- What stands among the errors of a run without a form of its own. -/
inductive Aside where
  | nothing
  | usage
  | trace
  | progress
  deriving DecidableEq, Repr

/-- A request for an address, and the seconds after which it is given up. -/
structure Request (F : Type) where
  method : Reach.Method
  url : String
  timeout : Number F

/-- How a run ended. -/
structure Report (F : Type) where
  code : Nat
  output : String
  errors : String
  aside : Aside
  requests : List (Request F)

/-- The end of a command that has not failed. -/
structure Ending (F : Type) where
  code : Nat
  aside : Aside
  requests : List (Request F)

namespace Ending

variable {F : Type}

def done : Ending F := ⟨0, .nothing, []⟩

end Ending

namespace Command

variable {F : Type} [Arithmetic F]

def rule (mark : Char) : String :=
  String.ofList (List.replicate 60 mark)

/-- A heading between two rules. -/
def heading (text : String) : List String :=
  [rule '=', text, rule '=']

/-- The addresses that the options and the environment choose; an empty option counts as none. -/
def urlsOf (environment : StyleUrls.Environment) (options : UrlOptions) : StyleUrls :=
  let urls := StyleUrls.ofEnvironment environment options.environment
  { urls with
    dataBase :=
      ((StyleUrls.given? options.dataUrl).map Text.withoutFinalSlashes).getD urls.dataBase
    places := (StyleUrls.given? options.placesUrl).or urls.places }

def writeStyle (urls : StyleUrls) (preset : String) (output : Option String) (verbose : Bool) :
    Work F (Ending F) := do
  let theme ← Work.ofResult (Preset.named preset)
  let path := Path.ofText ((StyleUrls.given? output).getD s!"{preset}.json")
  let style ← StyleStore.write theme urls path verbose
  Work.say
    s!"✓ Wrote {theme.name} style ({style.layers.length} layers) to: {path.text}"
  return .done

def writeAll (urls : StyleUrls) (directory : Path) (verbose : Bool) : Work F (Ending F) := do
  Work.sayAll ("" :: heading "GENERATING ALL PRESET STYLES")
  for (name, theme) in Preset.all (F := F) do
    let path := directory.child s!"{name}.json"
    let style ← StyleStore.write theme urls path verbose
    Work.say s!"  ✓ {Text.padded 12 name} → {path.name} ({style.layers.length} layers)"
  Work.sayAll ["", s!"Generated {Preset.names.length} style files"]
  return .done

def listPresets : Work F (Ending F) := do
  Work.sayAll ["", "Available presets:", rule '-']
  for (name, theme) in Preset.all (F := F) do
    let description := theme.description.getD "None"
    Work.say s!"  {Text.padded 12 name} - {description}"
  Work.say ""
  return .done

def drawShields (preset : String) (directory : Path) (verbose : Bool) : Work F (Ending F) := do
  Work.sayAll (heading "BUILDING HIGHWAY SHIELD SPRITES")
  let theme ← Work.ofResult (Preset.named preset)
  let written ← SpriteStore.addTheme theme directory verbose
  Work.sayAll (written.map fun path => s!"  ✓ {path.text}")
  Work.sayAll ["", s!"✓ Highway shields added to sprite sheets for {theme.name}"]
  return .done

/-- Writes the configuration of the map page into a file, or prints it if there is none. -/
def configure (preset : String) (output : Option String) : Work F (Ending F) := do
  let theme : Theme F ← Work.ofResult (Preset.named preset)
  match StyleUrls.given? output with
  | none => Work.sayAll (MapConfig.lines theme)
  | some text =>
      let path := Path.ofText text
      Work.writeTextInto path (MapConfig.render theme)
      Work.say s!"✓ Wrote map config to: {path.text}"
  return .done

def checkLine (check : Reach.UrlCheck) : String :=
  let mark := if check.ok then "✓" else "✗"
  let answer := ((check.status.map toString).or check.error).getD ""
  s!"  {mark} {answer} {check.url}"

/-- Asks for every address of the style of a theme. -/
def checkStyle (urls : StyleUrls) (network : Reach.Network) (preset : String)
    (timeout : Number F) (progress : Bool) : Work F (Ending F) := do
  let theme ← Work.ofResult (Preset.named preset)
  let style ← Work.ofResult (StyleDocument.compile theme urls)
  let checks := Reach.checks network style.toJson
  let reached := checks.countP Reach.UrlCheck.ok
  Work.sayAll ("" :: heading "SOURCE CHECK")
  Work.sayAll (checks.map checkLine)
  Work.sayAll ["", s!"{reached}/{checks.length} URLs reachable"]
  return {
    code := if reached = checks.length then 0 else 1
    aside := if progress then .progress else .nothing
    requests := (Reach.calls network style.toJson).map fun (method, url) =>
      ⟨method, url, timeout⟩ }

def perform (surroundings : Surroundings) (invocation : Invocation F) : Work F (Ending F) :=
  let urls := urlsOf surroundings.environment
  match invocation.command with
  | .build preset output options => writeStyle (urls options) preset output invocation.verbose
  | .all directory options => writeAll (urls options) (.ofText directory) invocation.verbose
  | .list => listPresets
  | .shields preset directory => drawShields preset (.ofText directory) invocation.verbose
  | .mapConfig preset output => configure preset output
  | .check preset timeout progress options =>
      checkStyle (urls options) surroundings.network preset timeout progress

/-- The paths of the files that a command may read or write. -/
def paths : Command F → List Path
  | .build preset output _ => [.ofText ((StyleUrls.given? output).getD s!"{preset}.json")]
  | .all directory _ =>
      Preset.names.map fun name => (Path.ofText directory).child s!"{name}.json"
  | .shields _ directory =>
      SpriteStore.ratios.flatMap fun ratio =>
        [SpriteStore.indexPath, SpriteStore.imagePath].map fun file =>
          file (.ofText directory) ratio
  | .mapConfig _ output => (StyleUrls.given? output).toList.map Path.ofText
  | .list | .check .. => []

def usage : String :=
  "usage: map-style [-h] [-v] \x7bbuild,all,list,shields,map-config,check\x7d ...\n"

/-- Runs a command on the files it can see. -/
def run (surroundings : Surroundings) (invocation : Invocation F) (files : FileTree) :
    Result F (Report F) × FileTree :=
  let (outcome, session) := (perform surroundings invocation).runOn files
  let report : Result F (Report F) :=
    match outcome with
    | .ok ending => .ok ⟨ending.code, session.printed, "", ending.aside, ending.requests⟩
    | .error fault =>
        if fault.isTold then
          let aside := if invocation.verbose then Aside.trace else .nothing
          .ok ⟨1, session.printed, s!"✗ Error: {fault.told}\n", aside, []⟩
        else .error fault
  (report, session.files)

/-- Runs a command line on the files it can see. -/
def runLine (surroundings : Surroundings) (arguments : List String) (files : FileTree) :
    Result F (Report F) × FileTree :=
  match (read arguments : CommandLine F) with
  | .help => (.ok ⟨0, usage, "", .nothing, []⟩, files)
  | .misuse => (.ok ⟨2, "", usage, .usage, []⟩, files)
  | .run invocation => run surroundings invocation files

end Command

end MapStyle
