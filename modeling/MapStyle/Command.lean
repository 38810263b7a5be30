import MapStyle.Command.Option
import MapStyle.Number.Reader

/-!
# Commands

What a command line asks for. A command line starts with options for every command; then comes
the name of a command, and then the options of that command. Where an option is given more than
once, the last one counts.
-/

namespace MapStyle

set_option autoImplicit false

/-- The options by which the addresses of a style are chosen. -/
structure UrlOptions where
  environment : Option String
  dataUrl : Option String
  placesUrl : Option String
  deriving DecidableEq, Repr

inductive Command (F : Type) where
  | build (preset : String) (output : Option String) (urls : UrlOptions)
  | all (directory : String) (urls : UrlOptions)
  | list
  | shields (preset directory : String)
  | mapConfig (preset : String) (output : Option String)
  | check (preset : String) (timeout : Number F) (progress : Bool) (urls : UrlOptions)

/-- A command, and whether it is to tell more than usual. -/
structure Invocation (F : Type) where
  verbose : Bool
  command : Command F

/-- A command line either runs a command, asks for help, or is wrong. -/
inductive CommandLine (F : Type) where
  | run (invocation : Invocation F)
  | help
  | misuse

inductive CommandName where
  | build
  | all
  | list
  | shields
  | mapConfig
  | check
  deriving DecidableEq, Repr

namespace CommandName

def every : List CommandName := [.build, .all, .list, .shields, .mapConfig, .check]

def text : CommandName → String
  | .build => "build"
  | .all => "all"
  | .list => "list"
  | .shields => "shields"
  | .mapConfig => "map-config"
  | .check => "check"

def ofText? (text : String) : Option CommandName :=
  every.find? fun command => command.text == text

end CommandName

namespace Command

/-! ### Options -/

def help : OptionKind := ⟨"help", ["-h", "--help"], false⟩

def verbose : OptionKind := ⟨"verbose", ["-v", "--verbose"], false⟩

def preset : OptionKind := ⟨"preset", ["--preset", "-p"], true⟩

def output : OptionKind := ⟨"output", ["--output", "-o"], true⟩

def outputDirectory : OptionKind := ⟨"output directory", ["--output-dir", "-o"], true⟩

def spritesDirectory : OptionKind := ⟨"sprites directory", ["--sprites-dir"], true⟩

def timeout : OptionKind := ⟨"timeout", ["--timeout"], true⟩

def noProgress : OptionKind := ⟨"no progress", ["--no-progress"], false⟩

def environment : OptionKind := ⟨"environment", ["--env"], true⟩

def dataUrl : OptionKind := ⟨"data", ["--data-url"], true⟩

def placesUrl : OptionKind := ⟨"places", ["--places-url"], true⟩

def urlOptions : List OptionKind := [environment, dataUrl, placesUrl]

/-- The options that come before the name of a command. -/
def commonOptions : List OptionKind := [help, verbose]

def options : CommandName → List OptionKind
  | .build => [help, preset, output] ++ urlOptions
  | .all => [help, outputDirectory] ++ urlOptions
  | .list => [help]
  | .shields => [help, preset, spritesDirectory]
  | .mapConfig => [help, preset, output]
  | .check => [help, preset, timeout, noProgress] ++ urlOptions

/-- The environments that an option may name. -/
def environments : List String := ["local", "production"]

def standardPreset : String := "monochrome"

def standardDirectory : String := "dist/styles"

def standardSprites : String := "sprites"

/-! ### Settings -/

/-- The options that are set, by name, the last one first. -/
abbrev Settings := List (String × Option String)

namespace Settings

def isSet (settings : Settings) (option : OptionKind) : Bool :=
  settings.any fun entry => entry.1 == option.name

def value? (settings : Settings) (option : OptionKind) : Option String :=
  (settings.lookup option.name).join

def urls (settings : Settings) : UrlOptions where
  environment := settings.value? environment
  dataUrl := settings.value? dataUrl
  placesUrl := settings.value? placesUrl

end Settings

/-- Options as they are collected; a word without a meaning does not keep a later one from asking
for help. -/
structure Collected where
  settings : Settings
  strays : Bool

inductive Collection where
  | complete (collected : Collected)
  | help
  | misuse

variable {F : Type} [Arithmetic F]

/-- Whether an option takes a value. -/
def accepts (F : Type) [Arithmetic F] (name : String) (value : Option String) : Bool :=
  match value with
  | none => true
  | some text =>
      if name = environment.name then environments.contains text
      else if name = timeout.name then (Number.readReal? (F := F) text).isSome
      else true

/-- Collects options until one asks for help or is wrong. -/
def collect (F : Type) [Arithmetic F] (collected : Collected) : List Meaning → Collection
  | [] => .complete collected
  | .misuse :: _ => .misuse
  | .stray :: rest => collect F { collected with strays := true } rest
  | .set name value :: rest =>
      if name = help.name then .help
      else if accepts F name value then
        collect F { collected with settings := (name, value) :: collected.settings } rest
      else .misuse

/-- The command of a name with its settings. -/
def ofSettings (name : CommandName) (settings : Settings) : Command F :=
  let presetName := (settings.value? preset).getD standardPreset
  match name with
  | .build => .build presetName (settings.value? output) settings.urls
  | .all => .all ((settings.value? outputDirectory).getD standardDirectory) settings.urls
  | .list => .list
  | .shields => .shields presetName ((settings.value? spritesDirectory).getD standardSprites)
  | .mapConfig => .mapConfig presetName (settings.value? output)
  | .check =>
      let seconds := ((settings.value? timeout).bind Number.readReal?).map Number.real
      .check presetName (seconds.getD 10) (!settings.isSet noProgress) settings.urls

def isPlain : Word → Bool
  | .plain _ => true
  | _ => false

def isSeparator : Word → Bool
  | .separator => true
  | _ => false

/-- Reads the options of a command. -/
def readOptions (name : CommandName) (common : Collected) (arguments : List String) :
    CommandLine F :=
  match words? (options name) arguments with
  | none => .misuse
  | some words =>
      match collect F ⟨[], common.strays⟩ (meanings (options name) words) with
      | .help => .help
      | .misuse => .misuse
      | .complete collected =>
          if collected.strays then .misuse
          else .run ⟨common.settings.isSet verbose, ofSettings name collected.settings⟩

/-- Reads a command line. Without a command it asks for help. -/
def read (arguments : List String) : CommandLine F :=
  match words? commonOptions arguments with
  | none => .misuse
  | some words =>
      let before := words.takeWhile fun word => !isPlain word && !isSeparator word
      match collect F ⟨[], false⟩ (meanings commonOptions before) with
      | .help => .help
      | .misuse => .misuse
      | .complete common =>
          match arguments.drop before.length with
          | [] => if common.strays then .misuse else .help
          | text :: rest =>
              match CommandName.ofText? text with
              | some name => readOptions name common rest
              | none => .misuse

end Command

end MapStyle
