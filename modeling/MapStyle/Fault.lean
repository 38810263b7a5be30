import MapStyle.Expr.Error
import MapStyle.Json.Reader
import MapStyle.Number
import MapStyle.Text.Quoted
import MapStyle.Theme.Error

/-!
# Everything that can go wrong

Compiling a style or drawing a sprite sheet either succeeds or ends with one fault. Each area has
its own causes; a fault is a cause of one of them.
-/

namespace MapStyle

set_option autoImplicit false

/-! ### Mistakes in layers

Why a layer is not drawn: it lacks an id or a source, its kind is unknown, or the settings of its
domain contradict one another. -/

inductive LayerError (F : Type) where
  | emptyId
  | unknownKind (kind id : String) (available : List String)
  | backgroundSource (id : String)
  | noSource (id : String)
  | contourRange (id : String) (least largest : Number F)
  | tooFewTextSizes (found : Nat)
  | tooManyTextSizes
  | duplicateIds (ids : List String)
  | unknownHemisphere (kind : String)

/-- The number of entries of a text size: two zooms, each followed by a size. -/
def textSizeEntries : Nat := 4

def LayerError.message {F : Type} [Arithmetic F] : LayerError F → String
  | .emptyId => "Layer id must not be empty"
  | .unknownKind kind id available =>
      let names := ", ".intercalate (available.map fun name => s!"'{name}'")
      s!"Unknown layer type '{kind}' for {id}. Available: [{names}]"
  | .backgroundSource id => s!"Background layer {id} cannot have a source"
  | .noSource id => s!"Layer {id} needs a source"
  | .contourRange id least largest =>
      s!"{id}: min_zoom {least.text} must be below contours max_zoom {largest.text}"
  | .tooFewTextSizes found =>
      s!"not enough values to unpack (expected {textSizeEntries}, got {found})"
  | .tooManyTextSizes => s!"too many values to unpack (expected {textSizeEntries})"
  | .duplicateIds ids => "Duplicate layer ids: " ++ ", ".intercalate ids
  | .unknownHemisphere kind => kind

/-! ### Mistakes in sprite sheets

Why shields are not drawn: the theme has none to draw, a shield is of an unknown kind or has a
colour that cannot be drawn, an index does not tell where its sprites are, or there is nothing
that a sheet could be made of. -/

inductive SpriteError where
  | unknownKind (kind : String)
  | notHex (colour : String)
  | notConfigured (theme : String)
  | disabled (theme : String)
  | noneEnabled (theme : String)
  | noIndex
  | noEntry
  | noCoordinate (field : String)
  | noNumber (field : String)
  | emptySheet
  | emptyImage
  | pixelOutside
  deriving DecidableEq, Repr

def SpriteError.message : SpriteError → String
  | .unknownKind kind => s!"Unknown shield kind: {Text.quoted kind}"
  | .notHex colour => s!"unknown color specifier: {Text.quoted colour}"
  | .notConfigured theme => s!"Theme {Text.quoted theme} has no shields configured"
  | .disabled theme => s!"Theme {Text.quoted theme} has shields disabled"
  | .noneEnabled theme => s!"Theme {Text.quoted theme} has no shields enabled"
  | .noIndex => "a sprite index is an object"
  | .noEntry => "an entry of a sprite index is an object"
  | .noCoordinate field => field
  | .noNumber field => s!"{field} is a number"
  | .emptySheet => "max() arg is an empty sequence"
  | .emptyImage => "tile cannot extend outside image"
  | .pixelOutside => "image index out of range"

/-! ### Mistakes with files

The reasons for which a file or directory cannot be read, written or made, with their numbers and
the path as it was given. -/

inductive FileCause where
  | notFound
  | exists
  | notDirectory
  | isDirectory
  | nameTooLong
  deriving DecidableEq, Repr

inductive FileError where
  | refused (cause : FileCause) (path : String)
  | notImage (path : String)
  | notText
  deriving DecidableEq, Repr

def FileCause.number : FileCause → Nat
  | .notFound => 2
  | .exists => 17
  | .notDirectory => 20
  | .isDirectory => 21
  | .nameTooLong => 36

def FileCause.words : FileCause → String
  | .notFound => "No such file or directory"
  | .exists => "File exists"
  | .notDirectory => "Not a directory"
  | .isDirectory => "Is a directory"
  | .nameTooLong => "File name too long"

def FileError.message : FileError → String
  | .refused cause path => s!"[Errno {cause.number}] {cause.words}: {Text.quoted path}"
  | .notImage path => s!"cannot identify image file {Text.quoted path}"
  | .notText => "'utf-8' codec can't decode byte 0x89 in position 0: invalid start byte"

/-! ### Faults -/

inductive Fault (F : Type) where
  | number (cause : NumberError)
  | expression (cause : ExprError F)
  | theme (cause : ThemeError F)
  | layer (cause : LayerError F)
  | sprite (cause : SpriteError)
  | file (cause : FileError)
  | json (cause : Json.ReadError)

/-- The outcome of a step of the compiler. -/
abbrev Result (F α : Type) := Except (Fault F) α

/-- The kinds of mistake. Those of the first four kinds are mistakes of whoever asks for a style,
and a program tells them so; the others lie in the numbers and files it was given. -/
inductive Nature where
  | invalid
  | malformed
  | absent
  | file (cause : FileError)
  | tooLarge
  | division
  | outside
  | unfit
  deriving DecidableEq, Repr

def NumberError.nature : NumberError → Nature
  | .divisionByZero => .division
  | .undefinedHasNoInteger | .tooManyDigits _ => .invalid
  | _ => .tooLarge

def SpriteError.nature : SpriteError → Nature
  | .noCoordinate _ => .absent
  | .pixelOutside => .outside
  | .noIndex | .noEntry | .noNumber _ | .emptyImage => .unfit
  | _ => .invalid

namespace Fault

variable {F : Type}

def nature : Fault F → Nature
  | .number cause => cause.nature
  | .expression .unorderedBreakpoints => .unfit
  | .expression _ => .invalid
  | .theme (.noCategory _) | .theme (.unknownPreset _ _) => .absent
  | .theme (.missing _) | .theme (.wrongType _) => .unfit
  | .theme _ => .invalid
  | .layer (.unknownHemisphere _) => .absent
  | .layer _ => .invalid
  | .sprite cause => cause.nature
  | .file .notText => .malformed
  | .file cause => .file cause
  | .json _ => .malformed

/-- Whether the fault is told in one line to whoever runs the program. -/
def isTold (fault : Fault F) : Bool :=
  match fault.nature with
  | .invalid | .malformed | .absent | .file _ => true
  | _ => false

def message [Arithmetic F] : Fault F → String
  | .number cause => cause.message
  | .expression cause => cause.message
  | .theme cause => cause.message
  | .layer cause => cause.message
  | .sprite cause => cause.message
  | .file cause => cause.message
  | .json cause => cause.message

/-- The message as it is told: what was looked up in vain stands there as a quoted text. -/
def told [Arithmetic F] (fault : Fault F) : String :=
  if fault.nature = .absent then Text.quoted fault.message else fault.message

end Fault

namespace Result

variable {F α : Type}

/-- A computation with numbers as a step of the compiler. -/
def ofNumber : Except NumberError α → Result F α
  | .ok value => .ok value
  | .error cause => .error (.number cause)

instance : MonadLift (Except NumberError) (Except (Fault F)) := ⟨ofNumber⟩

def ofTheme (cause : ThemeError F) : Result F α :=
  .error (.theme cause)

def ofExpr (cause : ExprError F) : Result F α :=
  .error (.expression cause)

/-- The value of a setting that a step cannot do without. -/
def require (setting : String) : Option α → Result F α
  | some value => .ok value
  | none => ofTheme (.missing setting)

end Result

end MapStyle
