import MapStyle.Text

/-!
# Options of a command

The words of a command line are options or stand alone. An option is written in one of its forms:
a long one behind two hyphens, of which the beginning is enough if no other option has it too, or
a short one, a hyphen and a letter. The value of an option is attached to it or is the next word,
and short options without values may share one hyphen.
-/

namespace MapStyle.Command

set_option autoImplicit false

open MapStyle.Text

structure OptionKind where
  name : String
  forms : List String
  takesValue : Bool
  deriving DecidableEq, Repr

/-- What follows the form of an option in one word: nothing, a text, or an equals sign and a
text. -/
inductive Attached where
  | nothing
  | text (value : String)
  | assigned (value : String)
  deriving DecidableEq, Repr

/-- An option as it was found: in which form, and what is attached to it. -/
structure Found where
  kind : OptionKind
  form : String
  attached : Attached
  deriving DecidableEq, Repr

inductive Word where
  | plain (text : String)
  | separator
  | option (found : Found)
  | unknown
  deriving DecidableEq, Repr

/-- What a word or two mean: an option is set, with a value or without one; a word has no
meaning; or a command line cannot go on like that. -/
inductive Meaning where
  | set (name : String) (value : Option String)
  | stray
  | misuse
  deriving DecidableEq, Repr

/-- The word behind which all words stand alone. -/
def separatorText : String := "--"

def withForm? (options : List OptionKind) (form : String) : Option OptionKind :=
  options.find? fun option => option.forms.contains form

/-- The text before the first equals sign and the text behind it. -/
def splitAtEquals? (text : String) : Option (String × String) :=
  let characters := text.toList
  let before := characters.takeWhile (· ≠ '=')
  match characters.drop before.length with
  | [] => none
  | _ :: behind => some (String.ofList before, String.ofList behind)

def isLong (text : String) : Bool :=
  "--".toList.isPrefixOf text.toList

/-- The options whose long form begins with a text, up to an equals sign. -/
def longMatches (options : List OptionKind) (text : String) : List Found :=
  let (beginning, attached) :=
    match splitAtEquals? text with
    | some (before, behind) => (before, Attached.assigned behind)
    | none => (text, .nothing)
  options.flatMap fun kind =>
    (kind.forms.filter fun form => beginning.toList.isPrefixOf form.toList).map
      fun form => ⟨kind, form, attached⟩

/-- The option whose short form begins a text, with the rest of the text attached. -/
def shortMatches (options : List OptionKind) (text : String) : List Found :=
  let form := String.ofList (text.toList.take 2)
  ((withForm? options form).map fun kind =>
    ⟨kind, form, .text (String.ofList (text.toList.drop 2))⟩).toList

/-- All options that a text may stand for. -/
def candidates (options : List OptionKind) (text : String) : List Found :=
  match withForm? options text with
  | some kind => [⟨kind, text, .nothing⟩]
  | none =>
      match splitAtEquals? text with
      | some (form, attached) =>
          match withForm? options form with
          | some kind => [⟨kind, form, .assigned attached⟩]
          | none => if isLong text then longMatches options text else shortMatches options text
      | none => if isLong text then longMatches options text else shortMatches options text

/-- Digits behind a hyphen, with or without a fraction: such a word is no option. -/
def isNegativeNumber (text : String) : Bool :=
  match text.toList with
  | '-' :: rest =>
      let whole := rest.takeWhile isDigit
      match rest.drop whole.length with
      | [] => !whole.isEmpty
      | '.' :: fraction => !fraction.isEmpty && fraction.all isDigit
      | _ => false
  | _ => false

/-- What a text that begins with a hyphen is; none if it may be several options. -/
def hyphenated? (options : List OptionKind) (text : String) : Option Word :=
  match candidates options text with
  | [found] => some (.option found)
  | [] =>
      if isNegativeNumber text || text.toList.contains ' ' then some (.plain text)
      else some .unknown
  | _ => none

/-- The words of a command line; none if one of them may be several options. -/
def words? (options : List OptionKind) : List String → Option (List Word)
  | [] => some []
  | text :: rest =>
      if text = separatorText then some (.separator :: rest.map .plain)
      else do
        let word ←
          if text.toList.head? = some '-' ∧ text ≠ "-" then hyphenated? options text
          else some (.plain text)
        return word :: (← words? options rest)

/-- What options mean, and the option that still waits for its value. -/
abbrev Partial := List Meaning × Option OptionKind

/-- The options that share one hyphen with an option, up to a letter that is none: from there on
the word has no meaning. Nothing can be assigned to an option without a value. -/
def shared? (options : List OptionKind) : OptionKind → List Char → Option Partial
  | kind, [] => if kind.takesValue then some ([], some kind) else some ([.set kind.name none], none)
  | kind, letter :: rest =>
      if kind.takesValue then
        some ([.set kind.name (some (String.ofList (letter :: rest)))], none)
      else if letter = '=' ∨ letter = '-' then none
      else
        match withForm? options (String.ofList ['-', letter]) with
        | none => some ([.set kind.name none, .stray], none)
        | some next =>
            (shared? options next rest).map fun (meanings, waiting) =>
              (.set kind.name none :: meanings, waiting)

/-- What an option means with what is attached to it. -/
def meaning? (options : List OptionKind) (found : Found) : Option Partial :=
  match found.attached, found.kind.takesValue with
  | .nothing, _ => shared? options found.kind []
  | .text value, true | .assigned value, true => some ([.set found.kind.name (some value)], none)
  | .text value, false => shared? options found.kind value.toList
  | .assigned _, false => none

/-- What the words of a command line mean, up to the first mistake. -/
def meanings (options : List OptionKind) : List Word → List Meaning
  | [] => []
  | .option found :: rest =>
      match meaning? options found with
      | none => [.misuse]
      | some (known, none) => known ++ meanings options rest
      | some (known, some waiting) =>
          match rest with
          | .plain value :: tail =>
              known ++ .set waiting.name (some value) :: meanings options tail
          | _ => [.misuse]
  | _ :: rest => .stray :: meanings options rest

end MapStyle.Command
