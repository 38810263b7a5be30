import MapStyle.Json
import MapStyle.Text
import MapStyle.Text.Quoted

/-!
# Values as texts

A value of a theme has two layouts as JSON: on one line, with a blank after every comma and colon,
and indented by two blanks a level. Texts hold basic Latin characters only; any other character is
escaped, as a pair of surrogates where one escape cannot hold it. Inside a message texts are quoted
and nothing, truth and falsehood have names.
-/

namespace MapStyle.Json

set_option autoImplicit false

open MapStyle.Text

def unitEscape (unit : Nat) : List Char :=
  '\\' :: 'u' :: (hexText 4 unit).toList

def escapedCharacter (character : Char) : List Char :=
  let code := character.toNat
  if character = '"' then ['\\', '"']
  else if character = '\\' then ['\\', '\\']
  else if character = '\n' then ['\\', 'n']
  else if character = '\r' then ['\\', 'r']
  else if character = '\t' then ['\\', 't']
  else if code = 8 then ['\\', 'b']
  else if code = 12 then ['\\', 'f']
  else if 32 ≤ code ∧ code < 127 then [character]
  else if code < 0x10000 then unitEscape code
  else
    unitEscape (0xd800 + (code - 0x10000) / 0x400) ++
      unitEscape (0xdc00 + (code - 0x10000) % 0x400)

def escaped (text : String) : String :=
  String.ofList ('"' :: (text.toList.flatMap escapedCharacter ++ ['"']))

variable {F : Type} [Arithmetic F]

def realText (value : F) : String :=
  if Arithmetic.isFinite value then Arithmetic.text value
  else if Arithmetic.lt 0.0 value then "Infinity"
  else if Arithmetic.lt value 0.0 then "-Infinity"
  else "NaN"

def numberText : Number F → String
  | .flag value => if value then "true" else "false"
  | .int value => toString value
  | .real value => realText value

mutual

/-- The value on one line. -/
def compact : Json F → String
  | .null => "null"
  | .number value => numberText value
  | .text value => escaped value
  | .list items => "[" ++ ", ".intercalate (compactItems items) ++ "]"
  | .object entries => "\x7b" ++ ", ".intercalate (compactEntries entries) ++ "\x7d"
termination_by structural value => value

def compactItems : List (Json F) → List String
  | [] => []
  | item :: rest => compact item :: compactItems rest
termination_by structural items => items

def compactEntries : List (String × Json F) → List String
  | [] => []
  | (key, value) :: rest => (escaped key ++ ": " ++ compact value) :: compactEntries rest
termination_by structural entries => entries

end

def lineBreak (depth : Nat) : String :=
  String.ofList ('\n' :: List.replicate (2 * depth) ' ')

/-- Parts on lines of their own between two brackets, which stand alone if there are no parts. -/
def block (opening closing : String) (depth : Nat) (parts : List String) : String :=
  if parts.isEmpty then opening ++ closing
  else
    opening ++ lineBreak (depth + 1) ++ ("," ++ lineBreak (depth + 1)).intercalate parts ++
      lineBreak depth ++ closing

mutual

/-- The value with one line for every element of a list or an object. -/
def indented (depth : Nat) : Json F → String
  | .null => "null"
  | .number value => numberText value
  | .text value => escaped value
  | .list items => block "[" "]" depth (indentedItems (depth + 1) items)
  | .object entries => block "\x7b" "\x7d" depth (indentedEntries (depth + 1) entries)
termination_by structural value => value

def indentedItems (depth : Nat) : List (Json F) → List String
  | [] => []
  | item :: rest => indented depth item :: indentedItems depth rest
termination_by structural items => items

def indentedEntries (depth : Nat) : List (String × Json F) → List String
  | [] => []
  | (key, value) :: rest =>
      (escaped key ++ ": " ++ indented depth value) :: indentedEntries depth rest
termination_by structural entries => entries

end

/-! ### Values inside messages -/

mutual

def described : Json F → String
  | .null => "None"
  | .number value => value.text
  | .text value => Text.quoted value
  | .list items => "[" ++ ", ".intercalate (describedItems items) ++ "]"
  | .object entries => "\x7b" ++ ", ".intercalate (describedEntries entries) ++ "\x7d"
termination_by structural value => value

def describedItems : List (Json F) → List String
  | [] => []
  | item :: rest => described item :: describedItems rest
termination_by structural items => items

def describedEntries : List (String × Json F) → List String
  | [] => []
  | (key, value) :: rest => (Text.quoted key ++ ": " ++ described value) :: describedEntries rest
termination_by structural entries => entries

end

/-- A value inside a sentence: a text stands there without quotes. -/
def plain : Json F → String
  | .text value => value
  | value => value.described

end MapStyle.Json
