import MapStyle.Json
import MapStyle.Text

/-!
# Tokens of a JSON text

A text is cut into marks, texts, numbers and constants, each with the position of its first
character. A text that cannot be read becomes a token of its own, so that whether and how it is
an error is decided where the token is used.
-/

namespace MapStyle.Json

set_option autoImplicit false

open MapStyle.Text

/-- What is wrong with a text between quotation marks. -/
inductive TextFault where
  | unterminated
  | controlCharacter
  | badEscape
  | badUnicodeEscape
  deriving DecidableEq, Repr

inductive Token (F : Type) where
  | mark (character : Char)
  | text (value : String)
  | constant (value : Json F)
  | brokenText (fault : TextFault) (position : Nat)
  | stray

def isJsonBlank (character : Char) : Bool :=
  character = ' ' || character = '\t' || character = '\n' || character = '\r'

/-- Code units with every pair of a high and a low surrogate joined. A surrogate that stands alone
becomes the replacement character. -/
def joinSurrogates : List Nat → List Char
  | [] => []
  | [unit] => [Char.ofNat (if 0xd800 ≤ unit ∧ unit < 0xe000 then 0xfffd else unit)]
  | unit :: next :: rest =>
      if 0xd800 ≤ unit ∧ unit < 0xdc00 ∧ 0xdc00 ≤ next ∧ next < 0xe000 then
        Char.ofNat (0x10000 + (unit - 0xd800) * 0x400 + (next - 0xdc00)) :: joinSurrogates rest
      else
        Char.ofNat (if 0xd800 ≤ unit ∧ unit < 0xe000 then 0xfffd else unit) ::
          joinSurrogates (next :: rest)

def simpleEscape? (character : Char) : Option Nat :=
  match character with
  | '"' => some 34
  | '\\' => some 92
  | '/' => some 47
  | 'b' => some 8
  | 'f' => some 12
  | 'n' => some 10
  | 'r' => some 13
  | 't' => some 9
  | _ => none

def unit? (first second third fourth : Char) : Option Nat :=
  let digits := [first, second, third, fourth]
  if digits.all isLatinHexDigit then
    some (digits.foldl (fun value digit => 16 * value + (hexDigitValue? digit).getD 0) 0)
  else none

/-- Reads the rest of a text, whose opening mark lies at offset zero. The result is its code units
in reverse order and the offset behind its closing mark, or a fault and its offset. -/
def scanText (offset : Nat) (units : List Nat) :
    List Char → Except (TextFault × Nat) (List Nat × Nat)
  | [] => .error (.unterminated, 0)
  | '"' :: _ => .ok (units, offset + 1)
  | ['\\'] => .error (.unterminated, 0)
  | '\\' :: 'u' :: first :: second :: third :: fourth :: next :: rest =>
      match unit? first second third fourth with
      | some unit => scanText (offset + 6) (unit :: units) (next :: rest)
      | none => .error (.badUnicodeEscape, offset + 1)
  | '\\' :: 'u' :: _ => .error (.badUnicodeEscape, offset + 1)
  | '\\' :: character :: rest =>
      match simpleEscape? character with
      | some unit => scanText (offset + 2) (unit :: units) rest
      | none => .error (.badEscape, offset)
  | character :: rest =>
      if character.toNat < 32 then .error (.controlCharacter, offset)
      else scanText (offset + 1) (character.toNat :: units) rest

def isLatinDigit (character : Char) : Bool :=
  48 ≤ character.toNat && character.toNat ≤ 57

/-- The digits after a point, if there are any, and what follows them. -/
def fractionPart : List Char → List Char × List Char
  | '.' :: rest =>
      let digits := rest.takeWhile isLatinDigit
      if digits.isEmpty then ([], '.' :: rest) else (digits, rest.drop digits.length)
  | rest => ([], rest)

/-- The sign and the digits of an exponent, if there is one, and what follows it. -/
def exponentPart (characters : List Char) : Option (Bool × List Char × List Char) :=
  match characters with
  | letter :: rest =>
      if letter = 'e' ∨ letter = 'E' then
        let (negative, unsigned) :=
          match rest with
          | '-' :: tail => (true, tail)
          | '+' :: tail => (false, tail)
          | _ => (false, rest)
        let digits := unsigned.takeWhile isLatinDigit
        if digits.isEmpty then none else some (negative, digits, unsigned.drop digits.length)
      else none
  | [] => none

/-- The value `mantissa · 10 ^ exponent`, negated if asked for. -/
def decimalValue {F : Type} [Arithmetic F] (negative : Bool) (mantissa : Nat) (exponent : Int) :
    F :=
  let magnitude : F :=
    OfScientific.ofScientific mantissa (decide (exponent < 0)) exponent.natAbs
  if negative then -magnitude else magnitude

variable {F : Type} [Arithmetic F]

/-- The number at the beginning of a text and the text behind it. A number with a fraction or an
exponent is fractional. -/
def scanNumber? (characters : List Char) : Option (Number F × List Char) :=
  let (negative, unsigned) :=
    match characters with
    | '-' :: rest => (true, rest)
    | _ => (false, characters)
  let whole :=
    match unsigned with
    | '0' :: _ => ['0']
    | _ => unsigned.takeWhile isLatinDigit
  if whole.isEmpty then none
  else
    let (fraction, afterFraction) := fractionPart (unsigned.drop whole.length)
    match exponentPart afterFraction with
    | some (negativeExponent, digits, rest) =>
        let written : Int := digitsValue digits
        let exponent := (if negativeExponent then -written else written) - fraction.length
        some (.real (decimalValue negative (digitsValue (whole ++ fraction)) exponent), rest)
    | none =>
        let mantissa := digitsValue (whole ++ fraction)
        if fraction.isEmpty then
          some (.int (if negative then -(mantissa : Int) else mantissa), afterFraction)
        else
          some (.real (decimalValue negative mantissa (-(fraction.length : Int))), afterFraction)

/-- The constants by name. The three names of numbers that are not finite are read as well. -/
def constants : List (String × Json F) :=
  let infinite : F := OfScientific.ofScientific 1 false 1000
  [("null", .null), ("true", .bool true), ("false", .bool false),
    ("NaN", .number (.real (infinite - infinite))), ("Infinity", .number (.real infinite)),
    ("-Infinity", .number (.real (-infinite)))]

def isMark (character : Char) : Bool :=
  "[]\x7b\x7d,:".toList.contains character

/-- The first token of a text that begins with `character`, and the number of characters it takes
from `rest`. -/
def firstToken (position : Nat) (character : Char) (rest : List Char) : Token F × Nat :=
  if character = '"' then
    match scanText 1 [] rest with
    | .ok (units, offset) =>
        (.text (String.ofList (joinSurrogates units.reverse)), offset - 1)
    | .error (fault, offset) => (.brokenText fault (position + offset), rest.length)
  else if isMark character then (.mark character, 0)
  else
    let characters := character :: rest
    match (constants (F := F)).find? fun entry => entry.1.toList.isPrefixOf characters with
    | some (name, value) => (.constant value, name.length - 1)
    | none =>
        match scanNumber? characters with
        | some (found, behind) => (.constant (.number found), rest.length - behind.length)
        | none => (.stray, 0)

/-- The tokens of a text, each with its position. -/
def tokens (position : Nat) : List Char → List (Nat × Token F)
  | [] => []
  | character :: rest =>
      if isJsonBlank character then tokens (position + 1) rest
      else
        let (token, taken) := firstToken position character rest
        (position, token) :: tokens (position + 1 + taken) (rest.drop taken)
termination_by characters => characters.length

end MapStyle.Json
