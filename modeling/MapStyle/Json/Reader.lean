import MapStyle.Entries
import MapStyle.Json.Token

/-!
# Reading JSON texts

The tokens of a text are consumed one by one by a machine that keeps the open lists and objects.
What the machine expects next decides how a wrong token is reported.
-/

namespace MapStyle.Json

set_option autoImplicit false

inductive ReadCause where
  | value
  | key
  | colon
  | comma
  | extra
  | byteOrderMark
  | text (fault : TextFault)
  deriving DecidableEq, Repr

/-- What could not be read, and where: an offset, and a line and a column counted from one. -/
structure ReadError where
  cause : ReadCause
  line : Nat
  column : Nat
  offset : Nat
  deriving DecidableEq, Repr

def ReadCause.message : ReadCause → String
  | .value => "Expecting value"
  | .key => "Expecting property name enclosed in double quotes"
  | .colon => "Expecting ':' delimiter"
  | .comma => "Expecting ',' delimiter"
  | .extra => "Extra data"
  | .byteOrderMark => "Unexpected UTF-8 BOM (decode using utf-8-sig)"
  | .text .unterminated => "Unterminated string starting at"
  | .text .controlCharacter => "Invalid control character at"
  | .text .badEscape => "Invalid \\escape"
  | .text .badUnicodeEscape => "Invalid \\uXXXX escape"

def ReadError.message (error : ReadError) : String :=
  s!"{error.cause.message}: line {error.line} column {error.column} (char {error.offset})"

/-- An open list, or an open object with the key whose value comes next. The newest parts come
first. -/
inductive Frame (F : Type) where
  | list (items : List (Json F))
  | object (entries : List (String × Json F)) (key : String)

/-- What may come next. -/
inductive Expected (F : Type) where
  | value
  | valueOrClosing
  | key (entries : List (String × Json F))
  | keyOrClosing
  | colon (entries : List (String × Json F)) (key : String)
  | delimiter
  | nothing (result : Json F)

structure Machine (F : Type) where
  frames : List (Frame F)
  expected : Expected F

variable {F : Type}

/-- A value is complete: it becomes the result, or a part of the innermost open frame. -/
def Machine.complete (frames : List (Frame F)) (value : Json F) : Machine F :=
  match frames with
  | [] => ⟨[], .nothing value⟩
  | .list items :: rest => ⟨.list (value :: items) :: rest, .delimiter⟩
  | .object entries key :: rest => ⟨.object ((key, value) :: entries) key :: rest, .delimiter⟩

def closed (entries : List (String × Json F)) : Json F :=
  .object (Entries.merge entries.reverse)

def Machine.acceptValue (machine : Machine F) (token : Token F) : Except ReadCause (Machine F) :=
  match token with
  | .constant value => .ok (Machine.complete machine.frames value)
  | .text value => .ok (Machine.complete machine.frames (.text value))
  | .brokenText fault _ => .error (.text fault)
  | .mark '[' => .ok ⟨.list [] :: machine.frames, .valueOrClosing⟩
  | .mark '\x7b' => .ok ⟨machine.frames, .keyOrClosing⟩
  | _ => .error .value

def Machine.acceptKey (machine : Machine F) (entries : List (String × Json F))
    (token : Token F) : Except ReadCause (Machine F) :=
  match token with
  | .text key => .ok ⟨machine.frames, .colon entries key⟩
  | .brokenText fault _ => .error (.text fault)
  | _ => .error .key

def Machine.acceptDelimiter (machine : Machine F) (token : Token F) :
    Except ReadCause (Machine F) :=
  match machine.frames, token with
  | .list items :: rest, .mark ']' => .ok (Machine.complete rest (.list items.reverse))
  | .list _ :: _, .mark ',' => .ok ⟨machine.frames, .value⟩
  | .object entries _ :: rest, .mark '\x7d' => .ok (Machine.complete rest (closed entries))
  | .object entries _ :: rest, .mark ',' => .ok ⟨rest, .key entries⟩
  | _, _ => .error .comma

def Machine.step (machine : Machine F) (token : Token F) : Except ReadCause (Machine F) :=
  match machine.expected with
  | .value => machine.acceptValue token
  | .valueOrClosing =>
      match machine.frames, token with
      | .list _ :: rest, .mark ']' => .ok (Machine.complete rest (.list []))
      | _, _ => machine.acceptValue token
  | .key entries => machine.acceptKey entries token
  | .keyOrClosing =>
      match token with
      | .mark '\x7d' => .ok (Machine.complete machine.frames (.object []))
      | _ => machine.acceptKey [] token
  | .colon entries key =>
      match token with
      | .mark ':' => .ok ⟨.object entries key :: machine.frames, .value⟩
      | _ => .error .colon
  | .delimiter => machine.acceptDelimiter token
  | .nothing _ => .error .extra

/-- What is missing when the text ends. -/
def Machine.finish (machine : Machine F) : Except ReadCause (Json F) :=
  match machine.expected with
  | .nothing result => .ok result
  | .value | .valueOrClosing => .error .value
  | .key _ | .keyOrClosing => .error .key
  | .colon _ _ => .error .colon
  | .delimiter => .error .comma

def Token.position (start : Nat) : Token F → Nat
  | .brokenText _ position => position
  | _ => start

def locate (characters : List Char) (cause : ReadCause) (offset : Nat) : ReadError :=
  let before := characters.take offset
  let line := before.count '\n' + 1
  let column := (before.reverse.takeWhile fun character => character ≠ '\n').length + 1
  ⟨cause, line, column, offset⟩

variable [Arithmetic F]

/-- Runs the machine; an error comes with the offset at which it is reported. -/
def readTokens (length : Nat) : Machine F → List (Nat × Token F) → Except (ReadCause × Nat) (Json F)
  | machine, [] => machine.finish.mapError fun cause => (cause, length)
  | machine, (start, token) :: rest =>
      match machine.step token with
      | .ok next => readTokens length next rest
      | .error (.text fault) => .error (.text fault, token.position start)
      | .error cause => .error (cause, start)

def read (source : String) : Except ReadError (Json F) :=
  let characters := source.toList
  let outcome :=
    if characters.head? = some '\ufeff' then .error (.byteOrderMark, 0)
    else readTokens characters.length ⟨[], .value⟩ (tokens 0 characters)
  outcome.mapError fun (cause, offset) => locate characters cause offset

end MapStyle.Json
