/-!
# Characters and texts

What the readers and printers of this library need to know of texts: which characters are blanks
and digits, how a text is escaped inside a URL, and how parts of a text are replaced or taken off.
-/

namespace MapStyle.Text

set_option autoImplicit false

/-! ### Blanks

The characters that are taken off the ends of a text before it is read: white space of any
script, line breaks of any kind and the four information separators. -/

def isBlank (character : Char) : Bool :=
  let code := character.toNat
  (9 ≤ code && code ≤ 13) || (28 ≤ code && code ≤ 32) || code == 0x85 || code == 0xa0 ||
    code == 0x1680 || (0x2000 ≤ code && code ≤ 0x200a) || code == 0x2028 || code == 0x2029 ||
    code == 0x202f || code == 0x205f || code == 0x3000

/-- The blanks that may stand around a number: all but the information separators. -/
def isNumberBlank (character : Char) : Bool :=
  let code := character.toNat
  isBlank character && !(28 ≤ code && code ≤ 31)

/-- A list without the elements at its two ends that satisfy a test. -/
def trimBoth (test : Char → Bool) (characters : List Char) : List Char :=
  ((characters.dropWhile test).reverse.dropWhile test).reverse

def strip (text : String) : List Char :=
  trimBoth isBlank text.toList

theorem isBlank_of_isWhitespace (character : Char) (blank : character.isWhitespace) :
    isBlank character := by
  simp only [Char.isWhitespace, Bool.or_eq_true, decide_eq_true_eq] at blank
  rcases blank with ((h | h) | h) | h <;> subst h <;> decide

/-! ### Digits

Every script with decimal digits has them in ten consecutive code points. The table lists the
zeros, as of version 14 of the character standard. -/

/-- The code points of the digits zero, in ascending order. -/
def zeroDigits : List Nat :=
  [
    48, 1632, 1776, 1984, 2406, 2534, 2662, 2790, 2918, 3046, 3174, 3302, 3430, 3558, 3664, 3792,
    3872, 4160, 4240, 6112, 6160, 6470, 6608, 6784, 6800, 6992, 7088, 7232, 7248, 42528, 43216,
    43264, 43472, 43504, 43600, 44016, 65296, 66720, 68912, 69734, 69872, 69942, 70096, 70384,
    70736, 70864, 71248, 71360, 71472, 71904, 72016, 72784, 73040, 73120, 92768, 92864, 93008,
    120782, 120792, 120802, 120812, 120822, 123200, 123632, 125264, 130032
  ]

/-- The value of a decimal digit of any script. -/
def digitValue? (character : Char) : Option Nat :=
  let code := character.toNat
  if 48 ≤ code ∧ code ≤ 57 then some (code - 48)
  else if code < 128 then none
  else (zeroDigits.find? fun start => start ≤ code && code ≤ start + 9).map
    fun start => code - start

theorem digitValue?_lt {character : Char} {value : Nat}
    (digit : digitValue? character = some value) : value < 10 := by
  simp only [digitValue?] at digit
  split at digit
  · cases digit
    omega
  · split at digit
    · contradiction
    · obtain ⟨start, found, rfl⟩ := Option.map_eq_some_iff.mp digit
      have bounds := List.find?_some found
      simp only [Bool.and_eq_true, decide_eq_true_eq] at bounds
      omega

def isDigit (character : Char) : Bool :=
  (digitValue? character).isSome

/-- The number that a sequence of digits stands for; characters that are no digits count as
zeros. -/
def digitsValue (characters : List Char) : Nat :=
  characters.foldl (fun value character => 10 * value + (digitValue? character).getD 0) 0

/-- The value of a hexadecimal digit: a decimal digit of any script or a Latin letter up to F. -/
def hexDigitValue? (character : Char) : Option Nat :=
  let code := character.toNat
  if 97 ≤ code ∧ code ≤ 102 then some (code - 87)
  else if 65 ≤ code ∧ code ≤ 70 then some (code - 55)
  else digitValue? character

theorem hexDigitValue?_lt {character : Char} {value : Nat}
    (digit : hexDigitValue? character = some value) : value < 16 := by
  simp only [hexDigitValue?] at digit
  split at digit
  · cases digit
    omega
  · split at digit
    · cases digit
      omega
    · have small := digitValue?_lt digit
      omega

/-- A hexadecimal digit of the basic Latin alphabet. -/
def isLatinHexDigit (character : Char) : Bool :=
  character.toNat < 128 && (hexDigitValue? character).isSome

/-- The lower-case hexadecimal digits of a number, filled up with zeros on the left. -/
def hexText (width value : Nat) : String :=
  let digits := Nat.toDigits 16 value
  String.ofList (List.replicate (width - digits.length) '0' ++ digits)

/-! ### Percent encoding

A text inside the path of a URL: letters, digits, the marks that never need an escape and the
slash stand as they are, and every other byte of the text is written as a percent sign and two
upper-case hexadecimal digits. -/

def isUnreserved (byte : Nat) : Bool :=
  (48 ≤ byte && byte ≤ 57) || (65 ≤ byte && byte ≤ 90) || (97 ≤ byte && byte ≤ 122) ||
    byte == 45 || byte == 46 || byte == 47 || byte == 95 || byte == 126

def percentByte (byte : Nat) : String :=
  if isUnreserved byte then String.singleton (Char.ofNat byte)
  else "%" ++ (hexText 2 byte).toUpper

def percentEncode (text : String) : String :=
  String.join (text.toUTF8.toList.map fun byte => percentByte byte.toNat)

/-! ### Replacing, stripping and padding -/

/-- Replaces every occurrence of a pattern, from the left; `skipped` counts the characters that
still belong to the last occurrence. -/
def replaceFrom (pattern replacement : List Char) (skipped : Nat) : List Char → List Char
  | [] => []
  | character :: rest =>
      match skipped with
      | left + 1 => replaceFrom pattern replacement left rest
      | 0 =>
          if pattern.isPrefixOf (character :: rest) then
            replacement ++ replaceFrom pattern replacement (pattern.length - 1) rest
          else character :: replaceFrom pattern replacement 0 rest

/-- The text with every occurrence of a pattern replaced. The pattern is not empty. -/
def replaced (text pattern replacement : String) : String :=
  String.ofList (replaceFrom pattern.toList replacement.toList 0 text.toList)

/-- Whether a text begins with another one. -/
def startsWith (text beginning : String) : Bool :=
  beginning.toList.isPrefixOf text.toList

/-- The text without a beginning that it may have. -/
def withoutBeginning (text beginning : String) : String :=
  if startsWith text beginning then String.ofList (text.toList.drop beginning.length) else text

/-- The text without slashes at its end. -/
def withoutFinalSlashes (text : String) : String :=
  String.ofList (text.toList.reverse.dropWhile (· = '/')).reverse

/-- The text with every line break, of two characters or one, as a single line feed. -/
def unifiedBreaks (text : String) : String :=
  replaced (replaced text "\r\n" "\n") "\r" "\n"

/-- The text with blanks behind it, up to a width. -/
def padded (width : Nat) (text : String) : String :=
  text ++ String.ofList (List.replicate (width - text.length) ' ')

end MapStyle.Text
