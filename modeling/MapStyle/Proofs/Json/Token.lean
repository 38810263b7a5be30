import Mathlib.Data.List.Basic
import MapStyle.Json.Printer
import MapStyle.Json.Token
import MapStyle.Proofs.Json.Numeral
import MapStyle.Proofs.Text.Digit

/-!
# Tokens that have been written

A mark, a text, a constant and a number are each read as one token from the text in which they stand,
as long as the text behind a number does not go on with it.

A text is written with escapes, which stand for the code units of its characters. When it is read,
its code units come back one by one, and pairs of surrogates are joined again.
-/

namespace MapStyle.Json

set_option autoImplicit false

open MapStyle.Text (hexText hexText_digits)

/-! ### Code units -/

section Texts

/-- The four digits of a code unit are read as the code unit. -/
theorem unit?_hexText {unit : Nat} (fits : unit < 0x10000) :
    ∃ first second third fourth, (hexText 4 unit).toList = [first, second, third, fourth] ∧
      unit? first second third fourth = some unit := by
  have room : unit < 16 ^ 4 := fits
  obtain ⟨four, latin, isValue⟩ := hexText_digits (by decide) room
  generalize (hexText 4 unit).toList = digits at four latin isValue
  obtain ⟨first, second, third, fourth, rfl⟩ := List.length_eq_four.mp four
  refine ⟨first, second, third, fourth, rfl, ?_⟩
  rw [unit?, if_pos (List.all_eq_true.mpr latin)]
  exact congrArg some isValue

/-- The code units of a character: a pair of surrogates where one cannot hold it. -/
def units (character : Char) : List Nat :=
  let code := character.toNat
  if code < 0x10000 then [code]
  else [0xd800 + (code - 0x10000) / 0x400, 0xdc00 + (code - 0x10000) % 0x400]

theorem joinSurrogates_single {unit : Nat} (alone : unit < 0xd800 ∨ 0xdfff < unit) (rest : List Nat) :
    joinSurrogates (unit :: rest) = Char.ofNat unit :: joinSurrogates rest := by
  have noSurrogate : ¬(0xd800 ≤ unit ∧ unit < 0xe000) := by omega
  cases rest with
  | nil => simp only [joinSurrogates, if_neg noSurrogate]
  | cons next others => rw [joinSurrogates, if_neg (by omega), if_neg noSurrogate]

theorem joinSurrogates_units (character : Char) (rest : List Nat) :
    joinSurrogates (units character ++ rest) = character :: joinSurrogates rest := by
  have isCode : Char.ofNat character.toNat = character := Char.ofNat_toNat character
  have valid : character.toNat < 0xd800 ∨ 0xdfff < character.toNat ∧ character.toNat < 0x110000 :=
    character.valid
  unfold units
  dsimp only
  split
  · rw [List.singleton_append, joinSurrogates_single (by omega), isCode]
  · have joined : 0x10000 + (0xd800 + (character.toNat - 0x10000) / 0x400 - 0xd800) * 0x400 +
        (0xdc00 + (character.toNat - 0x10000) % 0x400 - 0xdc00) = character.toNat := by
      omega
    rw [List.cons_append, List.singleton_append, joinSurrogates, if_pos (by omega), joined, isCode]

theorem joinSurrogates_flatMap_units (characters : List Char) :
    joinSurrogates (characters.flatMap units) = characters := by
  induction characters with
  | nil => rfl
  | cons character rest ih => rw [List.flatMap_cons, joinSurrogates_units, ih]

/-! ### Escapes -/

variable {offset : Nat} {before : List Nat} {rest : List Char}

/-- An escaped code unit, which is not the last character of a text, is read. -/
theorem scanText_unitEscape {unit : Nat} (fits : unit < 0x10000) (goesOn : rest ≠ []) :
    scanText offset before (unitEscape unit ++ rest) =
      scanText (offset + (unitEscape unit).length) (unit :: before) rest := by
  obtain ⟨first, second, third, fourth, digits, isUnit⟩ := unit?_hexText fits
  obtain ⟨next, others, rfl⟩ := List.exists_cons_of_ne_nil goesOn
  rw [unitEscape, digits]
  show scanText offset before ('\\' :: 'u' :: first :: second :: third :: fourth :: next :: others) = _
  rw [scanText, isUnit]
  rfl

/-- An escape of two characters. -/
theorem scanText_simpleEscape {character : Char} {unit : Nat} (notUnit : character ≠ 'u')
    (isUnit : simpleEscape? character = some unit) :
    scanText offset before ('\\' :: character :: rest) =
      scanText (offset + 2) (unit :: before) rest := by
  rw [scanText, isUnit]
  · simp [notUnit]
  · simp [notUnit]

theorem scanText_plain {character : Char} (notMark : character ≠ '"') (notEscape : character ≠ '\\')
    (notControl : 32 ≤ character.toNat) :
    scanText offset before (character :: rest) =
      scanText (offset + 1) (character.toNat :: before) rest := by
  rw [scanText, if_neg (by omega)]
  · simp [notMark]
  · simp [notEscape]
  · simp [notEscape]
  · simp [notEscape]
  · simp [notEscape]

/-- An escaped character, which is not the last one of a text, is read. -/
theorem scanText_escapedCharacter (character : Char) (goesOn : rest ≠ []) :
    scanText offset before (escapedCharacter character ++ rest) =
      scanText (offset + (escapedCharacter character).length) ((units character).reverse ++ before)
        rest := by
  have valid : character.toNat < 0xd800 ∨ 0xdfff < character.toNat ∧ character.toNat < 0x110000 :=
    character.valid
  have simple {escape : Char} {unit : Nat} (notUnit : escape ≠ 'u')
      (isUnit : simpleEscape? escape = some unit) (isCode : character.toNat = unit)
      (small : unit < 0x10000) :
      scanText offset before (['\\', escape] ++ rest) =
        scanText (offset + 2) ((units character).reverse ++ before) rest := by
    rw [units, isCode, if_pos small]
    exact scanText_simpleEscape notUnit isUnit
  unfold escapedCharacter
  dsimp only
  split_ifs with quotation escape feed carriage tab backspace page plain small
  · exact simple (by decide) rfl (congrArg Char.toNat quotation) (by decide)
  · exact simple (by decide) rfl (congrArg Char.toNat escape) (by decide)
  · exact simple (by decide) rfl (congrArg Char.toNat feed) (by decide)
  · exact simple (by decide) rfl (congrArg Char.toNat carriage) (by decide)
  · exact simple (by decide) rfl (congrArg Char.toNat tab) (by decide)
  · exact simple (by decide) rfl backspace (by decide)
  · exact simple (by decide) rfl page (by decide)
  · rw [units, if_pos (by omega)]
    exact scanText_plain quotation escape plain.1
  · rw [units, if_pos small]
    exact scanText_unitEscape small goesOn
  · rw [units, if_neg small, List.append_assoc, scanText_unitEscape (by omega) (by simp [goesOn]),
      scanText_unitEscape (by omega) goesOn, List.length_append, Nat.add_assoc]
    rfl

/-- A text is read up to the mark behind it. -/
theorem scanText_escaped (characters : List Char) :
    scanText offset before (characters.flatMap escapedCharacter ++ '"' :: rest) =
      .ok ((characters.flatMap units).reverse ++ before,
        offset + (characters.flatMap escapedCharacter).length + 1) := by
  induction characters generalizing offset before with
  | nil =>
      show scanText offset before ('"' :: rest) = _
      rw [scanText]
      rfl
  | cons character others ih =>
      rw [List.flatMap_cons, List.append_assoc, scanText_escapedCharacter character (by simp), ih]
      simp [Nat.add_assoc]

end Texts

variable {F : Type} [Arithmetic F] {position : Nat} {characters rest : List Char}

/-! ### Single tokens -/

/-- Blanks stand for nothing. -/
theorem tokens_blanks (blanks : List Char) (blank : ∀ character ∈ blanks, isJsonBlank character = true) :
    tokens (F := F) position (blanks ++ rest) = tokens (position + blanks.length) rest := by
  induction blanks generalizing position with
  | nil => rfl
  | cons character others ih =>
      obtain ⟨first, othersBlank⟩ := List.forall_mem_cons.mp blank
      rw [List.cons_append, tokens, if_pos first, ih othersBlank, List.length_cons]
      congr 1
      omega

theorem tokens_cons {first : Char} {token : Token F} (notBlank : isJsonBlank first = false)
    (isFirst : firstToken position first (characters ++ rest) = (token, characters.length)) :
    tokens position (first :: characters ++ rest) =
      (position, token) :: tokens (position + 1 + characters.length) rest := by
  rw [List.cons_append, tokens, if_neg (by simp [notBlank]), isFirst]
  dsimp only
  rw [List.drop_left]

/-- What may stand behind a value. -/
def Followed (rest : List Char) : Prop :=
  ∀ character, rest.head? = some character →
    character = ',' ∨ character = '\n' ∨ character = ']' ∨ character = '\x7d'

theorem Followed.nil : Followed [] := by
  intro character impossible
  cases impossible

theorem Followed.cons {character : Char}
    (allowed : character = ',' ∨ character = '\n' ∨ character = ']' ∨ character = '\x7d')
    (rest : List Char) : Followed (character :: rest) := by
  intro first same
  cases same
  exact allowed

theorem Followed.clear (followed : Followed rest) : Clear rest := by
  intro character first
  rcases followed character first with rfl | rfl | rfl | rfl <;> decide

/-- A text that is read as one token wherever a value may end. -/
def Lexes (characters : List Char) (token : Token F) : Prop :=
  ∀ position rest, Followed rest → ∃ behind,
    tokens position (characters ++ rest) = (position, token) :: tokens behind rest

theorem tokens_mark {mark : Char} (isMark : isMark mark = true) :
    tokens (F := F) position (mark :: rest) = (position, .mark mark) :: tokens (position + 1) rest := by
  have ordinary : isJsonBlank mark = false ∧ mark ≠ '"' := by
    have member : mark ∈ ['[', ']', '\x7b', '\x7d', ',', ':'] := List.contains_iff_mem.mp isMark
    simp only [List.mem_cons, List.not_mem_nil, or_false] at member
    rcases member with rfl | rfl | rfl | rfl | rfl | rfl <;> decide
  have isFirst : firstToken (F := F) position mark ([] ++ rest) = (.mark mark, 0) := by
    rw [firstToken, if_neg ordinary.2, if_pos isMark]
  exact tokens_cons ordinary.1 isFirst

/-- A text between quotation marks is read as it was, whatever comes behind it. -/
theorem tokens_escaped (text : String) (position : Nat) (rest : List Char) : ∃ behind,
    tokens (F := F) position ((escaped text).toList ++ rest) =
      (position, .text text) :: tokens behind rest := by
  have written : (escaped text).toList = '"' :: (text.toList.flatMap escapedCharacter ++ ['"']) :=
    String.toList_ofList
  have isFirst : firstToken (F := F) position '"'
      (text.toList.flatMap escapedCharacter ++ ['"'] ++ rest) =
        (.text text, (text.toList.flatMap escapedCharacter ++ ['"']).length) := by
    rw [List.append_assoc, List.singleton_append, firstToken, if_pos rfl, scanText_escaped]
    simp [joinSurrogates_flatMap_units, Nat.add_comm 1]
  rw [written]
  exact ⟨_, tokens_cons rfl isFirst⟩

/-- Whether a text begins with the name of a constant. -/
abbrev Begins (characters : List Char) (entry : String × Json F) : Bool :=
  entry.1.toList.isPrefixOf characters

theorem lexes_name {name : String} {value : Json F} (first : Char) (others : List Char)
    (written : name.toList = first :: others)
    (ordinary : isJsonBlank first = false ∧ first ≠ '"' ∧ isMark first = false)
    (found : ∀ rest, constants.find? (Begins (first :: others ++ rest)) = some (name, value)) :
    Lexes name.toList (.constant value) := by
  intro position rest _
  have length : name.length - 1 = others.length := by
    rw [← String.length_toList, written]
    rfl
  have isFirst : firstToken position first (others ++ rest) = (.constant value, others.length) := by
    simp only [firstToken, if_neg ordinary.2.1, ordinary.2.2, Bool.false_eq_true, if_false]
    have isFound := found rest
    rw [List.cons_append] at isFound
    rw [isFound, ← length]
  rw [written]
  exact ⟨_, tokens_cons ordinary.1 isFirst⟩

theorem lexes_constant {name : String} {value : Json F} (listed : (name, value) ∈ constants) :
    Lexes name.toList (.constant value) := by
  simp only [constants, List.mem_cons, Prod.mk.injEq, List.not_mem_nil, or_false] at listed
  rcases listed with ⟨rfl, rfl⟩ | ⟨rfl, rfl⟩ | ⟨rfl, rfl⟩ | ⟨rfl, rfl⟩ | ⟨rfl, rfl⟩ | ⟨rfl, rfl⟩
  · exact lexes_name 'n' ['u', 'l', 'l'] rfl (by decide) fun _ => by simp [constants]
  · exact lexes_name 't' ['r', 'u', 'e'] rfl (by decide) fun _ => by simp [constants]
  · exact lexes_name 'f' ['a', 'l', 's', 'e'] rfl (by decide) fun _ => by simp [constants]
  · exact lexes_name 'N' ['a', 'N'] rfl (by decide) fun _ => by simp [constants]
  · exact lexes_name 'I' ['n', 'f', 'i', 'n', 'i', 't', 'y'] rfl (by decide)
      fun _ => by simp [constants]
  · exact lexes_name '-' ['I', 'n', 'f', 'i', 'n', 'i', 't', 'y'] rfl (by decide)
      fun _ => by simp [constants]

/-- A digit, perhaps behind a sign, does not begin the name of a constant. -/
theorem find?_constants_of_digit {digit : Char} (negative : Bool) (isDigit : isLatinDigit digit = true) :
    (constants (F := F)).find? (Begins ((if negative then ['-'] else []) ++ digit :: rest)) =
      none := by
  have differs : ∀ letter ∈ ['n', 't', 'f', 'N', 'I', '-'], letter ≠ digit := by
    rintro letter member rfl
    have noDigit : ∀ letter ∈ ['n', 't', 'f', 'N', 'I', '-'], isLatinDigit letter = false := by
      simp [isLatinDigit]
    exact Bool.false_ne_true ((noDigit letter member).symm.trans isDigit)
  simp only [List.forall_mem_cons, List.not_mem_nil, false_implies, implies_true, and_true] at differs
  obtain ⟨noNull, noTrue, noFalse, noName, noInfinity, noSign⟩ := differs
  cases negative <;>
    simp [constants, noNull, noTrue, noFalse, noName, noInfinity, noSign]

theorem ordinary_of_digit {digit : Char} (isDigit : isLatinDigit digit = true) :
    isJsonBlank digit = false ∧ digit ≠ '"' ∧ isMark digit = false := by
  have differs : ∀ other ∈ [' ', '\t', '\n', '\r', '"', '[', ']', '\x7b', '\x7d', ',', ':'],
      digit ≠ other := by
    rintro other member rfl
    have noDigit : ∀ other ∈ [' ', '\t', '\n', '\r', '"', '[', ']', '\x7b', '\x7d', ',', ':'],
        isLatinDigit other = false := by
      simp [isLatinDigit]
    exact Bool.false_ne_true ((noDigit digit member).symm.trans isDigit)
  simp only [List.forall_mem_cons, List.not_mem_nil, false_implies, implies_true, and_true] at differs
  simp [isJsonBlank, isMark, differs]

/-- Digits, perhaps behind a sign, that are read as a number wherever they end. -/
theorem lexes_number {negative : Bool} {digit : Char} {others : List Char} {number : Number F}
    (isDigit : isLatinDigit digit = true)
    (scanned : ∀ rest, Clear rest →
      scanNumber? ((if negative then ['-'] else []) ++ (digit :: others ++ rest)) =
        some (number, rest)) :
    Lexes ((if negative then ['-'] else []) ++ digit :: others) (.constant (.number number)) := by
  intro position rest followed
  have isScanned := scanned rest followed.clear
  have noName : (constants (F := F)).find?
      (Begins ((if negative then ['-'] else []) ++ (digit :: others ++ rest))) = none :=
    find?_constants_of_digit negative isDigit
  have isFirst {first : Char} {tail : List Char}
      (ordinary : isJsonBlank first = false ∧ first ≠ '"' ∧ isMark first = false)
      (same : (if negative then ['-'] else []) ++ (digit :: others ++ rest) = first :: tail ++ rest) :
      firstToken position first (tail ++ rest) = (.constant (.number number), tail.length) := by
    rw [same, List.cons_append] at isScanned noName
    simp only [firstToken, if_neg ordinary.2.1, ordinary.2.2, Bool.false_eq_true, if_false]
    rw [noName]
    dsimp only
    rw [isScanned]
    simp
  cases negative with
  | true =>
      have ordinary : isJsonBlank '-' = false ∧ '-' ≠ '"' ∧ isMark '-' = false := by decide
      exact ⟨_, tokens_cons ordinary.1 (isFirst ordinary rfl)⟩
  | false =>
      have ordinary := ordinary_of_digit isDigit
      exact ⟨_, tokens_cons ordinary.1 (isFirst ordinary rfl)⟩

/-! ### Numbers -/

theorem lexes_int (value : Int) : Lexes (F := F) (toString value).toList (.constant (.int value)) := by
  have digits (magnitude : Nat) (negative : Bool) :
      Lexes (F := F) ((if negative then ['-'] else []) ++ Nat.toDigits 10 magnitude)
        (.constant (.int (if negative then -(magnitude : Int) else magnitude))) := by
    have noNeedlessZero : Nat.toDigits 10 magnitude = ['0'] ∨
        ∀ digit, (Nat.toDigits 10 magnitude).head? = some digit → digit ≠ '0' := by
      rcases Nat.eq_zero_or_pos magnitude with rfl | positive
      · exact .inl rfl
      · exact .inr (head_toDigits positive)
    have scanned (rest : List Char) (clear : Clear rest) :=
      scanNumber?_int (F := F) negative (fun _ => isLatinDigit_of_mem_toDigits)
        Nat.toDigits_ne_nil noNeedlessZero clear
    obtain ⟨digit, others, same⟩ :=
      List.exists_cons_of_ne_nil (Nat.toDigits_ne_nil (b := 10) (n := magnitude))
    have member : digit ∈ Nat.toDigits 10 magnitude := by
      rw [same]
      exact List.mem_cons_self
    have isDigit := isLatinDigit_of_mem_toDigits member
    rw [digitsValue_toDigits] at scanned
    rw [same] at scanned ⊢
    exact lexes_number isDigit scanned
  cases value with
  | ofNat magnitude =>
      have written : (toString (Int.ofNat magnitude)).toList = Nat.toDigits 10 magnitude := by
        show (toString magnitude).toList = _
        simp
      rw [written]
      exact digits magnitude false
  | negSucc magnitude =>
      have written : (toString (Int.negSucc magnitude)).toList =
          '-' :: Nat.toDigits 10 (magnitude + 1) := by
        show ("-" ++ toString (magnitude + 1)).toList = _
        simp
      rw [written]
      exact digits (magnitude + 1) true

/-- A number is written so that it is read as it was. -/
theorem lexes_numberText [WrittenArithmetic F] (number : Number F) :
    Lexes (numberText number).toList (.constant (.number number)) := by
  cases number with
  | flag value =>
      cases value with
      | true => exact lexes_constant (.tail _ (.head _))
      | false => exact lexes_constant (.tail _ (.tail _ (.head _)))
  | int value => exact lexes_int value
  | real value =>
      cases isFinite : Arithmetic.isFinite value with
      | true =>
          obtain ⟨numeral, negative, spells⟩ := WrittenArithmetic.spelled value isFinite
          obtain ⟨digit, others, whole⟩ := List.exists_cons_of_ne_nil spells.wellFormed.wholeGiven
          have isDigit : isLatinDigit digit = true :=
            spells.wellFormed.wholeDigits digit (whole ▸ List.mem_cons_self)
          have characters : numeral.characters =
              digit :: (others ++ (pointed numeral.fraction ++ raised numeral.exponent)) := by
            rw [Numeral.characters, whole, List.cons_append]
          have written : numberText (.real value) = Arithmetic.text value := if_pos isFinite
          rw [written, spells.characters, characters]
          apply lexes_number isDigit
          intro rest clear
          rw [← characters, scanNumber?_real negative spells.wellFormed spells.isReal clear,
            spells.exact]
      | false => exact lexes_constant (WrittenArithmetic.named value isFinite)

end MapStyle.Json
