import Mathlib.Tactic.Ring
import MapStyle.Json.Printer
import MapStyle.Json.Token

/-!
# Numerals of a JSON text

A numeral has digits before the point, perhaps digits behind it, and perhaps an exponent. In front
of a text that cannot go on with it, it is read as a whole: as an integer if it has nothing but
digits before the point, else as the fractional number nearest to its value.
-/

namespace MapStyle

set_option autoImplicit false

open MapStyle.Text (digitValue? digitsValue)

namespace Json

/-! ### Digits -/

theorem isLatinDigit_iff {character : Char} :
    isLatinDigit character = true ↔ character.isDigit = true := by
  simp only [isLatinDigit, Char.isDigit, Bool.and_eq_true, decide_eq_true_eq, ge_iff_le,
    UInt32.le_iff_toNat_le]
  rfl

theorem digitValue?_of_isLatinDigit {character : Char} (digit : isLatinDigit character = true) :
    digitValue? character = some (character.toNat - 48) := by
  simp only [isLatinDigit, Bool.and_eq_true, decide_eq_true_eq] at digit
  exact if_pos digit

/-- Digits are counted as elsewhere. -/
theorem digitsValue_eq {digits : List Char} (all : ∀ digit ∈ digits, isLatinDigit digit = true) :
    digitsValue digits = Nat.ofDigitChars 10 digits 0 := by
  have folded (start : Nat) : digits.foldl (fun value character =>
      10 * value + (digitValue? character).getD 0) start = Nat.ofDigitChars 10 digits start := by
    induction digits generalizing start with
    | nil => rfl
    | cons digit rest ih =>
        obtain ⟨first, others⟩ := List.forall_mem_cons.mp all
        rw [List.foldl_cons, digitValue?_of_isLatinDigit first, ih others, Nat.ofDigitChars_cons]
        rfl
  exact folded 0

theorem isLatinDigit_of_mem_toDigits {value : Nat} {digit : Char}
    (member : digit ∈ Nat.toDigits 10 value) : isLatinDigit digit = true :=
  isLatinDigit_iff.mpr (Nat.isDigit_of_mem_toDigits (by decide) (by decide) member)

theorem digitsValue_toDigits (value : Nat) : digitsValue (Nat.toDigits 10 value) = value := by
  rw [digitsValue_eq fun digit => isLatinDigit_of_mem_toDigits]
  exact Nat.ofDigitChars_toDigits (by decide) (by decide)

/-- The digits of a positive number do not begin with a zero. -/
theorem head_toDigits {value : Nat} (positive : 0 < value) :
    ∀ digit, (Nat.toDigits 10 value).head? = some digit → digit ≠ '0' := by
  induction value using Nat.strongRecOn with
  | ind value ih =>
      intro digit first
      rcases Nat.lt_or_ge value 10 with small | large
      · rw [Nat.toDigits_of_lt_base small] at first
        cases first
        rw [ne_eq, Nat.digitChar_eq_zero]
        exact positive.ne'
      · have front : (Nat.toDigits 10 (value / 10)).head? = some digit := by
          rw [Nat.toDigits_of_base_le (by decide) large, List.head?_append] at first
          cases found : (Nat.toDigits 10 (value / 10)).head? with
          | none => exact absurd (List.head?_eq_none_iff.mp found) Nat.toDigits_ne_nil
          | some other => rwa [found] at first
        exact ih (value / 10) (by omega) (by omega) digit front

/-! ### Numerals -/

structure Numeral where
  whole : List Char
  fraction : List Char
  /-- Whether the exponent is negative, and its digits. -/
  exponent : Option (Bool × List Char)

/-- The marks of a numeral stand only before digits, and it does not begin with a needless zero. -/
structure Numeral.WellFormed (numeral : Numeral) : Prop where
  wholeDigits : ∀ digit ∈ numeral.whole, isLatinDigit digit = true
  wholeGiven : numeral.whole ≠ []
  noNeedlessZero : numeral.whole = ['0'] ∨ ∀ digit, numeral.whole.head? = some digit → digit ≠ '0'
  fractionDigits : ∀ digit ∈ numeral.fraction, isLatinDigit digit = true
  exponentDigits : ∀ negative digits, numeral.exponent = some (negative, digits) →
    digits ≠ [] ∧ ∀ digit ∈ digits, isLatinDigit digit = true

def pointed (fraction : List Char) : List Char :=
  if fraction.isEmpty then [] else '.' :: fraction

def raised : Option (Bool × List Char) → List Char
  | none => []
  | some (negative, digits) => 'e' :: (if negative then '-' else '+') :: digits

def Numeral.characters (numeral : Numeral) : List Char :=
  numeral.whole ++ (pointed numeral.fraction ++ raised numeral.exponent)

/-- A text that cannot go on with a numeral. -/
def Clear (rest : List Char) : Prop :=
  ∀ character, rest.head? = some character →
    isLatinDigit character = false ∧ character ≠ '.' ∧ character ≠ 'e' ∧ character ≠ 'E'

/-- Digits in front of something else are taken as a whole. -/
theorem takeWhile_digits {digits rest : List Char}
    (all : ∀ digit ∈ digits, isLatinDigit digit = true)
    (stops : ∀ character, rest.head? = some character → isLatinDigit character = false) :
    (digits ++ rest).takeWhile isLatinDigit = digits := by
  have stopped : rest.takeWhile isLatinDigit = [] := by
    cases rest with
    | nil => rfl
    | cons character others => simp [stops character rfl]
  rw [List.takeWhile_append_of_pos all, stopped, List.append_nil]

theorem fractionPart_pointed {fraction rest : List Char}
    (all : ∀ digit ∈ fraction, isLatinDigit digit = true)
    (stops : ∀ character, rest.head? = some character →
      isLatinDigit character = false ∧ character ≠ '.') :
    fractionPart (pointed fraction ++ rest) = (fraction, rest) := by
  cases fraction with
  | nil =>
      show fractionPart rest = ([], rest)
      cases rest with
      | nil => rfl
      | cons character others =>
          have noPoint := (stops character rfl).2
          unfold fractionPart
          split
          · rename_i same
            exact absurd (List.cons.inj same).1 noPoint
          · rfl
  | cons digit others =>
      have taken := takeWhile_digits all fun character first => (stops character first).1
      show fractionPart ('.' :: (digit :: others ++ rest)) = _
      simp only [fractionPart, taken, List.isEmpty_cons, List.drop_left]
      rfl

theorem exponentPart_raised {negative : Bool} {digits rest : List Char} (given : digits ≠ [])
    (all : ∀ digit ∈ digits, isLatinDigit digit = true)
    (stops : ∀ character, rest.head? = some character → isLatinDigit character = false) :
    exponentPart (raised (some (negative, digits)) ++ rest) = some (negative, digits, rest) := by
  have taken := takeWhile_digits all stops
  have some : digits.isEmpty = false := List.isEmpty_eq_false_iff.mpr given
  cases negative with
  | true =>
      show exponentPart ('e' :: '-' :: (digits ++ rest)) = _
      simp [exponentPart, taken, some]
  | false =>
      show exponentPart ('e' :: '+' :: (digits ++ rest)) = _
      simp [exponentPart, taken, some]

theorem exponentPart_clear {rest : List Char} (clear : Clear rest) : exponentPart rest = none := by
  cases rest with
  | nil => rfl
  | cons character others =>
      obtain ⟨_, _, noSmall, noLarge⟩ := clear character rfl
      exact if_neg (not_or.mpr ⟨noSmall, noLarge⟩)

/-- Whether there is a sign, and what follows it. -/
def unsignedPart (characters : List Char) : Bool × List Char :=
  match characters with
  | '-' :: rest => (true, rest)
  | _ => (false, characters)

/-- The digits before the point; a zero stands alone. -/
def wholePart (unsigned : List Char) : List Char :=
  match unsigned with
  | '0' :: _ => ['0']
  | _ => unsigned.takeWhile isLatinDigit

theorem unsignedPart_signed {digit : Char} (negative : Bool) (isDigit : isLatinDigit digit = true)
    (rest : List Char) :
    unsignedPart ((if negative then ['-'] else []) ++ digit :: rest) = (negative, digit :: rest) := by
  cases negative with
  | true => rfl
  | false =>
      show unsignedPart (digit :: rest) = _
      unfold unsignedPart
      split
      · rename_i same
        rw [(List.cons.inj same).1] at isDigit
        exact absurd isDigit (by decide)
      · rfl

theorem wholePart_append {whole tail : List Char}
    (all : ∀ digit ∈ whole, isLatinDigit digit = true) (given : whole ≠ [])
    (noNeedlessZero : whole = ['0'] ∨ ∀ digit, whole.head? = some digit → digit ≠ '0')
    (stops : ∀ character, tail.head? = some character → isLatinDigit character = false) :
    wholePart (whole ++ tail) = whole := by
  rcases noNeedlessZero with rfl | notZero
  · rfl
  · obtain ⟨digit, others, rfl⟩ := List.exists_cons_of_ne_nil given
    unfold wholePart
    split
    · rename_i same
      exact absurd (List.cons.inj same).1 (notZero digit rfl)
    · exact takeWhile_digits all stops

/-- What is made of the text behind the digits before the point. -/
def scanBehind {F : Type} [Arithmetic F] (negative : Bool) (whole tail : List Char) :
    Option (Number F × List Char) :=
  let (fraction, afterFraction) := fractionPart tail
  match exponentPart afterFraction with
  | some (negativeExponent, digits, rest) =>
      let written : Int := digitsValue digits
      let exponent := (if negativeExponent then -written else written) - fraction.length
      some (.real (decimalValue negative (digitsValue (whole ++ fraction)) exponent), rest)
  | none =>
      let mantissa := digitsValue (whole ++ fraction)
      if fraction.isEmpty then
        some (.int (if negative then -(mantissa : Int) else mantissa), afterFraction)
      else
        some (.real (decimalValue negative mantissa (-(fraction.length : Int))), afterFraction)

theorem scanNumber?_eq {F : Type} [Arithmetic F] (characters : List Char) :
    scanNumber? (F := F) characters =
      if (wholePart (unsignedPart characters).2).isEmpty then none
      else scanBehind (unsignedPart characters).1 (wholePart (unsignedPart characters).2)
        ((unsignedPart characters).2.drop (wholePart (unsignedPart characters).2).length) :=
  rfl

/-- The sign and the digits before the point are taken first. -/
theorem scanNumber?_signed {F : Type} [Arithmetic F] {whole tail : List Char} (negative : Bool)
    (all : ∀ digit ∈ whole, isLatinDigit digit = true) (given : whole ≠ [])
    (noNeedlessZero : whole = ['0'] ∨ ∀ digit, whole.head? = some digit → digit ≠ '0')
    (stops : ∀ character, tail.head? = some character → isLatinDigit character = false) :
    scanNumber? (F := F) ((if negative then ['-'] else []) ++ (whole ++ tail)) =
      scanBehind negative whole tail := by
  have isWhole := wholePart_append all given noNeedlessZero stops
  obtain ⟨digit, others, rfl⟩ := List.exists_cons_of_ne_nil given
  have signed := unsignedPart_signed negative (all digit List.mem_cons_self) (others ++ tail)
  rw [scanNumber?_eq, List.cons_append, signed]
  dsimp only
  rw [← List.cons_append, isWhole, List.drop_left]
  rfl

theorem Clear.stops {rest : List Char} (clear : Clear rest) :
    ∀ character, rest.head? = some character → isLatinDigit character = false :=
  fun character first => (clear character first).1

/-- Behind the digits of a numeral there is no other digit, and behind its fraction no point. -/
theorem raised_stops {rest : List Char} (clear : Clear rest) (exponent : Option (Bool × List Char)) :
    ∀ character, (raised exponent ++ rest).head? = some character →
      isLatinDigit character = false ∧ character ≠ '.' := by
  intro character first
  cases exponent with
  | none => exact ⟨(clear character first).1, (clear character first).2.1⟩
  | some exponent =>
      cases first
      decide

theorem pointed_stops {rest : List Char} (clear : Clear rest) (fraction : List Char)
    (exponent : Option (Bool × List Char)) :
    ∀ character, (pointed fraction ++ (raised exponent ++ rest)).head? = some character →
      isLatinDigit character = false := by
  intro character first
  cases fraction with
  | nil => exact (raised_stops clear exponent character first).1
  | cons digit others =>
      cases first
      decide

/-- Digits alone are read as an integer. -/
theorem scanNumber?_int {F : Type} [Arithmetic F] {whole rest : List Char} (negative : Bool)
    (all : ∀ digit ∈ whole, isLatinDigit digit = true) (given : whole ≠ [])
    (noNeedlessZero : whole = ['0'] ∨ ∀ digit, whole.head? = some digit → digit ≠ '0')
    (clear : Clear rest) :
    scanNumber? (F := F) ((if negative then ['-'] else []) ++ (whole ++ rest)) =
      some (.int (if negative then -(digitsValue whole : Int) else digitsValue whole), rest) := by
  have noFraction : fractionPart rest = ([], rest) :=
    fractionPart_pointed (List.forall_mem_nil _) (raised_stops clear none)
  rw [scanNumber?_signed negative all given noNeedlessZero clear.stops]
  simp [scanBehind, noFraction, exponentPart_clear clear]

namespace Numeral

def mantissa (numeral : Numeral) : Nat :=
  digitsValue (numeral.whole ++ numeral.fraction)

/-- The power of ten that an exponent stands for. -/
def raisedBy : Option (Bool × List Char) → Int
  | none => 0
  | some (negative, digits) => if negative then -(digitsValue digits : Int) else digitsValue digits

/-- The power of ten that the mantissa is multiplied by. -/
def power (numeral : Numeral) : Int :=
  raisedBy numeral.exponent - numeral.fraction.length

end Numeral

/-- A numeral with a fraction or an exponent is read as the fractional number nearest to its
value. -/
theorem scanNumber?_real {F : Type} [Arithmetic F] {numeral : Numeral} {rest : List Char}
    (negative : Bool) (wellFormed : numeral.WellFormed)
    (isReal : numeral.fraction ≠ [] ∨ numeral.exponent.isSome) (clear : Clear rest) :
    scanNumber? (F := F) ((if negative then ['-'] else []) ++ (numeral.characters ++ rest)) =
      some (.real (decimalValue negative numeral.mantissa numeral.power), rest) := by
  obtain ⟨whole, fraction, exponent⟩ := numeral
  have split : Numeral.characters ⟨whole, fraction, exponent⟩ ++ rest =
      whole ++ (pointed fraction ++ (raised exponent ++ rest)) := by
    simp [Numeral.characters]
  rw [split, scanNumber?_signed negative wellFormed.wholeDigits wellFormed.wholeGiven
    wellFormed.noNeedlessZero (pointed_stops clear fraction exponent), scanBehind,
    fractionPart_pointed wellFormed.fractionDigits (raised_stops clear exponent)]
  dsimp only
  cases exponent with
  | none =>
      have given : fraction.isEmpty = false := by simpa using isReal
      have nothing : exponentPart (raised none ++ rest) = none := exponentPart_clear clear
      rw [nothing]
      simp [given, raised, Numeral.mantissa, Numeral.power, Numeral.raisedBy]
  | some exponent =>
      obtain ⟨negativeExponent, digits⟩ := exponent
      obtain ⟨given, all⟩ := wellFormed.exponentDigits negativeExponent digits rfl
      rw [exponentPart_raised given all clear.stops]
      rfl

/-- A text that is a numeral, perhaps behind a sign, and is read as a fractional number. -/
structure Numeral.Spells {F : Type} [Arithmetic F] (numeral : Numeral) (negative : Bool) (text : String)
    (value : F) : Prop where
  characters : text.toList = (if negative then ['-'] else []) ++ numeral.characters
  wellFormed : numeral.WellFormed
  isReal : numeral.fraction ≠ [] ∨ numeral.exponent.isSome
  exact : decimalValue negative numeral.mantissa numeral.power = value

end Json

/-- Fractional numbers that can be read back: a finite one is written as a numeral, any other one by
its name. -/
class WrittenArithmetic (F : Type) [Arithmetic F] : Prop where
  spelled (value : F) : Arithmetic.isFinite value = true →
    ∃ numeral negative, Json.Numeral.Spells numeral negative (Arithmetic.text value) value
  named (value : F) : Arithmetic.isFinite value = false →
    (Json.realText value, .number (.real value)) ∈ Json.constants (F := F)

end MapStyle
