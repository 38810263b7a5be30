import MapStyle.Colour.Hex
import MapStyle.Proofs.Number.Double
import MapStyle.Proofs.Outcome
import MapStyle.Proofs.Text.Digit

/-!
# Texts that are read as channels

A hexadecimal colour is a number sign and three or six hexadecimal digits of the basic Latin
alphabet behind it, and stands for three bytes. The reader of channels takes every hexadecimal
colour for what it stands for, and takes more than that: other texts that spell three channels in
pairs of characters, where there may be any number of number signs, digits of any script, and a sign
or a blank in the place of a digit. A text that spells no channels is refused.
-/

namespace MapStyle.Colour

set_option autoImplicit false

open MapStyle.Text

/-! ### Pairs of characters -/

/-- Two characters that stand for an integer: two digits, or one of them with a sign before it or a
blank on either side. -/
inductive Pair : Char → Char → Int → Prop where
  | digits {high low : Char} {highValue lowValue : Nat}
      (isHigh : hexDigitValue? high = some highValue)
      (isLow : hexDigitValue? low = some lowValue) :
      Pair high low (16 * highValue + lowValue)
  | plus {digit : Char} {value : Nat} (isValue : hexDigitValue? digit = some value) :
      Pair '+' digit value
  | minus {digit : Char} {value : Nat} (isValue : hexDigitValue? digit = some value) :
      Pair '-' digit (-value)
  | blankBefore {blank digit : Char} {value : Nat} (isBlank : isNumberBlank blank = true)
      (isValue : hexDigitValue? digit = some value) : Pair blank digit value
  | blankBehind {digit blank : Char} {value : Nat} (isBlank : isNumberBlank blank = true)
      (isValue : hexDigitValue? digit = some value) : Pair digit blank value

theorem trimBoth_pair (test : Char → Bool) (first second : Char) :
    trimBoth test [first, second] =
      if test first then (if test second then [] else [second])
      else if test second then [first] else [first, second] := by
  cases firstFound : test first <;> cases secondFound : test second <;>
    simp [trimBoth, firstFound, secondFound]

section Pairs

variable {first second : Char} {value : Int}

theorem pair_of_pairValue? (found : pairValue? first second = some value) :
    Pair first second value := by
  unfold pairValue? at found
  rw [trimBoth_pair] at found
  -- What is left of the two characters when the blanks are taken off is read.
  cases blankFirst : isNumberBlank first <;> cases blankSecond : isNumberBlank second <;>
    simp only [blankFirst, blankSecond, if_true, Bool.false_eq_true, if_false] at found
  case true.true => cases found
  case true.false =>
    obtain ⟨digit, isDigit, rfl⟩ := Option.map_eq_some_iff.mp found
    exact .blankBefore blankFirst isDigit
  case false.true =>
    obtain ⟨digit, isDigit, rfl⟩ := Option.map_eq_some_iff.mp found
    exact .blankBehind blankSecond isDigit
  case false.false =>
    split at found
    · rename_i isDigit
      cases found
      exact .plus isDigit
    · rename_i isDigit
      cases found
      exact .minus isDigit
    · rename_i isLow isHigh
      cases found
      exact .digits isHigh isLow
    · cases found

/-- A pair is read as what it stands for. -/
theorem Pair.read (pair : Pair first second value) : pairValue? first second = some value := by
  unfold pairValue?
  rw [trimBoth_pair]
  cases pair with
  | digits isHigh isLow =>
      have noPlus : first ≠ '+' := by
        rintro rfl
        cases isHigh
      have noMinus : first ≠ '-' := by
        rintro rfl
        cases isHigh
      simp [isNumberBlank_of_hexDigitValue? isHigh, isNumberBlank_of_hexDigitValue? isLow, isHigh,
        isLow]
  | plus isValue =>
      rw [if_neg (by decide), isNumberBlank_of_hexDigitValue? isValue, if_neg (by decide)]
      simp [isValue]
  | minus isValue =>
      rw [if_neg (by decide), isNumberBlank_of_hexDigitValue? isValue, if_neg (by decide)]
      simp [isValue]
  | blankBefore isBlank isValue =>
      simp [isBlank, isNumberBlank_of_hexDigitValue? isValue, isValue]
  | blankBehind isBlank isValue =>
      simp [isBlank, isNumberBlank_of_hexDigitValue? isValue, isValue]

theorem pairValue?_eq_some_iff : pairValue? first second = some value ↔ Pair first second value :=
  ⟨pair_of_pairValue?, Pair.read⟩

theorem Pair.small (pair : Pair first second value) : SmallWhole value := by
  cases pair with
  | digits isHigh isLow =>
      have highSmall := hexDigitValue?_lt isHigh
      have lowSmall := hexDigitValue?_lt isLow
      exact ⟨by omega, by omega⟩
  | plus isValue | minus isValue | blankBefore _ isValue | blankBehind _ isValue =>
      have small := hexDigitValue?_lt isValue
      exact ⟨by omega, by omega⟩

/-- A letter or digit of the basic Latin alphabet that belongs to a pair is a hexadecimal digit. -/
theorem Pair.latin_of_isAlphanum (pair : Pair first second value) :
    (first.isAlphanum = true → isLatinHexDigit first = true) ∧
      (second.isAlphanum = true → isLatinHexDigit second = true) := by
  have noBlank : ∀ character : Char, isNumberBlank character = true →
      character.isAlphanum = true → isLatinHexDigit character = true := by
    intro character isBlank alphanumeric
    obtain ⟨above, below⟩ := toNat_of_isAlphanum alphanumeric
    have visible : Text.isBlank character = false := isBlank_of_visible (by omega) (by omega)
    simp [isNumberBlank, visible] at isBlank
  cases pair with
  | digits isHigh isLow =>
      exact ⟨fun given => isLatinHexDigit_of_isAlphanum given isHigh,
        fun given => isLatinHexDigit_of_isAlphanum given isLow⟩
  | plus isValue | minus isValue =>
      exact ⟨by decide, fun given => isLatinHexDigit_of_isAlphanum given isValue⟩
  | blankBefore isBlank isValue =>
      exact ⟨noBlank _ isBlank, fun given => isLatinHexDigit_of_isAlphanum given isValue⟩
  | blankBehind isBlank isValue =>
      exact ⟨fun given => isLatinHexDigit_of_isAlphanum given isValue, noBlank _ isBlank⟩

/-- A number sign belongs to no pair. -/
theorem Pair.ne_numberSign (pair : Pair first second value) : first ≠ '#' := by
  rintro rfl
  cases pair with
  | digits isValue | blankBehind _ isValue => cases isValue
  | blankBefore isBlank => exact absurd isBlank (by decide)

end Pairs

/-! ### Texts that spell channels -/

/-- The characters behind the number signs of a text: three of them, each one for two, or three
pairs. -/
inductive SpellsBehind : List Char → Int → Int → Int → Prop where
  | short {red green blue : Char} {redValue greenValue blueValue : Int}
      (isRed : Pair red red redValue) (isGreen : Pair green green greenValue)
      (isBlue : Pair blue blue blueValue) :
      SpellsBehind [red, green, blue] redValue greenValue blueValue
  | long {red redLow green greenLow blue blueLow : Char} {redValue greenValue blueValue : Int}
      (isRed : Pair red redLow redValue) (isGreen : Pair green greenLow greenValue)
      (isBlue : Pair blue blueLow blueValue) :
      SpellsBehind [red, redLow, green, greenLow, blue, blueLow] redValue greenValue blueValue

/-- A text that spells three channels behind any number of number signs. -/
def Spells (text : String) (red green blue : Int) : Prop :=
  ∃ signs characters, text.toList = List.replicate signs '#' ++ characters ∧
    SpellsBehind characters red green blue

section Texts

variable {text : String} {characters : List Char} {red green blue : Int}

theorem Spells.small (spells : Spells text red green blue) :
    SmallWhole red ∧ SmallWhole green ∧ SmallWhole blue := by
  obtain ⟨_, _, _, behind⟩ := spells
  cases behind with
  | short isRed isGreen isBlue | long isRed isGreen isBlue =>
      exact ⟨isRed.small, isGreen.small, isBlue.small⟩

theorem SpellsBehind.length (spells : SpellsBehind characters red green blue) :
    characters.length = 3 ∨ characters.length = 6 := by
  cases spells with
  | short => exact .inl rfl
  | long => exact .inr rfl

theorem dropWhile_numberSigns (signs : Nat) (noSign : characters.head? ≠ some '#') :
    (List.replicate signs '#' ++ characters).dropWhile (· = '#') = characters := by
  induction signs with
  | zero =>
      cases characters with
      | nil => rfl
      | cons first rest =>
          have different : first ≠ '#' := by simpa using noSign
          simp [different]
  | succ signs ih => simpa [List.replicate_succ] using ih

/-- What is left of a text behind its number signs is what spells the channels. -/
theorem SpellsBehind.dropWhile (spells : SpellsBehind characters red green blue) (signs : Nat) :
    (List.replicate signs '#' ++ characters).dropWhile (· = '#') = characters := by
  apply dropWhile_numberSigns
  cases spells with
  | short isRed | long isRed => simpa using isRed.ne_numberSign

theorem Spells.behind (spells : Spells text red green blue) :
    SpellsBehind (text.toList.dropWhile (· = '#')) red green blue := by
  obtain ⟨signs, characters, isText, behind⟩ := spells
  rw [isText, behind.dropWhile]
  exact behind

theorem eq_numberSigns_append (characters : List Char) :
    ∃ signs, characters = List.replicate signs '#' ++ characters.dropWhile (· = '#') := by
  refine ⟨(characters.takeWhile (· = '#')).length, ?_⟩
  have allSigns : characters.takeWhile (· = '#') =
      List.replicate (characters.takeWhile (· = '#')).length '#' :=
    List.eq_replicate_of_mem fun character member => by
      simpa using List.mem_takeWhile_imp member
  rw [← allSigns, List.takeWhile_append_dropWhile]

/-- Exactly the texts that spell channels are read as such. -/
theorem channels?_eq_some_iff :
    channels? text = some (red, green, blue) ↔ Spells text red green blue := by
  constructor
  · intro found
    obtain ⟨signs, isText⟩ := eq_numberSigns_append text.toList
    refine ⟨signs, _, isText, ?_⟩
    unfold channels? at found
    generalize text.toList.dropWhile (· = '#') = behind at found
    dsimp only at found
    split at found
    · rename_i doubled
      simp only [Option.bind_eq_bind, Option.bind_eq_some_iff, pairValue?_eq_some_iff, Option.pure_def,
        Option.some_inj, Prod.mk.injEq] at found
      obtain ⟨_, isRed, _, isGreen, _, isBlue, rfl, rfl, rfl⟩ := found
      split_ifs at doubled with three
      · obtain ⟨first, second, third, rfl⟩ := List.length_eq_three.mp three
        cases doubled
        exact .short isRed isGreen isBlue
      · rw [doubled]
        exact .long isRed isGreen isBlue
    · cases found
  · rintro ⟨signs, characters, isText, spells⟩
    unfold channels?
    rw [isText, spells.dropWhile]
    cases spells with
    | short isRed isGreen isBlue | long isRed isGreen isBlue =>
        simp [isRed.read, isGreen.read, isBlue.read]

/-- A text that spells nothing has no channels. -/
theorem channels?_eq_none (none : ∀ red green blue, ¬Spells text red green blue) :
    channels? text = .none := by
  rw [Option.eq_none_iff_forall_ne_some]
  rintro ⟨red, green, blue⟩ found
  exact none red green blue (channels?_eq_some_iff.mp found)

end Texts

/-! ### Hexadecimal colours -/

/-- A hexadecimal digit of the basic Latin alphabet, in either case, and its value. -/
structure LatinDigit (digit : Char) (value : Nat) : Prop where
  lt : value < 16
  lower : digit.toLower = Nat.digitChar value

/-- Three digits, each one for two of its kind, or three pairs of digits. -/
inductive HexDigits : List Char → Nat → Nat → Nat → Prop where
  | short {red green blue : Char} {redValue greenValue blueValue : Nat}
      (isRed : LatinDigit red redValue) (isGreen : LatinDigit green greenValue)
      (isBlue : LatinDigit blue blueValue) :
      HexDigits [red, green, blue] (16 * redValue + redValue) (16 * greenValue + greenValue)
        (16 * blueValue + blueValue)
  | long {red redLow green greenLow blue blueLow : Char}
      {redHigh redRest greenHigh greenRest blueHigh blueRest : Nat}
      (isRed : LatinDigit red redHigh) (isRedLow : LatinDigit redLow redRest)
      (isGreen : LatinDigit green greenHigh) (isGreenLow : LatinDigit greenLow greenRest)
      (isBlue : LatinDigit blue blueHigh) (isBlueLow : LatinDigit blueLow blueRest) :
      HexDigits [red, redLow, green, greenLow, blue, blueLow] (16 * redHigh + redRest)
        (16 * greenHigh + greenRest) (16 * blueHigh + blueRest)

/-- A hexadecimal colour and the bytes that it stands for. -/
def HexColour (text : String) (red green blue : Nat) : Prop :=
  ∃ digits, text.toList = '#' :: digits ∧ HexDigits digits red green blue

theorem LatinDigit.latin {digit : Char} {value : Nat} (isDigit : LatinDigit digit value) :
    isLatinHexDigit digit = true :=
  (hexDigit_of_toLower isDigit.lt isDigit.lower).1

theorem LatinDigit.isValue {digit : Char} {value : Nat} (isDigit : LatinDigit digit value) :
    hexDigitValue? digit = some value :=
  (hexDigit_of_toLower isDigit.lt isDigit.lower).2

theorem LatinDigit.pair {high low : Char} {highValue lowValue : Nat}
    (isHigh : LatinDigit high highValue) (isLow : LatinDigit low lowValue) :
    Pair high low ((16 * highValue + lowValue : Nat) : Int) := by
  simpa using Pair.digits isHigh.isValue isLow.isValue

theorem exists_latinDigit {digit : Char} (latin : isLatinHexDigit digit = true) :
    ∃ value, LatinDigit digit value := by
  obtain ⟨_, valued⟩ := Bool.and_eq_true_iff.mp latin
  obtain ⟨value, isValue⟩ := Option.isSome_iff_exists.mp valued
  exact ⟨value, hexDigitValue?_lt isValue, (digitChar_of_isLatinHexDigit latin isValue).symm⟩

section Colours

variable {text : String} {red green blue : Nat} {digits : List Char}

theorem HexDigits.le (hex : HexDigits digits red green blue) :
    red ≤ 255 ∧ green ≤ 255 ∧ blue ≤ 255 := by
  have pair : ∀ {high low : Nat}, high < 16 → low < 16 → 16 * high + low ≤ 255 := by omega
  cases hex with
  | short isRed isGreen isBlue =>
      exact ⟨pair isRed.lt isRed.lt, pair isGreen.lt isGreen.lt, pair isBlue.lt isBlue.lt⟩
  | long isRed isRedLow isGreen isGreenLow isBlue isBlueLow =>
      exact ⟨pair isRed.lt isRedLow.lt, pair isGreen.lt isGreenLow.lt, pair isBlue.lt isBlueLow.lt⟩

theorem HexDigits.spellsBehind (hex : HexDigits digits red green blue) :
    SpellsBehind digits red green blue := by
  cases hex with
  | short isRed isGreen isBlue =>
      exact .short (isRed.pair isRed) (isGreen.pair isGreen) (isBlue.pair isBlue)
  | long isRed isRedLow isGreen isGreenLow isBlue isBlueLow =>
      exact .long (isRed.pair isRedLow) (isGreen.pair isGreenLow) (isBlue.pair isBlueLow)

theorem exists_hexDigits (allLatin : ∀ digit ∈ digits, isLatinHexDigit digit = true)
    (counted : digits.length = 3 ∨ digits.length = 6) :
    ∃ red green blue, HexDigits digits red green blue := by
  obtain three | six := counted
  · obtain ⟨first, second, third, rfl⟩ := List.length_eq_three.mp three
    simp only [List.forall_mem_cons] at allLatin
    obtain ⟨isFirst, isSecond, isThird, _⟩ := allLatin
    obtain ⟨_, red⟩ := exists_latinDigit isFirst
    obtain ⟨_, green⟩ := exists_latinDigit isSecond
    obtain ⟨_, blue⟩ := exists_latinDigit isThird
    exact ⟨_, _, _, .short red green blue⟩
  · match digits, six with
    | [first, second, third, fourth, fifth, sixth], _ =>
        simp only [List.forall_mem_cons] at allLatin
        obtain ⟨isFirst, isSecond, isThird, isFourth, isFifth, isSixth, _⟩ := allLatin
        obtain ⟨_, red⟩ := exists_latinDigit isFirst
        obtain ⟨_, redLow⟩ := exists_latinDigit isSecond
        obtain ⟨_, green⟩ := exists_latinDigit isThird
        obtain ⟨_, greenLow⟩ := exists_latinDigit isFourth
        obtain ⟨_, blue⟩ := exists_latinDigit isFifth
        obtain ⟨_, blueLow⟩ := exists_latinDigit isSixth
        exact ⟨_, _, _, .long red redLow green greenLow blue blueLow⟩

theorem HexDigits.latin (hex : HexDigits digits red green blue) :
    (∀ digit ∈ digits, isLatinHexDigit digit = true) ∧
      (digits.length = 3 ∨ digits.length = 6) := by
  cases hex with
  | short isRed isGreen isBlue =>
      exact ⟨by simp [isRed.latin, isGreen.latin, isBlue.latin], .inl rfl⟩
  | long isRed isRedLow isGreen isGreenLow isBlue isBlueLow =>
      exact ⟨by simp [isRed.latin, isRedLow.latin, isGreen.latin, isGreenLow.latin, isBlue.latin,
        isBlueLow.latin], .inr rfl⟩

/-- What a theme takes for a hexadecimal colour is one. -/
theorem isHexCharacters_iff :
    isHexCharacters text.toList = true ↔ ∃ red green blue, HexColour text red green blue := by
  constructor
  · intro isHex
    unfold isHexCharacters at isHex
    split at isHex
    · rename_i digits isText
      simp only [Bool.and_eq_true, Bool.or_eq_true, beq_iff_eq, List.all_eq_true] at isHex
      obtain ⟨red, green, blue, hex⟩ := exists_hexDigits isHex.1 isHex.2
      exact ⟨red, green, blue, digits, isText, hex⟩
    · cases isHex
  · rintro ⟨red, green, blue, digits, isText, hex⟩
    obtain ⟨allLatin, counted⟩ := hex.latin
    simp only [isText, isHexCharacters, Bool.and_eq_true, Bool.or_eq_true, beq_iff_eq,
      List.all_eq_true]
    exact ⟨allLatin, counted⟩

/-- A hexadecimal colour spells the bytes that it stands for. -/
theorem HexColour.spells (hex : HexColour text red green blue) : Spells text red green blue := by
  obtain ⟨digits, isText, isDigits⟩ := hex
  exact ⟨1, digits, isText, isDigits.spellsBehind⟩

theorem HexColour.le (hex : HexColour text red green blue) :
    red ≤ 255 ∧ green ≤ 255 ∧ blue ≤ 255 := by
  obtain ⟨digits, _, isDigits⟩ := hex
  exact isDigits.le

/-- If only letters and digits of the basic Latin alphabet stand behind the number signs, nothing
but hexadecimal digits spells channels. -/
theorem SpellsBehind.exists_hexDigits {red green blue : Int}
    (spells : SpellsBehind digits red green blue)
    (alphanumeric : ∀ digit ∈ digits, digit.isAlphanum = true) :
    ∃ redByte greenByte blueByte, HexDigits digits redByte greenByte blueByte := by
  have latin : ∀ digit ∈ digits, digit.isAlphanum = true → isLatinHexDigit digit = true := by
    cases spells with
    | short isRed isGreen isBlue =>
        simp only [List.forall_mem_cons]
        exact ⟨isRed.latin_of_isAlphanum.1, isGreen.latin_of_isAlphanum.1,
          isBlue.latin_of_isAlphanum.1, by simp⟩
    | long isRed isGreen isBlue =>
        simp only [List.forall_mem_cons]
        exact ⟨isRed.latin_of_isAlphanum.1, isRed.latin_of_isAlphanum.2,
          isGreen.latin_of_isAlphanum.1, isGreen.latin_of_isAlphanum.2,
          isBlue.latin_of_isAlphanum.1, isBlue.latin_of_isAlphanum.2, by simp⟩
  exact Colour.exists_hexDigits (fun digit member => latin digit member (alphanumeric digit member))
    spells.length

end Colours

/-! ### Reading channels -/

variable {F : Type} [Arithmetic F] {text : String}

/-- The channels are integers, without any rounding. -/
structure Rgb.IsExactly (colour : Rgb F) (red green blue : Int) : Prop where
  red : Arithmetic.rational? colour.red = some (red : Rat)
  green : Arithmetic.rational? colour.green = some (green : Rat)
  blue : Arithmetic.rational? colour.blue = some (blue : Rat)

/-- What is known of the conversion of each integer is known of the channels. -/
theorem Spells.returns_hexToRgb {red green blue : Int} (spells : Spells text red green blue)
    (holds : Int → F → Prop)
    (isRed : Returns (holds red) (Number.int red : Number F).toReal)
    (isGreen : Returns (holds green) (Number.int green : Number F).toReal)
    (isBlue : Returns (holds blue) (Number.int blue : Number F).toReal) :
    Returns (fun colour : Rgb F =>
      holds red colour.red ∧ holds green colour.green ∧ holds blue colour.blue)
      (hexToRgb text) := by
  unfold hexToRgb
  rw [channels?_eq_some_iff.mpr spells]
  refine (returns_lift.mpr isRed).bind fun _ redHolds => ?_
  refine (returns_lift.mpr isGreen).bind fun _ greenHolds => ?_
  refine (returns_lift.mpr isBlue).bind fun _ blueHolds => ?_
  exact Returns.pure_iff.mpr ⟨redHolds, greenHolds, blueHolds⟩

theorem hexToRgb_of_unspelled (unspelled : ∀ red green blue, ¬Spells text red green blue) :
    hexToRgb (F := F) text = Result.ofTheme (.notHex text) := by
  unfold hexToRgb
  rw [channels?_eq_none unspelled]

theorem Spells.returns_exactly [WholeArithmetic F] {red green blue : Int}
    (spells : Spells text red green blue) :
    Returns (fun colour : Rgb F => colour.IsExactly red green blue) (hexToRgb text) := by
  obtain ⟨redSmall, greenSmall, blueSmall⟩ := spells.small
  have returned := spells.returns_hexToRgb (F := F)
    (fun whole number => Arithmetic.rational? number = some (whole : Rat))
    (Number.returns_toReal_whole redSmall) (Number.returns_toReal_whole greenSmall)
    (Number.returns_toReal_whole blueSmall)
  exact returned.mono fun _ both => ⟨both.1, both.2.1, both.2.2⟩

/-- A text that is read can be darkened by any factor that is a fractional number. -/
theorem succeeds_darken_of_read {factor : Number F} (read : Succeeds (hexToRgb (F := F) text))
    (factorSucceeds : Succeeds factor.toReal) : Succeeds (darken text factor) := by
  refine read.bind fun _ _ => ?_
  exact (returns_lift.mpr factorSucceeds).bind fun _ _ => Returns.pure_iff.mpr trivial

/-- A text is read exactly if it spells channels, and then as these, with no error of rounding;
every other text is refused. A hexadecimal colour spells the bytes that it stands for, and a text
of Latin letters and digits behind a single number sign spells channels only if it is one. -/
theorem read_exactly_if_spelled [WholeArithmetic F] (text : String) :
    (Succeeds (hexToRgb (F := F) text) ↔ ∃ red green blue, Spells text red green blue) ∧
    (∀ red green blue, Spells text red green blue →
      Returns (fun colour : Rgb F => colour.IsExactly red green blue) (hexToRgb text)) ∧
    ((∀ red green blue, ¬Spells text red green blue) →
      hexToRgb (F := F) text = Result.ofTheme (.notHex text)) ∧
    (∀ red green blue, HexColour text red green blue →
      Spells text red green blue ∧ red ≤ 255 ∧ green ≤ 255 ∧ blue ≤ 255) ∧
    (∀ characters, text.toList = '#' :: characters →
      (∀ character ∈ characters, character.isAlphanum = true) →
      (∃ red green blue, Spells text red green blue) →
      ∃ red green blue, HexColour text red green blue) := by
  refine ⟨⟨?_, ?_⟩, ?_, hexToRgb_of_unspelled, ?_, ?_⟩
  · intro succeeds
    by_contra unspelled
    push Not at unspelled
    rw [hexToRgb_of_unspelled unspelled] at succeeds
    obtain ⟨_, impossible, _⟩ := succeeds
    cases impossible
  · rintro ⟨red, green, blue, spells⟩
    exact (spells.returns_exactly (F := F)).succeeds
  · intro red green blue spells
    exact spells.returns_exactly
  · intro red green blue hex
    exact ⟨hex.spells, hex.le⟩
  · rintro characters isText alphanumeric ⟨red, green, blue, spells⟩
    have noSign : characters.head? ≠ some '#' := by
      intro sign
      exact absurd (alphanumeric '#' (List.mem_of_mem_head? sign)) (by decide)
    have behind := spells.behind
    rw [isText, show ('#' :: characters).dropWhile (· = '#') = characters from
      dropWhile_numberSigns 1 noSign] at behind
    obtain ⟨redByte, greenByte, blueByte, hex⟩ := behind.exists_hexDigits alphanumeric
    exact ⟨redByte, greenByte, blueByte, characters, isText, hex⟩

/-- In double precision a short colour is read as its bytes, and five digits are refused. -/
theorem amber_read : HexColour "#Fa0" 255 170 0 ∧
    Returns (fun colour : Rgb Float => colour.IsExactly 255 170 0) (hexToRgb "#Fa0") ∧
    hexToRgb (F := Float) "#12345" = Result.ofTheme (.notHex "#12345") := by
  have hex : HexColour "#Fa0" 255 170 0 :=
    ⟨['F', 'a', '0'], rfl, show HexDigits _ (16 * 15 + 15) (16 * 10 + 10) (16 * 0 + 0) from
      .short ⟨by decide, by decide⟩ ⟨by decide, by decide⟩ ⟨by decide, by decide⟩⟩
  have fiveDigits : channels? "#12345" = none := by decide
  obtain ⟨_, read, _, bytes, _⟩ := read_exactly_if_spelled (F := Float) "#Fa0"
  obtain ⟨_, _, refused, _⟩ := read_exactly_if_spelled (F := Float) "#12345"
  refine ⟨hex, read _ _ _ (bytes _ _ _ hex).1, refused ?_⟩
  intro red green blue spells
  rw [channels?_eq_some_iff.mpr spells] at fiveDigits
  cases fiveDigits

/-- Two texts that are no hexadecimal colours are read: one with signs in the place of digits, as
channels below zero, and one with two number signs. -/
theorem signs_read : (¬∃ red green blue, HexColour "#-1-1-1" red green blue) ∧
    Returns (fun colour : Rgb Float => colour.IsExactly (-1) (-1) (-1)) (hexToRgb "#-1-1-1") ∧
    (¬∃ red green blue, HexColour "##fa0" red green blue) ∧
    Returns (fun colour : Rgb Float => colour.IsExactly 255 170 0) (hexToRgb "##fa0") := by
  have signs : Spells "#-1-1-1" (-1) (-1) (-1) := channels?_eq_some_iff.mp (by decide)
  have doubled : Spells "##fa0" 255 170 0 := channels?_eq_some_iff.mp (by decide)
  rw [← isHexCharacters_iff, ← isHexCharacters_iff]
  exact ⟨by decide, signs.returns_exactly, by decide, doubled.returns_exactly⟩

end MapStyle.Colour
