import MapStyle.Proofs.Json.Numeral
import MapStyle.Proofs.Text.Beginning

/-!
# Characters that are written

The text of a value holds basic Latin characters and line feeds only. So it has one kind of line
breaks, and unifying them changes nothing.
-/

namespace MapStyle.Json

set_option autoImplicit false

open MapStyle.Text (hexText)

/-- A basic Latin character, or the line feed. -/
def Plain (character : Char) : Prop :=
  character = '\n' ∨ 32 ≤ character.toNat ∧ character.toNat < 127

instance (character : Char) : Decidable (Plain character) :=
  inferInstanceAs (Decidable (_ ∨ _))

def AllPlain (characters : List Char) : Prop :=
  ∀ character ∈ characters, Plain character

instance (characters : List Char) : Decidable (AllPlain characters) :=
  decidable_of_iff (characters.all fun character => decide (Plain character)) (by simp [AllPlain])

theorem AllPlain.append {left right : List Char} (leftPlain : AllPlain left)
    (rightPlain : AllPlain right) : AllPlain (left ++ right) := by
  intro character member
  exact (List.mem_append.mp member).elim (leftPlain character) (rightPlain character)

theorem AllPlain.cons {first : Char} {rest : List Char} (firstPlain : Plain first)
    (restPlain : AllPlain rest) : AllPlain (first :: rest) :=
  List.forall_mem_cons.mpr ⟨firstPlain, restPlain⟩

/-! ### Texts -/

theorem plain_digitChar : ∀ digit < 16, Plain (Nat.digitChar digit) := by
  decide

theorem allPlain_toDigits {base : Nat} (least : 1 < base) (most : base ≤ 16) (value : Nat) :
    AllPlain (Nat.toDigits base value) := by
  induction value using Nat.strongRecOn with
  | ind value ih =>
      rcases Nat.lt_or_ge value base with small | large
      · rw [Nat.toDigits_of_lt_base small]
        exact .cons (plain_digitChar value (by omega)) (by decide)
      · have less : value / base < value := Nat.div_lt_self (by omega) least
        have digit : value % base < base := Nat.mod_lt value (by omega)
        rw [Nat.toDigits_of_base_le least large]
        exact (ih (value / base) less).append
          (.cons (plain_digitChar (value % base) (by omega)) (by decide))

theorem allPlain_unitEscape (unit : Nat) : AllPlain (unitEscape unit) := by
  have zeros (count : Nat) : AllPlain (List.replicate count '0') := by
    intro character member
    rw [List.eq_of_mem_replicate member]
    decide
  have written : unitEscape unit = ['\\', 'u'] ++
      (List.replicate (4 - (Nat.toDigits 16 unit).length) '0' ++ Nat.toDigits 16 unit) := by
    simp [unitEscape, hexText]
  rw [written]
  exact .append (by decide)
    ((zeros _).append (allPlain_toDigits (by decide) (le_refl 16) unit))

theorem allPlain_escapedCharacter (character : Char) : AllPlain (escapedCharacter character) := by
  unfold escapedCharacter
  dsimp only
  split_ifs with _ _ _ _ _ _ _ plain _
  · decide
  · decide
  · decide
  · decide
  · decide
  · decide
  · decide
  · exact .cons (.inr plain) (by decide)
  · exact allPlain_unitEscape _
  · exact (allPlain_unitEscape _).append (allPlain_unitEscape _)

theorem allPlain_escaped (text : String) : AllPlain (escaped text).toList := by
  rw [escaped, String.toList_ofList]
  apply AllPlain.cons (by decide)
  apply AllPlain.append _ (by decide)
  intro character member
  obtain ⟨own, _, inOwn⟩ := List.mem_flatMap.mp member
  exact allPlain_escapedCharacter own character inOwn

/-! ### Numbers -/

theorem plain_of_isLatinDigit {digit : Char} (isDigit : isLatinDigit digit = true) : Plain digit := by
  simp only [isLatinDigit, Bool.and_eq_true, decide_eq_true_eq] at isDigit
  exact .inr ⟨by omega, by omega⟩

theorem allPlain_characters {numeral : Numeral} (wellFormed : numeral.WellFormed) :
    AllPlain numeral.characters := by
  have digits {characters : List Char} (all : ∀ digit ∈ characters, isLatinDigit digit = true) :
      AllPlain characters := fun digit member => plain_of_isLatinDigit (all digit member)
  apply (digits wellFormed.wholeDigits).append
  apply AllPlain.append
  · unfold pointed
    split
    · decide
    · exact .cons (by decide) (digits wellFormed.fractionDigits)
  · cases isExponent : numeral.exponent with
    | none => decide
    | some exponent =>
        obtain ⟨negative, written⟩ := exponent
        have all := (wellFormed.exponentDigits negative written isExponent).2
        refine .cons (by decide) (.cons ?_ (digits all))
        cases negative <;> decide

theorem allPlain_numberText {F : Type} [Arithmetic F] [WrittenArithmetic F] (number : Number F) :
    AllPlain (numberText number).toList := by
  cases number with
  | flag value =>
      have words : AllPlain "true".toList ∧ AllPlain "false".toList := by decide
      cases value with
      | true => exact words.1
      | false => exact words.2
  | int value =>
      have digits := allPlain_toDigits (show 1 < 10 by decide) (by decide)
      cases value with
      | ofNat magnitude =>
          show AllPlain (toString magnitude).toList
          simpa using digits magnitude
      | negSucc magnitude =>
          show AllPlain ("-" ++ toString (magnitude + 1)).toList
          rw [String.toList_append]
          apply AllPlain.append (by decide)
          simpa using digits (magnitude + 1)
  | real value =>
      cases isFinite : Arithmetic.isFinite value with
      | true =>
          obtain ⟨numeral, negative, spells⟩ := WrittenArithmetic.spelled value isFinite
          have written : numberText (.real value) = Arithmetic.text value := if_pos isFinite
          rw [written, spells.characters]
          apply AllPlain.append _ (allPlain_characters spells.wellFormed)
          cases negative <;> decide
      | false =>
          have names : ∀ entry ∈ constants (F := F), AllPlain entry.1.toList := by
            simp only [constants, List.forall_mem_cons, List.not_mem_nil, false_implies,
              implies_true, and_true]
            decide
          exact names _ (WrittenArithmetic.named value isFinite)

/-! ### Values -/

theorem allPlain_lineBreak (depth : Nat) : AllPlain (lineBreak depth).toList := by
  rw [lineBreak, String.toList_ofList]
  apply AllPlain.cons (by decide)
  intro character member
  rw [List.eq_of_mem_replicate member]
  decide

theorem allPlain_intercalate {separator : String} {parts : List String}
    (separatorPlain : AllPlain separator.toList) (each : ∀ part ∈ parts, AllPlain part.toList) :
    AllPlain (separator.intercalate parts).toList := by
  induction parts with
  | nil =>
      rw [String.intercalate_nil]
      decide
  | cons first rest ih =>
      obtain ⟨firstPlain, restPlain⟩ := List.forall_mem_cons.mp each
      cases rest with
      | nil => rwa [String.intercalate_singleton]
      | cons second others =>
          rw [String.intercalate_cons_cons, String.toList_append, String.toList_append]
          exact (firstPlain.append separatorPlain).append (ih restPlain)

theorem allPlain_block {opening closing : String} {parts : List String} (depth : Nat)
    (openingPlain : AllPlain opening.toList) (closingPlain : AllPlain closing.toList)
    (each : ∀ part ∈ parts, AllPlain part.toList) :
    AllPlain (block opening closing depth parts).toList := by
  unfold block
  split
  · rw [String.toList_append]
    exact openingPlain.append closingPlain
  · simp only [String.toList_append]
    have separator : AllPlain ("," ++ lineBreak (depth + 1)).toList := by
      rw [String.toList_append]
      exact .append (by decide) (allPlain_lineBreak _)
    exact (((openingPlain.append (allPlain_lineBreak _)).append
      (allPlain_intercalate separator each)).append (allPlain_lineBreak _)).append closingPlain

mutual

theorem allPlain_indented {F : Type} [Arithmetic F] [WrittenArithmetic F] (depth : Nat) :
    (value : Json F) → AllPlain (value.indented depth).toList
  | .null => show AllPlain "null".toList by decide
  | .number value => allPlain_numberText value
  | .text value => allPlain_escaped value
  | .list items =>
      allPlain_block depth (by decide) (by decide) (allPlain_indentedItems (depth + 1) items)
  | .object entries =>
      allPlain_block depth (by decide) (by decide) (allPlain_indentedEntries (depth + 1) entries)

theorem allPlain_indentedItems {F : Type} [Arithmetic F] [WrittenArithmetic F] (depth : Nat) :
    (items : List (Json F)) → ∀ part ∈ indentedItems depth items, AllPlain part.toList
  | [] => by simp [indentedItems]
  | item :: rest =>
      List.forall_mem_cons.mpr ⟨allPlain_indented depth item, allPlain_indentedItems depth rest⟩

theorem allPlain_indentedEntries {F : Type} [Arithmetic F] [WrittenArithmetic F] (depth : Nat) :
    (entries : List (String × Json F)) → ∀ part ∈ indentedEntries depth entries, AllPlain part.toList
  | [] => by simp [indentedEntries]
  | (key, value) :: rest => by
      refine List.forall_mem_cons.mpr ⟨?_, allPlain_indentedEntries depth rest⟩
      rw [String.toList_append, String.toList_append]
      exact ((allPlain_escaped key).append (by decide)).append (allPlain_indented depth value)

end

/-- The text of a value has one kind of line breaks. -/
theorem unifiedBreaks_indented {F : Type} [Arithmetic F] [WrittenArithmetic F] (value : Json F)
    (depth : Nat) :
    Text.unifiedBreaks (value.indented depth) = value.indented depth := by
  have absent : '\r' ∉ (value.indented depth).toList := by
    intro member
    exact absurd (allPlain_indented depth value _ member) (by decide)
  have one : Text.replaced (value.indented depth) "\r\n" "\n" = value.indented depth := by
    unfold Text.replaced
    rw [show "\r\n".toList = ['\r', '\n'] from rfl, Text.replaceFrom_of_absent absent, String.ofList_toList]
  unfold Text.unifiedBreaks
  rw [one]
  unfold Text.replaced
  rw [show "\r".toList = ['\r'] from rfl, Text.replaceFrom_of_absent absent, String.ofList_toList]

end MapStyle.Json
