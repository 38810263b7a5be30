import Mathlib.Logic.Basic
import MapStyle.Text

/-!
# Beginnings of texts

What a text begins with, and what is left of it without that. A beginning in which a pattern cannot
occur, nor end in an occurrence of it, stays when the pattern is replaced.
-/

namespace MapStyle.Text

set_option autoImplicit false

section Replacing

variable {first : Char} {pattern replacement kept : List Char}

/-- What stands before the first character of any occurrence stays as it is. -/
theorem replaceFrom_append_of_absent (absent : first ∉ kept) (characters : List Char) :
    replaceFrom (first :: pattern) replacement 0 (kept ++ characters) =
      kept ++ replaceFrom (first :: pattern) replacement 0 characters := by
  induction kept with
  | nil => rfl
  | cons character rest ih =>
      obtain ⟨different, restAbsent⟩ := not_or.mp (List.mem_cons.not.mp absent)
      have noPrefix :
          (first :: pattern).isPrefixOf (character :: (rest ++ characters)) = false := by
        show (first == character && pattern.isPrefixOf (rest ++ characters)) = false
        rw [beq_false_of_ne different, Bool.false_and]
      calc replaceFrom (first :: pattern) replacement 0 (character :: rest ++ characters)
          = character :: replaceFrom (first :: pattern) replacement 0 (rest ++ characters) :=
            if_neg (Bool.eq_false_iff.mp noPrefix)
        _ = character :: rest ++ replaceFrom (first :: pattern) replacement 0 characters := by
            rw [ih restAbsent, List.cons_append]

/-- A text without a character stays as it is when what begins with the character is replaced. -/
theorem replaceFrom_of_absent (absent : first ∉ kept) :
    replaceFrom (first :: pattern) replacement 0 kept = kept := by
  have same : replaceFrom (first :: pattern) replacement 0 (kept ++ []) = kept ++ [] :=
    replaceFrom_append_of_absent absent []
  rwa [List.append_nil] at same

end Replacing

variable {text beginning rest : String}

theorem startsWith_iff : startsWith text beginning = true ↔ ∃ rest, text = beginning ++ rest := by
  rw [startsWith, List.isPrefixOf_iff_prefix]
  constructor
  · rintro ⟨rest, isText⟩
    refine ⟨String.ofList rest, ?_⟩
    rw [← String.toList_inj, String.toList_append, String.toList_ofList, isText]
  · rintro ⟨rest, rfl⟩
    exact ⟨rest.toList, by rw [String.toList_append]⟩

/-- A beginning without the first character of a pattern stays when the pattern is replaced. -/
theorem replaced_append {pattern : String} {first : Char} {others : List Char}
    (isPattern : pattern.toList = first :: others) (absent : first ∉ beginning.toList)
    (replacement : String) :
    replaced (beginning ++ rest) pattern replacement =
      beginning ++ replaced rest pattern replacement := by
  unfold replaced
  rw [isPattern, String.toList_append, replaceFrom_append_of_absent absent, String.ofList_append,
    String.ofList_toList]

theorem withoutBeginning_append : withoutBeginning (beginning ++ rest) beginning = rest := by
  rw [withoutBeginning, if_pos (startsWith_iff.mpr ⟨rest, rfl⟩), String.toList_append,
    ← String.length_toList, List.drop_left, String.ofList_toList]

theorem withoutBeginning_of_not (different : ¬startsWith text beginning = true) :
    withoutBeginning text beginning = text :=
  if_neg different

end MapStyle.Text
