import MapStyle.Expr.LabelText
import MapStyle.Proofs.Expr.Scoped
import MapStyle.Proofs.Number.Exact

/-!
# Abbreviated names

A label shows the display name of a feature with the direction that it begins with and the street
word that it ends with abbreviated. Both are described here for texts, without any expression: a
text is shortened in one way only, and the expression for abbreviated labels has this text as its
value, however short the name is.
-/

namespace MapStyle.LabelText

set_option autoImplicit false

open MapStyle.Expr

def compassWords : List String := ["North", "South", "East", "West"]

/-- The letter that a word begins with. -/
def letter (word : String) : String := .ofList (word.toList.take 1)

/-- What becomes of the direction that a text begins with, or that it is. -/
inductive DirectionShortened : String → String → Prop
  | leading {word : String} (rest : String) (listed : word ∈ compassWords) :
      DirectionShortened (word ++ " " ++ rest) (letter word ++ " " ++ rest)
  | alone {word : String} (listed : word ∈ compassWords) : DirectionShortened word (letter word)
  | kept {text : String} (unlisted : text ∉ compassWords)
      (headless : ∀ word ∈ compassWords, ∀ rest, text ≠ word ++ " " ++ rest) :
      DirectionShortened text text

/-- What becomes of the street word that a text ends with. -/
inductive StreetShortened : String → String → Prop
  | ending {word short : String} (start : String) (listed : (word, short) ∈ streetWords) :
      StreetShortened (start ++ word) (start ++ short)
  | kept {text : String} (endless : ∀ entry ∈ streetWords, ∀ start, text ≠ start ++ entry.1) :
      StreetShortened text text

/-- What becomes of a name: first of its direction and then of its street word. -/
def Shortened (text result : String) : Prop :=
  ∃ directed, DirectionShortened text directed ∧ StreetShortened directed result

/-! ### A text is shortened in one way only -/

/-- No direction begins with another one and a blank, nor is it the beginning of another one. -/
theorem compassWords_apart :
    ∀ first ∈ compassWords, ∀ second ∈ compassWords,
      ¬ (first.toList ++ [' ']) <+: second.toList ∧
        ((first.toList ++ [' ']) <+: (second.toList ++ [' ']) → first = second) := by
  decide

/-- No street word ends with another one. -/
theorem streetWords_apart :
    ∀ first ∈ streetWords, ∀ second ∈ streetWords,
      first.1.toList <:+ second.1.toList → first = second := by
  decide

theorem toList_leading (word rest : String) :
    (word ++ " " ++ rest).toList = word.toList ++ [' '] ++ rest.toList := by
  simp

theorem append_blank_ne {first second : String} (firstListed : first ∈ compassWords)
    (secondListed : second ∈ compassWords) (rest : String) : first ++ " " ++ rest ≠ second := by
  rintro rfl
  apply (compassWords_apart first firstListed _ secondListed).1
  rw [toList_leading]
  exact List.prefix_append _ _

/-- A text begins with one direction at most, and leaves one rest behind it. -/
theorem append_blank_inj {first second firstRest secondRest : String}
    (firstListed : first ∈ compassWords) (secondListed : second ∈ compassWords)
    (same : first ++ " " ++ firstRest = second ++ " " ++ secondRest) :
    first = second ∧ firstRest = secondRest := by
  have chars := congrArg String.toList same
  rw [toList_leading, toList_leading] at chars
  have equal : first = second := by
    have firstBegins : (first.toList ++ [' ']) <+: (second.toList ++ [' '] ++ secondRest.toList) :=
      ⟨firstRest.toList, chars⟩
    rcases List.prefix_or_prefix_of_prefix firstBegins (List.prefix_append _ _) with within | within
    · exact (compassWords_apart first firstListed second secondListed).2 within
    · exact ((compassWords_apart second secondListed first firstListed).2 within).symm
  subst equal
  exact ⟨rfl, String.toList_injective (List.append_cancel_left chars)⟩

theorem DirectionShortened.unique {text left right : String}
    (first : DirectionShortened text left) (second : DirectionShortened text right) :
    left = right := by
  generalize same : text = other at second
  cases first with
  | @leading word rest listed =>
      cases second with
      | @leading otherWord otherRest otherListed =>
          obtain ⟨rfl, rfl⟩ := append_blank_inj listed otherListed same
          rfl
      | alone otherListed => exact absurd same (append_blank_ne listed otherListed rest)
      | kept _ headless => exact absurd same.symm (headless word listed rest)
  | alone listed =>
      cases second with
      | leading otherRest otherListed =>
          exact absurd same.symm (append_blank_ne otherListed listed otherRest)
      | alone otherListed => rw [same]
      | kept unlisted _ => exact absurd (same ▸ listed) unlisted
  | kept unlisted headless =>
      cases second with
      | leading otherRest otherListed => exact absurd same (headless _ otherListed otherRest)
      | alone otherListed => exact absurd (same ▸ otherListed) unlisted
      | kept _ _ => exact same

/-- A text ends with one street word at most, and leaves one beginning before it. -/
theorem append_street_inj {first second : String × String} {firstStart secondStart : String}
    (firstListed : first ∈ streetWords) (secondListed : second ∈ streetWords)
    (same : firstStart ++ first.1 = secondStart ++ second.1) :
    firstStart = secondStart ∧ first = second := by
  have chars := congrArg String.toList same
  rw [String.toList_append, String.toList_append] at chars
  have equal : first = second := by
    have firstEnds : first.1.toList <:+ (secondStart.toList ++ second.1.toList) :=
      ⟨firstStart.toList, chars⟩
    rcases List.suffix_or_suffix_of_suffix firstEnds (List.suffix_append _ _) with within | within
    · exact streetWords_apart first firstListed second secondListed within
    · exact (streetWords_apart second secondListed first firstListed within).symm
  subst equal
  exact ⟨String.toList_injective (List.append_cancel_right chars), rfl⟩

theorem StreetShortened.unique {text left right : String}
    (first : StreetShortened text left) (second : StreetShortened text right) : left = right := by
  generalize same : text = other at second
  cases first with
  | ending start listed =>
      cases second with
      | ending otherStart otherListed =>
          obtain ⟨rfl, equal⟩ := append_street_inj listed otherListed same
          rw [(Prod.mk.inj equal).2]
      | kept endless => exact absurd same.symm (endless _ listed start)
  | kept endless =>
      cases second with
      | ending otherStart otherListed => exact absurd same (endless _ otherListed otherStart)
      | kept _ => exact same

theorem Shortened.unique {text left right : String} (first : Shortened text left)
    (second : Shortened text right) : left = right := by
  obtain ⟨directed, toDirected, toLeft⟩ := first
  obtain ⟨other, toOther, toRight⟩ := second
  obtain rfl := toDirected.unique toOther
  exact toLeft.unique toRight

/-! ### What the expression makes of a name -/

section Value

variable {F : Type} [Arithmetic F] {feature : Feature F} {scope : Scope F} {shown : Expr F}
  {text : String}

/-- The name that is displayed for a feature: the English name unless it has none, else the local
name. -/
def displayName (feature : Feature F) : Json F :=
  match (feature "name:en").getD .null with
  | .null => (feature "name").getD .null
  | english => english

theorem valueIn_name : (name : Expr F).valueIn feature scope = some (displayName feature) := by
  show firstGiven feature [.get "name:en", .get "name"] scope = _
  simp only [firstGiven, valueIn_get, displayName, Option.bind_eq_bind, Option.bind_some]
  cases (feature "name:en").getD .null with
  | null => cases (feature "name").getD .null <;> rfl
  | _ => rfl

theorem valueIn_size (word : String) :
    (size word : Expr F).valueIn feature scope = some (.number (.int word.length)) :=
  rfl

omit [Arithmetic F] in
theorem directionBranches_eq (shown : Expr F) :
    directionBranches shown =
      (directions.map fun entry =>
        (equal (slice shown 0 (size (entry.1 ++ " "))) (.text (entry.1 ++ " ")),
          concat [.text (entry.2 ++ " "), slice shown (size (entry.1 ++ " ")) .null])) ++
      ((directions.map fun entry => (equal shown (.text entry.1), .text entry.2)) ++ []) :=
  rfl

/-- The directions are the words of the compass with their letters. -/
theorem mem_directions {entry : String × String} :
    entry ∈ directions ↔ entry.1 ∈ compassWords ∧ entry.2 = letter entry.1 := by
  have listed : directions = compassWords.map fun word => (word, letter word) := by decide
  rw [listed, List.mem_map]
  constructor
  · rintro ⟨word, isWord, rfl⟩
    exact ⟨isWord, rfl⟩
  · rintro ⟨isWord, isLetter⟩
    exact ⟨entry.1, isWord, Prod.ext rfl isLetter.symm⟩

/-- The choice between the directions has the text with its direction shortened as its value. -/
theorem exists_directed (found : shown.valueIn feature scope = some (.text text)) :
    ∃ directed, DirectionShortened text directed ∧
      (caseNode (directionBranches shown) shown).valueIn feature scope = some (.text directed) := by
  have start : (0 : Expr F).valueIn feature scope = some (.number (.int 0)) := rfl
  rw [directionBranches_eq,
    valueIn_caseNode_table fun entry _ =>
      valueIn_equal (valueIn_slice found start (valueIn_size _)) (valueIn_text (entry.1 ++ " ")),
    valueIn_caseNode_table fun entry _ => valueIn_equal found (valueIn_text entry.1)]
  cases leading : directions.find? _ with
  | some entry =>
      have hit := List.find?_some leading
      obtain ⟨isWord, isLetter⟩ := mem_directions.mp (List.mem_of_find?_eq_some leading)
      obtain ⟨rest, rfl⟩ := sliced_start_eq_iff.mp (beq_iff_eq.mp hit)
      have behind := valueIn_slice_end (entry.1 ++ " ").length found
      rw [sliced_append_rest] at behind
      refine ⟨letter entry.1 ++ " " ++ rest, .leading rest isWord, ?_⟩
      rw [← isLetter]
      exact valueIn_concat (valueIn_text _) behind
  | none =>
      rw [List.find?_eq_none] at leading
      have headless (word) (isWord : word ∈ compassWords) (rest) : text ≠ word ++ " " ++ rest := by
        intro begins
        have missed := leading (word, letter word) (mem_directions.mpr ⟨isWord, rfl⟩)
        exact missed (beq_iff_eq.mpr (sliced_start_eq_iff.mpr ⟨rest, begins⟩))
      cases alone : directions.find? _ with
      | some entry =>
          have hit := List.find?_some alone
          obtain ⟨isWord, isLetter⟩ := mem_directions.mp (List.mem_of_find?_eq_some alone)
          obtain rfl := beq_iff_eq.mp hit
          refine ⟨letter entry.1, .alone isWord, ?_⟩
          rw [← isLetter]
          rfl
      | none =>
          rw [List.find?_eq_none] at alone
          refine ⟨text, .kept (fun isWord => ?_) headless, found⟩
          have missed := alone (text, letter text) (mem_directions.mpr ⟨isWord, rfl⟩)
          exact missed (beq_iff_eq.mpr rfl)

/-- The street words with the blank that may stand before them, in the order of their branches. -/
def streetEntries : List (String × String × String) :=
  [" ", ""].flatMap fun gap => streetWords.map fun entry => (gap, entry)

omit [Arithmetic F] in
theorem streetBranches_eq (shown size : Expr F) :
    streetBranches shown size =
      (streetEntries.map fun entry =>
        (equal (slice shown (difference size (LabelText.size (entry.1 ++ entry.2.1))) size)
            (.text (entry.1 ++ entry.2.1)),
          concat [slice shown 0 (difference size (LabelText.size (entry.1 ++ entry.2.1))),
            .text (entry.1 ++ entry.2.2)])) ++ [] :=
  rfl

/-- The choice between the street words has the text with its street word shortened as its
value. -/
theorem exists_shortened {size : Expr F} (found : shown.valueIn feature scope = some (.text text))
    (sizeFound : size.valueIn feature scope = some (.number (.int text.length))) :
    ∃ result, StreetShortened text result ∧
      (caseNode (streetBranches shown size) shown).valueIn feature scope = some (.text result) := by
  have start : (0 : Expr F).valueIn feature scope = some (.number (.int 0)) := rfl
  have cut (word : String) := valueIn_difference sizeFound (valueIn_size word)
  rw [streetBranches_eq,
    valueIn_caseNode_table fun entry _ =>
      valueIn_equal (valueIn_slice found (cut (entry.1 ++ entry.2.1)) sizeFound)
        (valueIn_text (entry.1 ++ entry.2.1))]
  cases ending : streetEntries.find? _ with
  | some entry =>
      have hit := List.find?_some ending
      obtain ⟨gap, _, listed⟩ := List.mem_flatMap.mp (List.mem_of_find?_eq_some ending)
      obtain ⟨⟨word, short⟩, isStreet, rfl⟩ := List.mem_map.mp listed
      obtain ⟨before, rfl⟩ := sliced_end_eq_iff.mp (beq_iff_eq.mp hit)
      have kept := valueIn_slice found start (cut (gap ++ word))
      rw [sliced_append_before] at kept
      refine ⟨before ++ (gap ++ short), ?_, valueIn_concat kept (valueIn_text _)⟩
      rw [← String.append_assoc, ← String.append_assoc]
      exact .ending (before ++ gap) isStreet
  | none =>
      rw [List.find?_eq_none] at ending
      refine ⟨text, .kept fun entry listed before ends => ?_, found⟩
      have missed := ending ("", entry)
        (List.mem_flatMap.mpr ⟨"", by simp, List.mem_map_of_mem listed⟩)
      exact missed (beq_iff_eq.mpr (sliced_end_eq_iff.mpr ⟨before, by rwa [String.empty_append]⟩))

/-- The value of the abbreviated name is the display name with its direction and its street word
shortened, and no other text is. -/
theorem valueIn_abbreviated (named : displayName feature = .text text) :
    ∃ result, (abbreviated : Expr F).valueIn feature [] = some (.text result) ∧
      Shortened text result ∧ ∀ other, Shortened text other → other = result := by
  have full : (name : Expr F).valueIn feature [] = some (.text text) := by rw [valueIn_name, named]
  have nameFound : (variableNamed "name" : Expr F).valueIn feature [("name", .text text)] =
      some (.text text) := valueIn_variable "name"
  obtain ⟨directed, toDirected, directedValue⟩ := exists_directed nameFound
  have directedFound : (variableNamed "dirReplaced" : Expr F).valueIn feature
      [("dirReplaced", .text directed), ("name", .text text)] = some (.text directed) :=
    valueIn_variable "dirReplaced"
  have sized := valueIn_length directedFound
  have stillFound : (variableNamed "dirReplaced" : Expr F).valueIn feature
      [("len", .number (.int directed.length)), ("dirReplaced", .text directed),
        ("name", .text text)] = some (.text directed) := valueIn_variable "dirReplaced"
  obtain ⟨result, toResult, resultValue⟩ := exists_shortened stillFound (valueIn_variable "len")
  have shortened : Shortened text result := ⟨directed, toDirected, toResult⟩
  refine ⟨result, ?_, shortened, fun other toOther => toOther.unique shortened⟩
  rw [abbreviated, valueIn_bind full, valueIn_bind directedValue, valueIn_bind sized]
  exact resultValue

end Value

/-- The display name of a street with a direction before it. -/
def northMainStreet : Feature Rat
  | "name" => some (.text "North Main Street")
  | _ => none

theorem valueIn_abbreviated_northMainStreet :
    displayName northMainStreet = .text "North Main Street" ∧
      abbreviated.valueIn northMainStreet [] = some (.text "N Main St") := by
  have named : displayName northMainStreet = .text "North Main Street" := rfl
  have shortened : Shortened "North Main Street" "N Main St" :=
    ⟨"N Main Street", .leading "Main Street" (show "North" ∈ compassWords by decide),
      .ending "N Main " (show ("Street", "St") ∈ streetWords by decide)⟩
  obtain ⟨result, value, _, only⟩ := valueIn_abbreviated named
  rw [only _ shortened]
  exact ⟨named, value⟩

end MapStyle.LabelText
