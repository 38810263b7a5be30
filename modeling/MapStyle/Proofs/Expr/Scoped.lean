import MapStyle.Proofs.Expr.Shown

/-!
# Expressions with named values

The value that the renderer finds for an expression in which values are given names and texts are
taken apart and put together. A name stands for the value that was given to it last. A text is
counted in characters; a position below zero is counted from its end, and one that lies before its
beginning is its beginning. Everything else has the value that it means.
-/

namespace MapStyle

set_option autoImplicit false

variable {F : Type}

/-- Named values, those that were named last first. -/
abbrev Scope (F : Type) := List (String × Json F)

namespace Json

def text? : Json F → Option String
  | .text value => some value
  | _ => none

def whole? : Json F → Option Int
  | .number (.int value) => some value
  | _ => none

end Json

/-- The place in a text of some length that a position stands for. -/
def placeIn (length : Nat) (position : Int) : Nat :=
  if position < 0 then (length + position).toNat else position.toNat

/-- The part of a text between two positions. -/
def sliced (text : String) (start finish : Int) : String :=
  .ofList ((text.toList.take (placeIn text.length finish)).drop (placeIn text.length start))

variable [Arithmetic F]

namespace Expr

mutual

def valueIn (feature : Feature F) : Expr F → Scope F → Option (Json F)
  | .op "var" [.text name], scope => scope.lookup name
  | .op "let" [.text name, value, body], scope => do
      valueIn feature body ((name, ← valueIn feature value scope) :: scope)
  | .op "coalesce" values, scope => firstGiven feature values scope
  | .op "concat" parts, scope => (joined feature parts scope).map .text
  | .op "length" [value], scope => do
      return .number (.int (← (← valueIn feature value scope).text?).length)
  | .op "slice" [value, start], scope => do
      let text ← (← valueIn feature value scope).text?
      return .text (sliced text (← (← valueIn feature start scope).whole?) text.length)
  | .op "slice" [value, start, finish], scope => do
      let text ← (← valueIn feature value scope).text?
      let first ← (← valueIn feature start scope).whole?
      return .text (sliced text first (← (← valueIn feature finish scope).whole?))
  | .op "-" [left, right], scope => do
      let minuend ← (← valueIn feature left scope).whole?
      return .number (.int (minuend - (← (← valueIn feature right scope).whole?)))
  | .op "==" [left, right], scope => do
      return .bool ((← valueIn feature left scope).isSame (← valueIn feature right scope))
  | .op "case" branches, scope => firstHoldingIn feature branches scope
  | expression, _ => expression.meaning feature
termination_by structural expression => expression

/-- The first value that is not null, else null. -/
def firstGiven (feature : Feature F) : List (Expr F) → Scope F → Option (Json F)
  | [], _ => some .null
  | value :: rest, scope => do
      match ← valueIn feature value scope with
      | .null => firstGiven feature rest scope
      | given => return given
termination_by structural values => values

/-- The texts that several expressions stand for, one after the other. -/
def joined (feature : Feature F) : List (Expr F) → Scope F → Option String
  | [], _ => some ""
  | part :: rest, scope => do
      return (← (← valueIn feature part scope).text?) ++ (← joined feature rest scope)
termination_by structural parts => parts

/-- The output behind the first condition that holds, else the last output. -/
def firstHoldingIn (feature : Feature F) : List (Expr F) → Scope F → Option (Json F)
  | [], _ => none
  | [fallback], scope => valueIn feature fallback scope
  | condition :: output :: rest, scope => do
      if ← (← valueIn feature condition scope).truth? then valueIn feature output scope
      else firstHoldingIn feature rest scope
termination_by structural branches => branches

end

variable {feature : Feature F} {scope : Scope F}

theorem valueIn_variable (name : String) :
    (variableNamed name : Expr F).valueIn feature scope = scope.lookup name :=
  rfl

theorem valueIn_text (text : String) :
    (.text text : Expr F).valueIn feature scope = some (.text text) :=
  rfl

theorem valueIn_get (property : String) :
    (.get property : Expr F).valueIn feature scope = some ((feature property).getD .null) :=
  rfl

/-- A body is read with the value under its name. -/
theorem valueIn_bind {name : String} {value body : Expr F} {given : Json F}
    (found : value.valueIn feature scope = some given) :
    (Expr.bind name value body).valueIn feature scope =
      body.valueIn feature ((name, given) :: scope) := by
  show (value.valueIn feature scope).bind _ = _
  rw [found]
  rfl

theorem valueIn_length {value : Expr F} {text : String}
    (found : value.valueIn feature scope = some (.text text)) :
    (Expr.length value).valueIn feature scope = some (.number (.int text.length)) := by
  show (value.valueIn feature scope).bind _ = _
  rw [found]
  rfl

theorem valueIn_difference {left right : Expr F} {minuend subtrahend : Int}
    (leftFound : left.valueIn feature scope = some (.number (.int minuend)))
    (rightFound : right.valueIn feature scope = some (.number (.int subtrahend))) :
    (difference left right).valueIn feature scope =
      some (.number (.int (minuend - subtrahend))) := by
  show (left.valueIn feature scope).bind _ = _
  rw [leftFound, rightFound]
  rfl

/-- The part of a text from a position to its end. -/
theorem valueIn_slice_end {value : Expr F} {text : String} (start : Int)
    (found : value.valueIn feature scope = some (.text text)) :
    (slice value (.number (.int start)) .null).valueIn feature scope =
      some (.text (sliced text start text.length)) := by
  show (value.valueIn feature scope).bind _ = _
  rw [found]
  rfl

/-- The part of a text between two positions. -/
theorem valueIn_slice {value start finish : Expr F} {text : String} {first last : Int}
    (found : value.valueIn feature scope = some (.text text))
    (startFound : start.valueIn feature scope = some (.number (.int first)))
    (finishFound : finish.valueIn feature scope = some (.number (.int last))) :
    (slice value start finish).valueIn feature scope = some (.text (sliced text first last)) := by
  have unfolded : (slice value start finish).valueIn feature scope =
      (Expr.op "slice" [value, start, finish]).valueIn feature scope := by
    cases finish with
    | null => cases finishFound
    | _ => rfl
  rw [unfolded]
  show (value.valueIn feature scope).bind _ = _
  rw [found, startFound, finishFound]
  rfl

/-- Two texts are compared as texts. -/
theorem valueIn_equal {left right : Expr F} {first second : String}
    (leftFound : left.valueIn feature scope = some (.text first))
    (rightFound : right.valueIn feature scope = some (.text second)) :
    (equal left right).valueIn feature scope = some (.bool (first == second)) := by
  show (left.valueIn feature scope).bind _ = _
  rw [leftFound, rightFound]
  rfl

/-- Two texts are put together. -/
theorem valueIn_concat {left right : Expr F} {first second : String}
    (leftFound : left.valueIn feature scope = some (.text first))
    (rightFound : right.valueIn feature scope = some (.text second)) :
    (concat [left, right]).valueIn feature scope = some (.text (first ++ second)) := by
  have rest : joined feature [right] scope = some second := by
    simp [joined, rightFound, Json.text?]
  show ((left.valueIn feature scope).bind _).map Json.text = _
  rw [leftFound, rest]
  rfl

/-- Branches made of the entries of a table: the output of the first entry that is hit, and the
branches behind them if none is. -/
theorem valueIn_caseNode_table {Entry : Type} {table : List Entry}
    {branch : Entry → Expr F × Expr F} {hit : Entry → Bool} {branches : List (Expr F × Expr F)}
    {fallback : Expr F}
    (decided : ∀ entry ∈ table,
      (branch entry).1.valueIn feature scope = some (.bool (hit entry))) :
    (caseNode (table.map branch ++ branches) fallback).valueIn feature scope =
      match table.find? hit with
      | some entry => (branch entry).2.valueIn feature scope
      | none => (caseNode branches fallback).valueIn feature scope := by
  induction table with
  | nil => rfl
  | cons entry others ih =>
      have first := decided entry List.mem_cons_self
      have later := ih fun other listed => decided other (List.mem_cons_of_mem entry listed)
      show ((branch entry).1.valueIn feature scope).bind _ = _
      rw [first, List.find?_cons]
      cases hit entry with
      | true => rfl
      | false => exact later

theorem Keeps.nothing {α : Type} {after : Option α} : Keeps none after :=
  fun _ found => nomatch found

/-- What an expression means is its value in every scope. -/
theorem keeps_valueIn (expression : Expr F) :
    Keeps (expression.meaning feature) (expression.valueIn feature scope) := by
  refine And.left (@valueIn.mutual_induct F
    (fun expression scope =>
      Keeps (expression.meaning feature) (expression.valueIn feature scope))
    (fun branches scope =>
      Keeps (firstHolding feature branches) (firstHoldingIn feature branches scope))
    (fun _ _ => True) (fun _ _ => True)
    ?named ?bind ?coalesce ?concat ?length ?sliceEnd ?slice ?difference ?equal ?branches ?other
    ?noBranch ?lastBranch ?nextBranch ?noPart ?nextPart ?noValue ?nextValue) expression scope
  case named | bind | coalesce | concat | length | sliceEnd | slice | difference =>
    intros
    exact Keeps.nothing
  case equal =>
    intro left right scope leftKept rightKept
    exact leftKept.bind fun _ => rightKept.bind fun _ => Keeps.refl _
  case branches =>
    intro branches scope kept
    exact kept
  case other =>
    -- Every other expression has the value that it means.
    intro expression scope
    intros
    simp [valueIn, Keeps, *]
  case noBranch =>
    intro scope
    exact Keeps.refl _
  case lastBranch =>
    intro fallback scope kept
    exact kept
  case nextBranch =>
    intro condition output rest scope conditionKept outputKept restKept
    refine conditionKept.bind fun value => (Keeps.refl _).bind fun truth => ?_
    cases truth with
    | true => exact outputKept
    | false => exact restKept
  case noPart | nextPart | noValue | nextValue =>
    intros
    trivial

end Expr

/-! ### Parts of a text -/

omit [Arithmetic F]

@[simp] theorem placeIn_whole (length place : Nat) : placeIn length place = place := by
  rw [placeIn, if_neg (by omega)]
  omega

/-- A position counted from the end. -/
theorem placeIn_back {length count : Nat} (fits : count ≤ length) :
    placeIn length (length - count : Int) = length - count := by
  rw [placeIn, if_neg (by omega)]
  omega

theorem toList_sliced (text : String) (start finish : Int) :
    (sliced text start finish).toList =
      (text.toList.take (placeIn text.length finish)).drop (placeIn text.length start) :=
  String.toList_ofList

theorem sliced_append_start (word rest : String) :
    sliced (word ++ rest) 0 word.length = word := by
  apply String.toList_injective
  have start : placeIn (word ++ rest).length 0 = 0 := placeIn_whole _ 0
  rw [toList_sliced, start, placeIn_whole, String.toList_append, ← String.length_toList]
  simp

theorem sliced_append_rest (word rest : String) :
    sliced (word ++ rest) word.length (word ++ rest).length = rest := by
  apply String.toList_injective
  rw [toList_sliced, placeIn_whole, placeIn_whole, ← String.length_toList, ← String.length_toList,
    List.take_length, String.toList_append, List.drop_left]

/-- A text begins with a word exactly if its first characters are this word. -/
theorem sliced_start_eq_iff {text word : String} :
    sliced text 0 word.length = word ↔ ∃ rest, text = word ++ rest := by
  constructor
  · intro same
    have begins := congrArg String.toList same
    have start : placeIn text.length 0 = 0 := placeIn_whole _ 0
    rw [toList_sliced, start, placeIn_whole, List.drop_zero, ← String.length_toList] at begins
    obtain ⟨rest, split⟩ := List.prefix_iff_eq_take.mpr begins.symm
    refine ⟨.ofList rest, String.toList_injective ?_⟩
    rw [String.toList_append, String.toList_ofList, split]
  · rintro ⟨rest, rfl⟩
    exact sliced_append_start word rest

/-- The end of a text that a word of some length would take up, if the text is that long. -/
theorem toList_sliced_end {text : String} {count : Nat} (fits : count ≤ text.length) :
    (sliced text (text.length - count) text.length).toList =
      text.toList.drop (text.length - count) := by
  rw [toList_sliced, placeIn_back fits, placeIn_whole, ← String.length_toList, List.take_length]

/-- A text ends with a word exactly if its last characters are this word. In a text that is
shorter than the word the positions reach beyond the beginning, and too few characters are
left. -/
theorem sliced_end_eq_iff {text word : String} :
    sliced text (text.length - word.length) text.length = word ↔ ∃ start, text = start ++ word := by
  constructor
  · intro same
    have ends := congrArg String.toList same
    have fits : word.length ≤ text.length := by
      have sizes := congrArg List.length ends
      rw [toList_sliced, List.length_drop, List.length_take, String.length_toList,
        String.length_toList] at sizes
      omega
    rw [toList_sliced_end fits, ← String.length_toList, ← String.length_toList] at ends
    obtain ⟨start, split⟩ := List.suffix_iff_eq_drop.mpr ends.symm
    refine ⟨.ofList start, String.toList_injective ?_⟩
    rw [String.toList_append, String.toList_ofList, split]
  · rintro ⟨start, rfl⟩
    have fits : word.length ≤ (start ++ word).length := by simp
    apply String.toList_injective
    rw [toList_sliced_end fits, String.toList_append, String.length_append, Nat.add_sub_cancel,
      ← String.length_toList, List.drop_left]

/-- What stands before the word that a text ends with. -/
theorem sliced_append_before (start word : String) :
    sliced (start ++ word) 0 ((start ++ word).length - word.length) = start := by
  have fits : word.length ≤ (start ++ word).length := by simp
  have first : placeIn (start ++ word).length 0 = 0 := placeIn_whole _ 0
  apply String.toList_injective
  rw [toList_sliced, placeIn_back fits, first, List.drop_zero, String.toList_append,
    String.length_append, Nat.add_sub_cancel, ← String.length_toList, List.take_left]

end MapStyle
