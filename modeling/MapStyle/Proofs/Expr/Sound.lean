import MapStyle.Expr.ClassColour
import MapStyle.Expr.LabelText
import MapStyle.Proofs.Expr.Accepted
import MapStyle.Proofs.Outcome

/-!
# Parts of accepted expressions

An expression is accepted if its parts are and it is well formed itself. Whether the zoom occurs
in it is followed through the same rules, so that every expression that is built is looked at
once.
-/

namespace MapStyle.Expr

set_option autoImplicit false

variable {F : Type} [Arithmetic F] {zoomed : Bool}

/-- What is asked of every node: its form, and that it is not the zoom where that is not allowed. -/
structure NodeSound (zoomed : Bool) (node : Expr F) : Prop where
  wellFormed : WellFormed node
  noZoom : zoomed = false → ∀ operands, node ≠ .op "zoom" operands

/-- An expression is accepted; the zoom occurs in it only if it is `zoomed`. -/
structure Sound (zoomed : Bool) (value : Expr F) : Prop where
  noGroup : ∀ values, value ≠ .labels values
  nodes : Everywhere (NodeSound zoomed) value

namespace Sound

variable {value : Expr F}

theorem accepted (sound : Sound zoomed value) : Accepted value :=
  ⟨sound.noGroup, sound.nodes.mono fun _ node => node.wellFormed⟩

theorem zoomFree (sound : Sound false value) : ZoomFree value :=
  sound.nodes.mono fun _ node => node.noZoom rfl

theorem usable (sound : Sound false value) : Usable value :=
  ⟨sound.accepted, .absent sound.zoomFree⟩

theorem relax (sound : Sound false value) : Sound zoomed value := by
  refine ⟨sound.noGroup, sound.nodes.mono ?_⟩
  intro node nodeSound
  exact ⟨nodeSound.wellFormed, fun _ => nodeSound.noZoom rfl⟩

/-- Only a match has groups among its parts. -/
theorem of_parts (inner : ∀ part ∈ value.parts, Sound zoomed part)
    (noGroup : ∀ values, value ≠ .labels values)
    (noZoom : zoomed = false → ∀ operands, value ≠ .op "zoom" operands)
    (curve : ∀ operands, value = .op "interpolate" operands → IsCurve operands)
    (step : ∀ operands, value = .op "step" operands → IsStep operands)
    (choice : ∀ operands, value = .op "match" operands → IsMatch operands)
    (branch : ∀ operands, value = .op "case" operands → IsCase operands) :
    Sound zoomed value := by
  refine ⟨noGroup, everywhere_iff.mpr ⟨⟨⟨curve, step, choice, branch, ?_⟩, noZoom⟩, ?_⟩⟩
  · intro position values found
    exact absurd rfl ((inner _ (List.mem_of_getElem? found)).noGroup values)
  · intro part member
    exact (inner part member).nodes

theorem part (sound : Sound zoomed value) (noMatch : ∀ operands, value ≠ .op "match" operands)
    {inner : Expr F} (member : inner ∈ value.parts) : Sound zoomed inner := by
  obtain ⟨node, nodes⟩ := everywhere_iff.mp sound.nodes
  refine ⟨?_, nodes inner member⟩
  rintro values rfl
  obtain ⟨position, found⟩ := List.mem_iff_getElem?.mp member
  obtain ⟨operands, isMatch, _⟩ := node.wellFormed.group position values found
  exact noMatch operands isMatch

end Sound

/-! ### Constants -/

@[simp] theorem sound_null : Sound zoomed (.null : Expr F) := by
  apply Sound.of_parts <;> simp [parts]

@[simp] theorem sound_number (value : Number F) : Sound zoomed (.number value) := by
  apply Sound.of_parts <;> simp [parts]

@[simp] theorem sound_text (value : String) : Sound zoomed (.text value : Expr F) := by
  apply Sound.of_parts <;> simp [parts]

@[simp] theorem sound_get (property : String) : Sound zoomed (.get property : Expr F) := by
  apply Sound.of_parts <;> simp [parts]

@[simp] theorem sound_bool (value : Bool) : Sound zoomed (.bool value : Expr F) :=
  sound_number _

@[simp] theorem sound_ofNat (value : Nat) : Sound zoomed (no_index (OfNat.ofNat value) : Expr F) :=
  sound_number _

@[simp] theorem sound_ofScientific (mantissa : Nat) (sign : Bool) (exponent : Nat) :
    Sound zoomed (OfScientific.ofScientific mantissa sign exponent : Expr F) :=
  sound_number _

@[simp] theorem sound_list {items : List (Expr F)} :
    Sound zoomed (.list items) ↔ ∀ item ∈ items, Sound zoomed item := by
  constructor
  · intro sound item member
    exact sound.part (by simp) member
  · intro inner
    apply Sound.of_parts inner <;> simp

@[simp] theorem sound_mapping {entries : List (String × Expr F)} :
    Sound zoomed (.mapping entries) ↔ ∀ entry ∈ entries, Sound zoomed entry.2 := by
  constructor
  · intro sound entry member
    exact sound.part (by simp) (List.mem_map_of_mem member)
  · intro inner
    have innerParts : ∀ part ∈ (Expr.mapping entries).parts, Sound zoomed part := by
      intro part member
      obtain ⟨entry, entryMember, rfl⟩ := List.mem_map.mp member
      exact inner entry entryMember
    apply Sound.of_parts innerParts <;> simp

@[simp] theorem sound_literal {value : Expr F} :
    Sound zoomed (.literal value) ↔ Sound zoomed value := by
  constructor
  · intro sound
    exact sound.part (by simp) (List.mem_singleton_self value)
  · intro inner
    have innerParts : ∀ part ∈ (Expr.literal value).parts, Sound zoomed part := by
      simpa [parts] using inner
    apply Sound.of_parts innerParts <;> simp

@[simp] theorem sound_ofNumber? (value : Option (Number F)) :
    Sound zoomed (ofNumber? value) := by
  cases value <;> simp [ofNumber?]

@[simp] theorem sound_ofText? (value : Option String) :
    Sound zoomed (ofText? value : Expr F) := by
  cases value <;> simp [ofText?]

@[simp] theorem sound_texts (values : List String) : Sound zoomed (texts values : Expr F) := by
  simp [texts]

mutual

/-- A constant contains no operators. -/
theorem sound_ofJson : ∀ value : Json F, Sound zoomed (ofJson value)
  | .null | .number _ | .text _ => by simp [ofJson]
  | .list items => by
      rw [ofJson, sound_list]
      exact sound_ofJsonItems items
  | .object entries => by
      rw [ofJson, sound_mapping]
      exact sound_ofJsonEntries entries

theorem sound_ofJsonItems : ∀ (items : List (Json F)) (item), item ∈ ofJsonItems items →
    Sound zoomed item
  | [] => by simp [ofJsonItems]
  | first :: rest => by
      rw [ofJsonItems]
      exact List.forall_mem_cons.mpr ⟨sound_ofJson first, sound_ofJsonItems rest⟩

theorem sound_ofJsonEntries : ∀ (entries : List (String × Json F)) (entry),
    entry ∈ ofJsonEntries entries → Sound zoomed entry.2
  | [] => by simp [ofJsonEntries]
  | (key, value) :: rest => by
      rw [ofJsonEntries]
      exact List.forall_mem_cons.mpr ⟨sound_ofJson value, sound_ofJsonEntries rest⟩

end

/-! ### Operators -/

/-- An operator that neither chooses between outputs nor is the zoom. -/
def isPlain (operator : String) : Bool :=
  !(["interpolate", "step", "match", "case", "zoom"].contains operator)

theorem sound_op {operator : String} {operands : List (Expr F)} (plain : isPlain operator) :
    Sound zoomed (.op operator operands) ↔ ∀ operand ∈ operands, Sound zoomed operand := by
  have others : operator ≠ "interpolate" ∧ operator ≠ "step" ∧ operator ≠ "match" ∧
      operator ≠ "case" ∧ operator ≠ "zoom" := by
    simpa [isPlain] using plain
  obtain ⟨noCurve, noStep, noMatch, noCase, noZoom⟩ := others
  constructor
  · intro sound operand member
    exact sound.part (by simp [noMatch]) member
  · intro inner
    apply Sound.of_parts inner <;> simp [noCurve, noStep, noMatch, noCase, noZoom]

theorem sound_unary {operator : String} {value : Expr F} (plain : isPlain operator) :
    Sound zoomed (.op operator [value]) ↔ Sound zoomed value := by
  rw [sound_op plain]
  exact List.forall_mem_singleton

theorem sound_binary {operator : String} {left right : Expr F} (plain : isPlain operator) :
    Sound zoomed (.op operator [left, right]) ↔ Sound zoomed left ∧ Sound zoomed right := by
  rw [sound_op plain, List.forall_mem_cons]
  exact and_congr_right fun _ => List.forall_mem_singleton

/-- The zoom itself. -/
@[simp] theorem sound_zoom : Sound true (zoom : Expr F) := by
  apply Sound.of_parts <;> simp [zoom, parts]

@[simp] theorem sound_has (property : String) : Sound zoomed (has property : Expr F) :=
  (sound_unary (by decide)).mpr (sound_text property)

section Operands

variable {value left right : Expr F}

@[simp] theorem sound_negated : Sound zoomed (negated value) ↔ Sound zoomed value :=
  sound_unary (by decide)

@[simp] theorem sound_toText : Sound zoomed (toText value) ↔ Sound zoomed value :=
  sound_unary (by decide)

@[simp] theorem sound_absolute : Sound zoomed (absolute value) ↔ Sound zoomed value :=
  sound_unary (by decide)

@[simp] theorem sound_upcase : Sound zoomed (upcase value) ↔ Sound zoomed value :=
  sound_unary (by decide)

@[simp] theorem sound_length : Sound zoomed (length value) ↔ Sound zoomed value :=
  sound_unary (by decide)

@[simp] theorem sound_equal :
    Sound zoomed (equal left right) ↔ Sound zoomed left ∧ Sound zoomed right :=
  sound_binary (by decide)

@[simp] theorem sound_unequal :
    Sound zoomed (unequal left right) ↔ Sound zoomed left ∧ Sound zoomed right :=
  sound_binary (by decide)

@[simp] theorem sound_greater :
    Sound zoomed (greater left right) ↔ Sound zoomed left ∧ Sound zoomed right :=
  sound_binary (by decide)

@[simp] theorem sound_atLeast :
    Sound zoomed (atLeast left right) ↔ Sound zoomed left ∧ Sound zoomed right :=
  sound_binary (by decide)

@[simp] theorem sound_less :
    Sound zoomed (less left right) ↔ Sound zoomed left ∧ Sound zoomed right :=
  sound_binary (by decide)

@[simp] theorem sound_atMost :
    Sound zoomed (atMost left right) ↔ Sound zoomed left ∧ Sound zoomed right :=
  sound_binary (by decide)

@[simp] theorem sound_difference :
    Sound zoomed (difference left right) ↔ Sound zoomed left ∧ Sound zoomed right :=
  sound_binary (by decide)

@[simp] theorem sound_contained :
    Sound zoomed (contained left right) ↔ Sound zoomed left ∧ Sound zoomed right :=
  sound_binary (by decide)

end Operands

@[simp] theorem sound_allOf {values : List (Expr F)} :
    Sound zoomed (allOf values) ↔ ∀ value ∈ values, Sound zoomed value :=
  sound_op (by decide)

@[simp] theorem sound_anyOf {values : List (Expr F)} :
    Sound zoomed (anyOf values) ↔ ∀ value ∈ values, Sound zoomed value :=
  sound_op (by decide)

@[simp] theorem sound_coalesce {values : List (Expr F)} :
    Sound zoomed (coalesce values) ↔ ∀ value ∈ values, Sound zoomed value :=
  sound_op (by decide)

@[simp] theorem sound_concat {values : List (Expr F)} :
    Sound zoomed (concat values) ↔ ∀ value ∈ values, Sound zoomed value :=
  sound_op (by decide)

@[simp] theorem sound_sum {values : List (Expr F)} :
    Sound zoomed (sum values) ↔ ∀ value ∈ values, Sound zoomed value :=
  sound_op (by decide)

@[simp] theorem sound_product {values : List (Expr F)} :
    Sound zoomed (product values) ↔ ∀ value ∈ values, Sound zoomed value :=
  sound_op (by decide)

@[simp] theorem sound_featureState (name : String) : Sound zoomed (featureState name : Expr F) :=
  (sound_unary (by decide)).mpr (sound_text name)

@[simp] theorem sound_variableNamed (name : String) :
    Sound zoomed (variableNamed name : Expr F) :=
  (sound_unary (by decide)).mpr (sound_text name)

@[simp] theorem sound_bind {name : String} {value body : Expr F} :
    Sound zoomed (bind name value body) ↔ Sound zoomed value ∧ Sound zoomed body := by
  rw [bind, sound_op (by decide)]
  simp

theorem sound_slice {value start finish : Expr F} (whole : Sound zoomed value)
    (first : Sound zoomed start) (last : Sound zoomed finish) :
    Sound zoomed (slice value start finish) := by
  unfold slice
  split
  · rw [sound_op (by decide)]
    simp [whole, first]
  · rw [sound_op (by decide)]
    simp [whole, first, last]

end MapStyle.Expr
