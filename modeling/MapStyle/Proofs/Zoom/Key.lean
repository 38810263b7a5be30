import MapStyle.Proofs.Number.Laws
import MapStyle.Proofs.Outcome
import MapStyle.Zoom.Stops

/-!
# Mappings that are read

Whether a mapping is read without fail depends on sizes alone: an integer among its keys, or one
that is the value of a zoom, has to lie within the range of fractional numbers, and the digits of a
textual key without a fraction within what is read as an integer.
-/

namespace MapStyle

set_option autoImplicit false

variable {F : Type} [Arithmetic F]

/-! ### Sizes -/

/-- Integers beyond the range of fractional numbers do not fit; all other numbers do. -/
def Number.Fits : Number F → Prop
  | .int value => ∃ nearest : F, Arithmetic.ofRat? (value : Rat) = some nearest
  | _ => True

instance (number : Number F) : Decidable number.Fits :=
  match number with
  | .int _ => decidable_of_iff _ Option.isSome_iff_exists
  | .flag _ | .real _ => isTrue trivial

/-- A value is no integer that does not fit. -/
def Json.Fits : Json F → Prop
  | .number value => value.Fits
  | _ => True

instance (value : Json F) : Decidable value.Fits :=
  match value with
  | .number number => inferInstanceAs (Decidable number.Fits)
  | .null | .text _ | .list _ | .object _ => isTrue trivial

/-- The digits of a text without a fraction are not too many for an integer. -/
def Zoom.ReadableText (text : String) : Prop :=
  ∀ whole, splitKey? (Text.strip text) = some (whole, none) →
    whole.length ≤ NumberError.digitLimit

/-- A key of a size that is read. -/
def Json.Readable : Json F → Prop
  | .number value => value.Fits
  | .text value => Zoom.ReadableText value
  | _ => True

/-- The length up to which the texts among the keys of a mapping are read without fail. -/
def keyLimit : Nat := 300

/-- A key is no text beyond the limit. -/
def Json.isShort {F : Type} : Json F → Bool
  | .text key => key.length ≤ keyLimit
  | _ => true

/-- No text among the keys of a mapping is beyond the limit. -/
def ShortKeys {F : Type} (stops : ZoomStops F) : Prop :=
  ∀ entry ∈ stops, entry.1.isShort = true

instance {F : Type} (stops : ZoomStops F) : Decidable (ShortKeys stops) :=
  inferInstanceAs (Decidable (∀ entry ∈ stops, _))

/-! ### Keys -/

namespace Number

variable {number : Number F}

theorem succeeds_isFinite_iff (quantity : number.isFlag = false) :
    Succeeds number.isFinite ↔ number.Fits := by
  cases number with
  | flag value => cases quantity
  | real value => simp [Fits, isFinite, toReal, view_real, Except.map]
  | int value =>
      simp only [Fits, isFinite, toReal, view_int]
      cases Arithmetic.ofRat? (F := F) (value : Rat) <;> simp [Except.map, Returns]

end Number

namespace Text

theorem length_trimBoth_le (test : Char → Bool) (characters : List Char) :
    (trimBoth test characters).length ≤ characters.length := by
  have front := (List.dropWhile_suffix test : _ <:+ characters).length_le
  have back := (List.dropWhile_suffix test : _ <:+ (characters.dropWhile test).reverse).length_le
  simp only [trimBoth, List.length_reverse] at back ⊢
  omega

end Text

namespace Zoom

variable {key value : Json F} {entry : Json F × Json F} {stops : ZoomStops F} {found : Stops F}

theorem succeeds_numberKey_iff {value : Number F} :
    Succeeds (numberKey value) ↔ value.Fits := by
  unfold numberKey
  cases isFlag : value.isFlag with
  | true =>
      cases value with
      | flag given => simp [Number.Fits]
      | _ => cases isFlag
  | false =>
      rw [if_neg (by decide), ← Number.succeeds_isFinite_iff isFlag, succeeds_bind_iff,
        succeeds_iff]
      refine exists_congr fun finite => and_iff_left_of_imp fun _ => ?_
      split_ifs
      · exact Returns.ok_iff.mpr trivial
      · split <;> exact Returns.ok_iff.mpr trivial

theorem succeeds_textKey_iff {text : String} :
    Succeeds (textKey (F := F) text) ↔ ReadableText text := by
  unfold textKey ReadableText
  split
  · rename_i whole found
    rw [found]
    split_ifs with tooMany
    · simpa [Returns] using tooMany
    · simpa [Returns] using tooMany
  · rename_i whole fraction found
    simp [found]
  · rename_i found
    simp [found]

/-- A key is read exactly if it is not too large. -/
theorem succeeds_parseKey_iff : Succeeds (parseKey key) ↔ key.Readable := by
  cases key with
  | number value => exact succeeds_numberKey_iff
  | text value => exact succeeds_textKey_iff
  | _ => simp [parseKey, Json.Readable]

theorem length_splitKey?_le {characters whole : List Char} {fraction : Option (List Char)}
    (found : splitKey? characters = some (whole, fraction)) :
    whole.length ≤ characters.length := by
  unfold splitKey? at found
  extract_lets unmarked digits at found
  have unmarkedShort : unmarked.length ≤ characters.length := by
    unfold unmarked
    split <;> simp
  have digitsShort : digits.length ≤ unmarked.length :=
    (List.takeWhile_sublist Text.isDigit).length_le
  have same : digits = whole := by
    split at found
    · contradiction
    · split at found
      · exact (Prod.mk.inj (Option.some.inj found)).1
      · split at found
        · exact (Prod.mk.inj (Option.some.inj found)).1
        · contradiction
  rw [← same]
  omega

/-- Short keys are not too large. -/
theorem readable_of_short (fits : key.Fits) (short : key.isShort = true) : key.Readable := by
  cases key with
  | number key => exact fits
  | text key =>
      intro whole isSplit
      have bounded := length_splitKey?_le isSplit
      have stripped := Text.length_trimBoth_le Text.isBlank key.toList
      have few : key.length ≤ keyLimit := of_decide_eq_true short
      simp only [NumberError.digitLimit, Text.strip, String.length_toList, keyLimit] at *
      omega
  | _ => trivial

/-! ### Entries -/

theorem succeeds_quantity?_iff : Succeeds (quantity? value) ↔ value.Fits := by
  cases value with
  | number number =>
      unfold quantity?
      cases isFlag : number.isFlag with
      | true =>
          cases number with
          | flag value => exact iff_of_true (Returns.ok_iff.mpr trivial) trivial
          | _ => cases isFlag
      | false =>
          rw [Json.Fits, ← Number.succeeds_isFinite_iff isFlag]
          dsimp only
          rw [isFlag, if_neg Bool.false_ne_true]
          exact succeeds_map_iff
  | _ => simp [quantity?, Json.Fits]

/-- An entry is read unless its key is too large, or its value where the key names a zoom. -/
theorem succeeds_stop?_iff : Succeeds (stop? entry) ↔
    entry.1.Readable ∧ ((∃ zoom, parseKey entry.1 = .ok (some zoom)) → entry.2.Fits) := by
  unfold stop?
  rw [succeeds_bind_iff, ← succeeds_parseKey_iff, succeeds_iff]
  cases isParsed : parseKey entry.1 with
  | error fault => simp
  | ok found =>
      cases found with
      | none => simp
      | some zoom =>
          have mapped : Succeeds ((Option.map fun value => (zoom, value)) <$> quantity? entry.2) ↔
              entry.2.Fits := succeeds_map_iff.trans succeeds_quantity?_iff
          simpa using mapped

theorem succeeds_addEntry_iff : Succeeds (addEntry found entry) ↔ Succeeds (stop? entry) := by
  unfold addEntry
  rw [succeeds_bind_iff, succeeds_iff]
  refine exists_congr fun stop => and_iff_left_of_imp fun _ => ?_
  cases stop <;> exact Returns.ok_iff.mpr trivial

theorem succeeds_foldlM_addEntry_iff :
    Succeeds (stops.foldlM addEntry found) ↔ ∀ entry ∈ stops, Succeeds (stop? entry) := by
  induction stops generalizing found with
  | nil => simp
  | cons entry rest ih =>
      rw [List.foldlM_cons, succeeds_bind_iff, List.forall_mem_cons,
        ← @succeeds_addEntry_iff _ _ entry found, succeeds_iff]
      constructor
      · rintro ⟨next, isNext, restSucceeds⟩
        exact ⟨⟨next, isNext⟩, ih.mp restSucceeds⟩
      · rintro ⟨⟨next, isNext⟩, restSucceeds⟩
        exact ⟨next, isNext, ih.mpr restSucceeds⟩

/-- A mapping is normalised unless it holds too large integers. -/
theorem succeeds_normalize_iff : Succeeds (normalize stops) ↔
    ∀ entry ∈ stops, entry.1.Readable ∧
      ((∃ zoom, parseKey entry.1 = .ok (some zoom)) → entry.2.Fits) :=
  succeeds_foldlM_addEntry_iff.trans (forall₂_congr fun _ _ => succeeds_stop?_iff)

end Zoom

end MapStyle
