import MapStyle.Proofs.Width.Match
import MapStyle.Proofs.Zoom.Overlaid

/-!
# Widths that override the default ones

The row of a class overrides the default row zoom by zoom. The width of a class between two zooms
is interpolated between the nearest values of either row, so that stops of both may be mixed.
-/

namespace MapStyle.RoadWidths

set_option autoImplicit false

open Set (Icc)
open MapStyle.Zoom (Gives HasValue Holds Interpolates Rising)

variable {widths : RoadWidths Rat} {featureClass : String} {zoom value fallback width : Number Rat}

/-! ### Both rows -/

/-- The entries of the default row and of that of a class. -/
def entriesFor (widths : RoadWidths Rat) (featureClass : String) : ZoomStops Rat :=
  widths.fallback.getD [] ++ widths.rowOf featureClass

/-- A value that a class takes at a zoom: that of its own row, else that of the default row. -/
def Takes (widths : RoadWidths Rat) (featureClass : String) (zoom value : Number Rat) : Prop :=
  HasValue (widths.rowOf featureClass) zoom value ∨
    (∀ own, ¬HasValue (widths.rowOf featureClass) zoom own) ∧
      HasValue (widths.fallback.getD []) zoom value

/-- An entry of either row gives a value. -/
def Usable (widths : RoadWidths Rat) (featureClass : String) : Prop :=
  ∃ entry ∈ widths.entriesFor featureClass, ∃ zoom value, Gives entry zoom value

/-- The stops of a class are the values that it takes. -/
theorem ensures_stopsOf :
    Ensures (fun found => Rising found ∧ Holds found = widths.Takes featureClass)
      (widths.stopsOf featureClass) := by
  unfold stopsOf
  refine Ensures.bind fun shared sharedFound => Ensures.bind fun own ownFound => ?_
  have sharedRising := Zoom.ensures_normalize _ sharedFound
  have ownRising := Zoom.ensures_normalize _ ownFound
  refine Ensures.pure_iff.mpr ⟨Zoom.rising_foldl_setStop sharedRising, ?_⟩
  funext zoom value
  rw [Holds, Zoom.at?_overlaid (Zoom.rising_iff_ascends.mp ownRising)
    (Zoom.rising_iff_ascends.mp sharedRising), Option.or_eq_some_iff,
    Option.eq_none_iff_forall_ne_some]
  have ownValue (value) : Zoom.at? zoom own = some value ↔ _ :=
    Zoom.at?_normalized_iff (fun entry _ => Zoom.fits_rat entry.2) ownFound
  have sharedValue : Zoom.at? zoom shared = some value ↔ _ :=
    Zoom.at?_normalized_iff (fun entry _ => Zoom.fits_rat entry.2) sharedFound
  simp only [Takes, ne_eq, ownValue, sharedValue]

theorem succeeds_stopsOf_iff : Succeeds (widths.stopsOf featureClass) ↔
    ∀ entry ∈ widths.entriesFor featureClass, entry.1.Readable := by
  rw [entriesFor, List.forall_mem_append, ← Zoom.succeeds_normalize_iff_readable,
    ← Zoom.succeeds_normalize_iff_readable]
  constructor
  · intro succeeds
    obtain ⟨shared, sharedFound, rest⟩ := succeeds_bind_iff.mp succeeds
    obtain ⟨own, ownFound, _⟩ := succeeds_bind_iff.mp rest
    exact ⟨succeeds_iff.mpr ⟨shared, sharedFound⟩, succeeds_iff.mpr ⟨own, ownFound⟩⟩
  · rintro ⟨sharedSucceeds, ownSucceeds⟩
    exact sharedSucceeds.bind fun _ _ => ownSucceeds.bind fun _ _ => Returns.pure_iff.mpr trivial

/-- A class takes a value at some zoom exactly if an entry of either row gives one. -/
theorem exists_takes_iff :
    (∃ zoom value, widths.Takes featureClass zoom value) ↔ widths.Usable featureClass := by
  have gives {row : ZoomStops Rat} {zoom value : Number Rat} (hasValue : HasValue row zoom value) :
      ∃ entry ∈ row, ∃ zoom value, Gives entry zoom value := by
    obtain ⟨entry, member, own, given, isGiven, _⟩ := Zoom.exists_hasValue_iff.mp ⟨_, hasValue⟩
    exact ⟨entry, member, own, given, isGiven⟩
  constructor
  · rintro ⟨zoom, value, own | ⟨_, shared⟩⟩
    · obtain ⟨entry, member, isGiven⟩ := gives own
      exact ⟨entry, List.mem_append_right _ member, isGiven⟩
    · obtain ⟨entry, member, isGiven⟩ := gives shared
      exact ⟨entry, List.mem_append_left _ member, isGiven⟩
  · rintro ⟨entry, member, zoom, value, isGiven⟩
    have givesAt : Zoom.GivesAt zoom entry := ⟨zoom, value, isGiven, by simp⟩
    by_cases own : ∃ value, HasValue (widths.rowOf featureClass) zoom value
    · obtain ⟨ownValue, hasValue⟩ := own
      exact ⟨zoom, ownValue, .inl hasValue⟩
    · obtain inShared | inOwn := List.mem_append.mp member
      · obtain ⟨sharedValue, hasValue⟩ := Zoom.exists_hasValue_iff.mpr ⟨entry, inShared, givesAt⟩
        exact ⟨zoom, sharedValue, .inr ⟨not_exists.mp own, hasValue⟩⟩
      · exact absurd (Zoom.exists_hasValue_iff.mpr ⟨entry, inOwn, givesAt⟩) own

/-! ### Widths -/

variable {found : Stops Rat}

theorem widthAt_of_none (isFound : widths.stopsOf featureClass = .ok []) :
    widths.widthAt featureClass zoom fallback = .ok fallback := by
  unfold widthAt
  rw [isFound]
  rfl

/-- Where there are stops, the fallback is not used. -/
theorem widthAt_eq_of_stops (isFound : widths.stopsOf featureClass = .ok found)
    (given : found ≠ []) (other : Number Rat) :
    widths.widthAt featureClass zoom other = widths.widthAt featureClass zoom fallback := by
  obtain ⟨first, rest, rfl⟩ := List.exists_cons_of_ne_nil given
  unfold widthAt
  rw [isFound]
  rfl

/-- The width at a zoom is interpolated between the stops. -/
theorem returns_widthAt (isFound : widths.stopsOf featureClass = .ok found)
    (rising : Rising found) :
    Returns (Interpolates (Holds found) zoom fallback)
      (widths.widthAt featureClass zoom fallback) := by
  cases found with
  | nil =>
      rw [widthAt_of_none isFound]
      refine Returns.ok_iff.mpr (.without fun other value holds => ?_)
      cases holds
  | cons first rest =>
      unfold widthAt
      rw [isFound]
      dsimp only [bind, Except.bind]
      split
      · rename_i value isHit
        exact Returns.pure_iff.mpr (.hit isHit)
      · rename_i noHit
        exact Zoom.returns_interpolates rising noHit

theorem succeeds_widthAt_iff : Succeeds (widths.widthAt featureClass zoom fallback) ↔
    ∀ entry ∈ widths.entriesFor featureClass, entry.1.Readable := by
  rw [← succeeds_stopsOf_iff]
  constructor
  · intro succeeds
    obtain ⟨found, isFound, _⟩ := succeeds_bind_iff.mp succeeds
    exact succeeds_iff.mpr ⟨found, isFound⟩
  · intro succeeds
    obtain ⟨found, isFound⟩ := succeeds_iff.mp succeeds
    exact (returns_widthAt isFound (ensures_stopsOf _ isFound).1).succeeds

/-- The width of a class at a zoom, by the values that it takes: they are interpolated, and nothing
else is, so the width is determined by them and within their range. The fallback is returned
if neither row gives a value, and has no influence otherwise. -/
structure IsWidthAt (widths : RoadWidths Rat) (featureClass : String)
    (zoom fallback width : Number Rat) : Prop where
  interpolates : Interpolates (widths.Takes featureClass) zoom fallback width
  determined : ∀ other, Interpolates (widths.Takes featureClass) zoom fallback other →
    other.exact = width.exact
  within : widths.Usable featureClass → ∀ least largest,
    (∀ other value, widths.Takes featureClass other value → value.exact ∈ Icc least largest) →
      width.exact ∈ Icc least largest
  fallbackUnused : widths.Usable featureClass →
    ∀ other, widths.widthAt featureClass zoom other = .ok width
  fallbackUsed : ¬widths.Usable featureClass → width = fallback

theorem ensures_isWidthAt :
    Ensures (widths.IsWidthAt featureClass zoom fallback)
      (widths.widthAt featureClass zoom fallback) := by
  intro width isWidth
  obtain ⟨found, isFound, _⟩ := bind_eq_ok.mp isWidth
  obtain ⟨rising, takes⟩ := ensures_stopsOf _ isFound
  have interpolates := (returns_widthAt isFound rising).ensures width isWidth
  have given (usable : widths.Usable featureClass) : found ≠ [] := by
    obtain ⟨other, value, isTaken⟩ := exists_takes_iff.mpr usable
    rw [← takes] at isTaken
    exact Zoom.ne_nil_of_holds isTaken
  have nothing (unusable : ¬widths.Usable featureClass) (other value : Number Rat) :
      ¬widths.Takes featureClass other value :=
    fun isTaken => unusable (exists_takes_iff.mp ⟨other, value, isTaken⟩)
  rw [takes] at interpolates
  constructor
  case interpolates => exact interpolates
  case determined =>
    intro other otherInterpolates
    by_cases usable : widths.Usable featureClass
    · rw [← takes] at interpolates otherInterpolates
      rw [interpolates.exact_eq_path rising (given usable),
        otherInterpolates.exact_eq_path rising (given usable)]
    · rw [interpolates.eq_fallback (nothing usable), otherInterpolates.eq_fallback (nothing usable)]
  case within =>
    intro usable least largest each
    exact interpolates.mem (exists_takes_iff.mpr usable) each
  case fallbackUnused =>
    intro usable other
    rw [← isWidth]
    exact widthAt_eq_of_stops isFound (given usable) other
  case fallbackUsed =>
    intro unusable
    exact interpolates.eq_fallback (nothing unusable)

/-- Road widths override the default row zoom by zoom: a class takes its own value where its row
has one, else that of the default row, and its width is interpolated between what it takes from
either of them. Minor and unclassified roads have the residential row, unknown classes none. -/
theorem overrides_zoom_by_zoom (widths : RoadWidths Rat) :
    (∀ featureClass zoom fallback,
      (Succeeds (widths.widthAt featureClass zoom fallback) ↔
        ∀ entry ∈ widths.entriesFor featureClass, entry.1.Readable) ∧
      Ensures (widths.IsWidthAt featureClass zoom fallback)
        (widths.widthAt featureClass zoom fallback)) ∧
    (∀ roadClass : RoadClass, widths.rowOf roadClass.name = (widths.row roadClass).getD []) ∧
    (∀ featureClass ∈ residentialAliases,
      widths.rowOf featureClass = widths.residential.getD []) ∧
    (∀ featureClass, featureClass ∉ Filter.normalRoadClasses → widths.rowOf featureClass = []) :=
  ⟨fun _ _ _ => ⟨succeeds_widthAt_iff, ensures_isWidthAt⟩, rowOf_name,
    fun _ isAlias => rowOf_of_alias isAlias, fun _ unknown => rowOf_of_unknown unknown⟩

/-- A default row with two stops, and a residential one with a single stop between them. -/
def sparse : RoadWidths Rat where
  fallback := some [("z6", 1), ("z18", 5)]
  motorway := none
  trunk := none
  primary := none
  secondary := none
  tertiary := none
  residential := some [("z12", 4)]
  service := none

/-- A minor road has at zoom 9 the middle of a default and a residential value. -/
theorem sparse_overridden :
    Returns (fun width => sparse.IsWidthAt "minor" 9 0.5 width ∧ width.exact = 5 / 2)
      (sparse.widthAt "minor" 9 0.5) := by
  have isWidth : sparse.widthAt "minor" 9 0.5 = .ok (.real (5 / 2)) := by with_unfolding_all rfl
  exact ⟨_, isWidth, ((overrides_zoom_by_zoom sparse).1 "minor" 9 0.5).2 _ isWidth, rfl⟩

end MapStyle.RoadWidths
