import MapStyle.Proofs.Zoom.Merged
import MapStyle.Proofs.Zoom.Named

/-!
# Mappings that are normalised

A mapping is read without fail exactly if its keys are not too large and no zoom has a value that
is an integer beyond the range of fractional numbers. Its stops then ascend. There is one for each
zoom that an entry with a finite number names, with the value of the last such entry, and no other
entry has any influence.
-/

namespace MapStyle.Zoom

set_option autoImplicit false

variable {F : Type} [Arithmetic F]

/-! ### Entries -/

/-- An entry that gives a value at a zoom: its key names the zoom, and its value is a finite number
and no truth value. -/
structure Gives (entry : Json F × Json F) (zoom value : Number F) : Prop where
  named : parseKey entry.1 = .ok (some zoom)
  isNumber : entry.2 = .number value
  isQuantity : value.isFlag = false
  isFinite : ∃ exact, value.rational? = some exact

/-- An entry that gives a value at a zoom, however the zoom is written. -/
def GivesAt (zoom : Number F) (entry : Json F × Json F) : Prop :=
  ∃ own value, Gives entry own value ∧ own.same zoom = true

open Classical in
/-- The entries that give a value at a zoom, in the order of the mapping. -/
noncomputable def entriesAt (zoom : Number F) (stops : ZoomStops F) : ZoomStops F :=
  stops.filter fun entry => GivesAt zoom entry

/-- The stop of an entry that is read. -/
def ownStop? (entry : Json F × Json F) : Option (Number F × Number F) :=
  match stop? entry with
  | .ok found => found
  | .error _ => none

section Merged

variable {entry : Json F × Json F} {stops : ZoomStops F} {found : Stops F}

/-- The stops of entries that are read are set one after the other. -/
theorem foldlM_addEntry_eq (each : ∀ entry ∈ stops, Succeeds (stop? entry)) :
    stops.foldlM addEntry found = .ok ((stops.filterMap ownStop?).foldl
      (fun merged stop => setStop stop.1 stop.2 merged) found) := by
  induction stops generalizing found with
  | nil => rfl
  | cons entry rest ih =>
      obtain ⟨first, others⟩ := List.forall_mem_cons.mp each
      obtain ⟨own, isOwn⟩ := succeeds_iff.mp first
      have isStop : ownStop? entry = own := by rw [ownStop?, isOwn]
      have added : addEntry found entry = .ok (own.elim found fun stop =>
          setStop stop.1 stop.2 found) := by
        rw [addEntry, isOwn]
        cases own <;> rfl
      rw [List.foldlM_cons, added]
      show rest.foldlM addEntry _ = _
      rw [ih others, List.filterMap_cons, isStop]
      cases own <;> rfl

end Merged

/-- A mapping is normalised by merging the stops of its entries. -/
theorem normalize_eq_merge {stops : ZoomStops F} (each : ∀ entry ∈ stops, Succeeds (stop? entry)) :
    normalize stops = .ok (merge (stops.filterMap ownStop?)) :=
  foldlM_addEntry_eq each

theorem eq_merge_of_normalize {stops : ZoomStops F} {found : Stops F}
    (normalized : normalize stops = .ok found) : found = merge (stops.filterMap ownStop?) := by
  have read := succeeds_normalize_iff.mp (succeeds_iff.mpr ⟨found, normalized⟩)
  have merged := normalize_eq_merge fun entry member => succeeds_stop?_iff.mpr (read entry member)
  exact Except.ok.inj (normalized.symm.trans merged)

/-! ### Values -/

variable [OrderedArithmetic F] [DecimalArithmetic F] {entry : Json F × Json F}
  {stop : Number F × Number F} {stops : ZoomStops F}

theorem quantity?_eq_some_iff {value : Json F} {number : Number F} (fits : value.Fits) :
    quantity? value = .ok (some number) ↔
      value = .number number ∧ number.isFlag = false ∧ ∃ exact, number.rational? = some exact := by
  cases value with
  | number given =>
      unfold quantity?
      cases isFlag : given.isFlag with
      | true =>
          dsimp only
          rw [isFlag, if_pos rfl]
          refine iff_of_false (by simp) ?_
          rintro ⟨same, isQuantity, _⟩
          cases same
          cases isFlag.symm.trans isQuantity
      | false =>
          dsimp only
          rw [isFlag, if_neg Bool.false_ne_true, Number.isFinite_of_fits isFlag fits]
          cases isExact : given.rational? with
          | none =>
              refine iff_of_false (by simp [Except.map]) ?_
              rintro ⟨same, _, exact, isFound⟩
              cases same
              cases isExact.symm.trans isFound
          | some exact =>
              constructor
              · intro same
                cases same
                exact ⟨rfl, isFlag, exact, isExact⟩
              · rintro ⟨same, _⟩
                cases same
                rfl
  | _ => simp [quantity?]

/-- The stop of an entry is what the entry gives. -/
theorem ownStop?_eq_some_iff (fits : entry.2.Fits) :
    ownStop? entry = some stop ↔ Gives entry stop.1 stop.2 := by
  have isOwn : ownStop? entry = some stop ↔ stop? entry = .ok (some stop) := by
    unfold ownStop?
    cases stop? entry <;> simp
  rw [isOwn, stop?, bind_eq_ok]
  constructor
  · rintro ⟨zoom?, named, rest⟩
    cases zoom? with
    | none => cases rest
    | some zoom =>
        obtain ⟨value?, isValue, same⟩ := bind_eq_ok.mp rest
        cases value? with
        | none => cases same
        | some value =>
            cases same
            obtain ⟨isNumber, isQuantity, isFinite⟩ := (quantity?_eq_some_iff fits).mp isValue
            exact ⟨named, isNumber, isQuantity, isFinite⟩
  · rintro ⟨named, isNumber, isQuantity, isFinite⟩
    have isValue := (quantity?_eq_some_iff fits).mpr ⟨isNumber, isQuantity, isFinite⟩
    exact ⟨some stop.1, named, bind_eq_ok.mpr ⟨_, isValue, rfl⟩⟩

/-! ### Entries at a zoom -/

theorem givesAt_iff {wanted : Number F} (fits : entry.2.Fits) :
    GivesAt wanted entry ↔ ∃ stop, ownStop? entry = some stop ∧ stop.1.same wanted = true := by
  constructor
  · rintro ⟨zoom, value, gives, same⟩
    exact ⟨(zoom, value), (ownStop?_eq_some_iff fits).mpr gives, same⟩
  · rintro ⟨stop, isOwn, same⟩
    exact ⟨stop.1, stop.2, (ownStop?_eq_some_iff fits).mp isOwn, same⟩

omit [OrderedArithmetic F] [DecimalArithmetic F] in
theorem mem_entriesAt {wanted : Number F} :
    entry ∈ entriesAt wanted stops ↔ entry ∈ stops ∧ GivesAt wanted entry := by
  simp [entriesAt]

/-- Each entry that gives a value at a zoom has a stop. -/
theorem exists_ownStop (wanted : Number F) (fits : ∀ entry ∈ stops, entry.2.Fits) :
    ∀ entry ∈ entriesAt wanted stops, ∃ own, ownStop? entry = some own := by
  intro entry inEntries
  obtain ⟨inStops, givesAt⟩ := mem_entriesAt.mp inEntries
  obtain ⟨own, isOwn, _⟩ := (givesAt_iff (fits entry inStops)).mp givesAt
  exact ⟨own, isOwn⟩

/-- The stops at a zoom are those of the entries that give a value at it. -/
theorem filter_ownStops {wanted : Number F} (fits : ∀ entry ∈ stops, entry.2.Fits) :
    (stops.filterMap ownStop?).filter (fun stop => stop.1.same wanted) =
      (entriesAt wanted stops).filterMap ownStop? := by
  rw [List.filter_filterMap, entriesAt, List.filterMap_filter]
  apply List.filterMap_congr
  intro entry member
  have given : GivesAt wanted entry ↔ _ := givesAt_iff (fits entry member)
  cases isOwn : ownStop? entry with
  | none => simp
  | some stop =>
      rw [isOwn] at given
      simp [given, Option.filter]

/-- The ends of a list of which each item is kept. -/
theorem ends_filterMap {α β : Type} {keep : α → Option β} {items : List α}
    (each : ∀ item ∈ items, ∃ kept, keep item = some kept) :
    (items.filterMap keep).head? = items.head?.bind keep ∧
      (items.filterMap keep).getLast? = items.getLast?.bind keep := by
  constructor
  · cases items with
    | nil => rfl
    | cons first rest =>
        obtain ⟨kept, isKept⟩ := each first List.mem_cons_self
        rw [List.filterMap_cons, isKept]
        exact isKept.symm
  · obtain rfl | ⟨front, last, rfl⟩ := List.eq_nil_or_concat items
    · rfl
    · obtain ⟨kept, isKept⟩ := each last (by simp)
      simp [List.filterMap_append, isKept]

/-! ### Normalised mappings -/

/-- All integers of a mapping fit, and its textual keys are short. -/
structure WithinLimits (stops : ZoomStops F) : Prop where
  fits : ∀ entry ∈ stops, entry.1.Fits ∧ entry.2.Fits
  short : ShortKeys stops

/-- The stops that a mapping stands for. -/
structure IsNormal (stops : ZoomStops F) (found : Stops F) : Prop where
  ascending : found.Pairwise fun lower upper => lower.1.lt upper.1 = true
  occurs : ∀ zoom, (∃ stop ∈ found, stop.1.same zoom = true) ↔ ∃ entry ∈ stops, GivesAt zoom entry
  first : ∀ stop ∈ found, ∃ entry value,
    (entriesAt stop.1 stops).head? = some entry ∧ Gives entry stop.1 value
  last : ∀ stop ∈ found, ∃ entry zoom,
    (entriesAt stop.1 stops).getLast? = some entry ∧ Gives entry zoom stop.2

omit [OrderedArithmetic F] [DecimalArithmetic F] in
theorem WithinLimits.succeeds_stop? (limits : WithinLimits stops) :
    ∀ entry ∈ stops, Succeeds (stop? entry) := by
  intro entry member
  obtain ⟨keyFits, valueFits⟩ := limits.fits entry member
  have readable := readable_of_short keyFits (limits.short entry member)
  exact succeeds_stop?_iff.mpr ⟨readable, fun _ => valueFits⟩

theorem ownStops_placed (fits : ∀ entry ∈ stops, entry.2.Fits) :
    ∀ stop ∈ stops.filterMap ownStop?, ∃ place, stop.1.place? = some place := by
  intro stop member
  obtain ⟨entry, inStops, isOwn⟩ := List.mem_filterMap.mp member
  have gives := (ownStop?_eq_some_iff (fits entry inStops)).mp isOwn
  obtain ⟨place, isPlace, _⟩ := (zoom_of_parseKey _ gives.named stop.1 rfl).notBelow
  exact ⟨place, isPlace⟩

theorem stopAt?_normalized {wanted : Number F} (fits : ∀ entry ∈ stops, entry.2.Fits) :
    stopAt? wanted (merge (stops.filterMap ownStop?)) =
      joined? ((entriesAt wanted stops).filterMap ownStop?) := by
  rw [stopAt?_merge (ownStops_placed fits), filter_ownStops fits]

/-- Only the entries for each zoom count, in their order. -/
theorem normalize_congr {others : ZoomStops F} (limits : WithinLimits stops)
    (otherLimits : WithinLimits others)
    (alike : ∀ zoom, entriesAt zoom others = entriesAt zoom stops) :
    normalize others = normalize stops := by
  have fits := fun entry member => (limits.fits entry member).2
  have otherFits := fun entry member => (otherLimits.fits entry member).2
  rw [normalize_eq_merge limits.succeeds_stop?, normalize_eq_merge otherLimits.succeeds_stop?]
  congr 1
  apply eq_of_stopAt? (ascends_merge (ownStops_placed otherFits))
    (ascends_merge (ownStops_placed fits))
  intro wanted
  rw [stopAt?_normalized fits, stopAt?_normalized otherFits, alike]

/-- A stop is written as the first entry for its zoom, and has the value of the last one. -/
theorem ends_of_mem_merge (fits : ∀ entry ∈ stops, entry.2.Fits)
    (member : stop ∈ merge (stops.filterMap ownStop?)) :
    ∃ first last value zoom, (entriesAt stop.1 stops).head? = some first ∧
      (entriesAt stop.1 stops).getLast? = some last ∧ Gives first stop.1 value ∧
      Gives last zoom stop.2 := by
  have ascends := ascends_merge (ownStops_placed fits)
  have self : stop.1.same stop.1 = true := Number.same_self_iff.mpr (ascends.placed stop member)
  have isFound := (stopAt?_eq_some_iff ascends).mpr ⟨member, self⟩
  rw [stopAt?_normalized fits] at isFound
  have given := exists_ownStop stop.1 fits
  obtain ⟨firstStop, lastStop, isFirst, isLast, rfl⟩ := joined?_eq_some_iff.mp isFound
  rw [(ends_filterMap given).1] at isFirst
  rw [(ends_filterMap given).2] at isLast
  obtain ⟨first, headFound, firstOwn⟩ := Option.bind_eq_some_iff.mp isFirst
  obtain ⟨last, lastFound, lastOwn⟩ := Option.bind_eq_some_iff.mp isLast
  have firstFits := fits first (mem_entriesAt.mp (List.mem_of_head? headFound)).1
  have lastFits := fits last (mem_entriesAt.mp (List.mem_of_getLast? lastFound)).1
  exact ⟨first, last, firstStop.2, lastStop.1, headFound, lastFound,
    (ownStop?_eq_some_iff firstFits).mp firstOwn, (ownStop?_eq_some_iff lastFits).mp lastOwn⟩

theorem isNormal_merge (fits : ∀ entry ∈ stops, entry.2.Fits) :
    IsNormal stops (merge (stops.filterMap ownStop?)) := by
  have ascends := ascends_merge (ownStops_placed fits)
  refine ⟨ascends.apart, ?_, ?_, ?_⟩
  · intro zoom
    constructor
    · rintro ⟨stop, member, same⟩
      have isFound := (stopAt?_eq_some_iff ascends).mpr ⟨member, same⟩
      rw [stopAt?_normalized fits] at isFound
      have given : (entriesAt zoom stops).filterMap ownStop? ≠ [] := by
        intro nothing
        rw [nothing] at isFound
        cases isFound
      obtain ⟨own, isOwn⟩ := List.exists_mem_of_ne_nil _ given
      obtain ⟨entry, inEntries, _⟩ := List.mem_filterMap.mp isOwn
      exact ⟨entry, mem_entriesAt.mp inEntries⟩
    · rintro ⟨entry, inStops, gives⟩
      obtain ⟨own, isOwn, _⟩ := (givesAt_iff (fits entry inStops)).mp gives
      have inEntries := mem_entriesAt.mpr ⟨inStops, gives⟩
      have isFound : stopAt? zoom (merge (stops.filterMap ownStop?)) ≠ none := by
        rw [stopAt?_normalized fits, Ne, joined?_eq_none_iff]
        exact List.ne_nil_of_mem (List.mem_filterMap.mpr ⟨entry, inEntries, isOwn⟩)
      obtain ⟨stop, isStop⟩ := Option.ne_none_iff_exists'.mp isFound
      exact ⟨stop, (stopAt?_eq_some_iff ascends).mp isStop⟩
  · intro stop member
    obtain ⟨first, _, value, _, isFirst, _, gives, _⟩ := ends_of_mem_merge fits member
    exact ⟨first, value, isFirst, gives⟩
  · intro stop member
    obtain ⟨_, last, _, zoom, _, isLast, _, gives⟩ := ends_of_mem_merge fits member
    exact ⟨last, zoom, isLast, gives⟩

open Classical in
/-- A mapping within the limits has the stops that it stands for. Entries that give nothing have no
influence, and the order of the others matters only among those for the same zoom. -/
theorem normalize_isNormal (limits : WithinLimits stops) :
    ∃ found, normalize stops = .ok found ∧ IsNormal stops found ∧
      normalize (stops.filter fun entry => ∃ zoom value, Gives entry zoom value) = .ok found ∧
      ∀ others, WithinLimits others →
        (∀ zoom, entriesAt zoom others = entriesAt zoom stops) → normalize others = .ok found := by
  have fits := fun entry member => (limits.fits entry member).2
  have normalized := normalize_eq_merge limits.succeeds_stop?
  refine ⟨_, normalized, isNormal_merge fits, ?_, ?_⟩
  · rw [← normalized]
    apply normalize_congr limits
    · exact ⟨fun entry member => limits.fits entry (List.mem_of_mem_filter member),
        fun entry member => limits.short entry (List.mem_of_mem_filter member)⟩
    · intro zoom
      rw [entriesAt, entriesAt, List.filter_filter]
      apply List.filter_congr
      intro entry _
      have given : GivesAt zoom entry → ∃ own value, Gives entry own value := by
        rintro ⟨own, value, gives, _⟩
        exact ⟨own, value, gives⟩
      simpa using given
  · intro others otherLimits alike
    rw [← normalized]
    exact normalize_congr limits otherLimits alike

/-- Two zooms, one of them written in two ways, among entries that give nothing. -/
def mixedEntries : ZoomStops Float :=
  [("z6", 1), (.number (.real 6.0), 2), ("bogus", 3), ("z4", "wide"), (Json.bool true, 4),
    ("z8", .null), ("z4", 5)]

open Classical in
/-- The later entry for a zoom counts. -/
theorem mixedEntries_isNormal :
    WithinLimits mixedEntries ∧
      (∃ found, normalize mixedEntries = .ok found ∧ IsNormal mixedEntries found ∧
        normalize (mixedEntries.filter fun entry => ∃ zoom value, Gives entry zoom value) =
          .ok found ∧
        ∀ others, WithinLimits others →
          (∀ zoom, entriesAt zoom others = entriesAt zoom mixedEntries) →
          normalize others = .ok found) ∧
      normalize mixedEntries = .ok [(4, 5), (6, 2)] := by
  have limits : WithinLimits mixedEntries :=
    ⟨show ∀ entry ∈ mixedEntries, entry.1.Fits ∧ entry.2.Fits by decide +kernel,
      show ShortKeys mixedEntries by decide +kernel⟩
  exact ⟨limits, normalize_isNormal limits, by with_unfolding_all rfl⟩

/-! ### Keys and values of any size -/

/-- Keys and mappings are read unless they hold too large integers. -/
theorem read_unless_too_large :
    (∀ key : Json F, (Succeeds (parseKey key) ↔ key.Readable) ∧
      Ensures (fun found => ∀ zoom ∈ found, IsZoomOf key zoom) (parseKey key)) ∧
    ∀ stops : ZoomStops F, Succeeds (normalize stops) ↔
      ∀ entry ∈ stops, entry.1.Readable ∧
        ((∃ zoom, parseKey entry.1 = .ok (some zoom)) → entry.2.Fits) :=
  ⟨fun _ => ⟨succeeds_parseKey_iff, zoom_of_parseKey⟩, fun _ => succeeds_normalize_iff⟩

/-- The zoom of a text with a fraction, and a mapping in which no integer is too large. -/
theorem mixedEntries_read :
    Returns (fun found => ∃ zoom, found = some zoom ∧ IsZoomOf (.text "z6_5") zoom)
        (parseKey (.text "z6_5" : Json Float)) ∧
      Succeeds (normalize mixedEntries) := by
  obtain ⟨keys, mappings⟩ := read_unless_too_large (F := Float)
  constructor
  · have named : Succeeds (parseKey (.text "z6_5" : Json Float)) :=
      (keys _).1.mpr (readable_of_short trivial (by decide +kernel))
    have given : Ensures (fun found => found ≠ none) (parseKey (.text "z6_5" : Json Float)) := by
      rintro found isFound rfl
      have isSome : (parseKey (.text "z6_5" : Json Float)).toOption.join.isSome = true := by
        decide +kernel
      rw [isFound] at isSome
      cases isSome
    refine named.returns fun found isFound => ?_
    obtain ⟨zoom, isZoom⟩ := Option.ne_none_iff_exists'.mp (given found isFound)
    exact ⟨zoom, isZoom, (keys _).2 found isFound zoom isZoom⟩
  · have fits : ∀ entry ∈ mixedEntries, entry.1.Fits ∧ entry.2.Fits := by decide +kernel
    have short : ShortKeys mixedEntries := by decide +kernel
    refine (mappings _).mpr fun entry member => ?_
    have readable := readable_of_short (fits entry member).1 (short entry member)
    exact ⟨readable, fun _ => (fits entry member).2⟩

/-- An integer beyond the range of doubles. -/
def beyondDoubles : Number Float := .int (10 ^ 400)

/-- A fraction of zeros leaves a zoom fractional, and an integer that is too large is fatal, be it a
key or a value. -/
theorem fraction_kept_and_size_fatal :
    Returns (fun found => ∃ zoom, found = some zoom ∧ zoom.whole? = some 6 ∧ zoom ≠ .int 6)
        (parseKey (.text "z6_0" : Json Float)) ∧
      parseKey (.number beyondDoubles) = .error .integerTooLarge ∧
      (normalize [("z4", 1), ("z6", .number beyondDoubles)]).isOk = false := by
  have beyond : Arithmetic.ofRat? (F := Float) ((10 ^ 400 : Int) : Rat) = none :=
    Option.isNone_iff_eq_none.mp (by decide +kernel)
  have tooLarge : beyondDoubles.isFinite = .error .integerTooLarge := by
    rw [Number.isFinite, Number.toReal, beyondDoubles, Number.view_int]
    dsimp only
    rw [beyond]
    rfl
  refine ⟨⟨some (.real 6.0), by with_unfolding_all rfl, _, rfl, ?_, ?_⟩, ?_, ?_⟩
  · with_unfolding_all rfl
  · intro same
    cases same
  · show numberKey beyondDoubles = _
    rw [numberKey, if_neg (by decide), tooLarge]
    rfl
  · decide +kernel

end MapStyle.Zoom
