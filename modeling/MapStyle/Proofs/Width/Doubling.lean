import MapStyle.Proofs.Expr.Interpolated
import MapStyle.Proofs.Expr.Total
import MapStyle.Proofs.Width.Resolved

/-!
# Road widths that double

From the zoom at which real-world widths begin up to the last zoom, the width of a road doubles
with every zoom, for every class and over exact arithmetic: the last stop, the power that scales it
and the base of the curve fit together. Where the widths at the stops up to the start do not fall,
no width falls from one integer zoom to a later one.
-/

namespace MapStyle

set_option autoImplicit false

/-- A number without a fractional part. -/
def Number.IsWhole (number : Number Rat) : Prop :=
  number.exact = number.exact.num

namespace Level

def ofStop (stop : Number Rat × Number Rat) : Level :=
  (stop.1.exact.num, stop.2.exact)

variable {zooms widths : List (Number Rat)}

theorem rising_ofStops (ascend : Number.Ascend zooms) (whole : ∀ zoom ∈ zooms, zoom.IsWhole)
    (sameLength : zooms.length = widths.length) : Rising ((zooms.zip widths).map ofStop) := by
  have keys : Number.Ascend ((zooms.zip widths).map Prod.fst) := by
    rw [List.map_fst_zip sameLength.le]
    exact ascend
  refine List.pairwise_map.mpr ((List.pairwise_map.mp keys).imp_of_mem ?_)
  intro lower upper lowerMember upperMember below
  have lowerWhole := whole lower.1 (List.of_mem_zip lowerMember).1
  have upperWhole := whole upper.1 (List.of_mem_zip upperMember).1
  rw [lowerWhole, upperWhole] at below
  exact Int.cast_lt.mp below

theorem growing_ofStops (growing : widths.Pairwise fun lower upper => lower.exact ≤ upper.exact)
    (sameLength : zooms.length = widths.length) : Growing ((zooms.zip widths).map ofStop) := by
  have values : ((zooms.zip widths).map Prod.snd).Pairwise fun lower upper =>
      lower.exact ≤ upper.exact := by
    rw [List.map_snd_zip sameLength.ge]
    exact growing
  have stops := List.pairwise_map.mp values
  exact List.pairwise_map.mpr stops

/-- From a level on, up to what has become of it by doubling. -/
theorem along_doubling {first last zoom : Int} {value : Rat} (apart : first < last)
    (reached : first ≤ zoom) (within : zoom ≤ last) :
    along [(first, value), (last, value * 2 ^ (last - first))] zoom =
      value * 2 ^ (zoom - first) := by
  rw [along]
  split
  · have same : zoom = first := by omega
    rw [same, sub_self, zpow_zero, mul_one]
  · split
    · exact eased_doubling apart
    · have same : zoom = last := by omega
      rw [same]
      rfl

end Level

namespace RoadWidths

open MapStyle.Expr (Gives ShowPairs ShownAs)
open Number (Ascend)

variable {widths : RoadWidths Rat} {renderer : Renderer Rat} {scene : Scene Rat}
  {start : Number Rat} {first zoom : Int} {featureClass : String}

/-! ### The power of two -/

theorem returns_growthFrom (isFirst : start.exact = first) (below : first < lastScaleZoom) :
    Returns (fun growth => growth.exact = 2 ^ ((lastScaleZoom : Int) - first))
      (growthFrom start) := by
  refine Number.returns_sub.bind fun distance distanceExact => ?_
  obtain ⟨steps, isSteps⟩ : ∃ steps : Nat, (lastScaleZoom : Int) - first = steps :=
    Int.eq_ofNat_of_zero_le (by omega)
  have whole : distance.exact = steps := by
    rw [distanceExact, isFirst, Number.exact_int]
    exact_mod_cast isSteps
  rw [isSteps]
  simpa using Number.returns_twoPow whole

theorem returns_widthAtLast {width : Number Rat} (isFirst : start.exact = first)
    (below : first < lastScaleZoom) (found : widths.resolvedWidth start featureClass = .ok width) :
    Returns (fun final => final.exact = width.exact * 2 ^ ((lastScaleZoom : Int) - first))
      (widths.widthAtLast start featureClass) := by
  refine (returns_growthFrom isFirst below).bind fun growth growthExact => ?_
  have widthFound : widths.widthAt featureClass start widthWithoutStops = .ok width := found
  unfold scaledWidth
  rw [widthFound, ← growthExact]
  exact Number.returns_mul

/-! ### The stops of one class -/

theorem shown_of_gives {F : Type} [Arithmetic F]
    {width : String → Except NumberError (Number F)} {output : Expr F}
    (gives : Gives width output) (renderer : Renderer F) (featureClass : String) :
    ∃ value, width featureClass = .ok value ∧ ∀ scene : Scene F,
      scene.feature.IsOfClass featureClass →
        output.shown renderer scene = some (.number value) := by
  obtain ⟨value, found, _⟩ := gives (fun _ => some (.text featureClass)) featureClass rfl
  refine ⟨value, found, ?_⟩
  intro scene isOfClass
  obtain ⟨same, sameFound, means⟩ := gives scene.feature featureClass isOfClass
  cases found.symm.trans sameFound
  exact Expr.keeps_meaning output _ means

/-- Stops with the widths of one class, as they are shown. -/
def shownStops (zooms found : List (Number Rat)) : List (Number Rat × Json Rat) :=
  (zooms.zip found).map fun stop => (stop.1, .number stop.2)

/-- For a class, the outputs of the stops are shown as its widths. -/
theorem ShowsWidths.showPairs {zooms : List (Number Rat)} {stops : List (Expr Rat × Expr Rat)}
    (shows : widths.ShowsWidths zooms stops) (renderer : Renderer Rat) (featureClass : String) :
    ∃ found, zooms.mapM (fun zoom => widths.resolvedWidth zoom featureClass) = .ok found ∧
      ∀ scene : Scene Rat, scene.feature.IsOfClass featureClass →
        ShowPairs renderer scene stops (shownStops zooms found) := by
  induction shows with
  | nil => exact ⟨[], rfl, fun _ _ => .nil⟩
  | @cons zoom stop otherZooms others stopShows _ ih =>
      obtain ⟨rest, restFound, restShows⟩ := ih
      obtain ⟨width, widthFound, widthShown⟩ :=
        shown_of_gives stopShows.2 renderer featureClass
      refine ⟨width :: rest, ?_, ?_⟩
      · rw [List.mapM_cons, widthFound, restFound]
        rfl
      · intro scene isOfClass
        exact .cons ⟨stopShows.1, widthShown scene isOfClass⟩ (restShows scene isOfClass)

theorem isLevel_shownStops {zooms found : List (Number Rat)}
    (whole : ∀ zoom ∈ zooms, zoom.IsWhole) :
    List.Forall₂ Renderer.IsLevel (shownStops zooms found)
      ((zooms.zip found).map Level.ofStop) := by
  refine List.forall₂_map_left_iff.mpr (List.forall₂_map_right_iff.mpr (List.forall₂_same.mpr ?_))
  intro stop member
  exact ⟨whole stop.1 (List.of_mem_zip member).1, stop.2, rfl, rfl⟩

/-! ### The levels of one class -/

def fixedZooms (start : Number Rat) : List (Number Rat) :=
  (curveZooms.take 2).filter fun zoom => zoom.lt start

theorem isWhole_fixedZooms : ∀ zoom ∈ fixedZooms start, zoom.IsWhole := by
  have fixed : ∀ zoom ∈ (curveZooms : List (Number Rat)), zoom.IsWhole := by
    unfold Number.IsWhole curveZooms
    decide
  intro zoom member
  exact fixed zoom (List.mem_of_mem_take (List.mem_filter.mp member).1)

/-- The widths of a class before the start, at the start and, doubled, at the last zoom. -/
def classLevels (start : Number Rat) (first : Int) (front : List (Number Rat)) (width : Rat) :
    List Level :=
  ((fixedZooms start).zip front).map Level.ofStop ++
    [(first, width), (lastScaleZoom, width * 2 ^ ((lastScaleZoom : Int) - first))]

section Levels

variable {front : List (Number Rat)} {width final : Number Rat}

theorem classLevels_eq (isFirst : start.exact = first)
    (sameLength : (fixedZooms start).length = front.length)
    (doubled : final.exact = width.exact * 2 ^ ((lastScaleZoom : Int) - first)) :
    ((fixedZooms start ++ [start, .int lastScaleZoom]).zip (front ++ [width, final])).map
      Level.ofStop = classLevels start first front width.exact := by
  have startLevel : Level.ofStop (start, width) = (first, width.exact) := by
    rw [Level.ofStop, isFirst, Rat.num_intCast]
  have lastLevel : Level.ofStop (.int lastScaleZoom, final) =
      ((lastScaleZoom : Int), width.exact * 2 ^ ((lastScaleZoom : Int) - first)) :=
    Prod.ext rfl doubled
  rw [List.zip_append sameLength, List.map_append, classLevels, ← startLevel, ← lastLevel]
  rfl

theorem length_curve (sameLength : (fixedZooms start).length = front.length) :
    (fixedZooms start ++ [start, .int lastScaleZoom]).length =
      (front ++ [width, final]).length := by
  rw [List.length_append, List.length_append, sameLength]
  rfl

theorem isWhole_curve (isFirst : start.exact = first) :
    ∀ zoom ∈ fixedZooms start ++ [start, .int lastScaleZoom], zoom.IsWhole := by
  have startWhole : start.IsWhole := by
    rw [Number.IsWhole, isFirst, Rat.num_intCast]
  have lastWhole : (Number.int lastScaleZoom : Number Rat).IsWhole := rfl
  simp only [List.forall_mem_append, List.forall_mem_cons]
  exact ⟨isWhole_fixedZooms, startWhole, lastWhole, by simp⟩

theorem isLevel_classStops (isFirst : start.exact = first)
    (sameLength : (fixedZooms start).length = front.length)
    (doubled : final.exact = width.exact * 2 ^ ((lastScaleZoom : Int) - first)) :
    List.Forall₂ Renderer.IsLevel
      (shownStops (scaleZooms start) (front ++ [width]) ++ [(.int lastScaleZoom, .number final)])
      (classLevels start first front width.exact) := by
  have stops : shownStops (scaleZooms start) (front ++ [width]) ++
      [(.int lastScaleZoom, .number final)] =
        shownStops (fixedZooms start ++ [start, .int lastScaleZoom]) (front ++ [width, final]) := by
    unfold shownStops scaleZooms
    unfold fixedZooms at sameLength ⊢
    rw [List.zip_append sameLength, List.zip_append sameLength, List.map_append, List.map_append,
      List.append_assoc]
    rfl
  rw [stops, ← classLevels_eq isFirst sameLength doubled]
  exact isLevel_shownStops (isWhole_curve isFirst)

theorem rising_classLevels (isFirst : start.exact = first) (below : first < lastScaleZoom)
    (sameLength : (fixedZooms start).length = front.length) :
    Level.Rising (classLevels start first front width.exact) := by
  have underLast : start.exact < (Number.int lastScaleZoom : Number Rat).exact := by
    rw [isFirst]
    exact Int.cast_lt.mpr below
  let final : Number Rat := .real (width.exact * 2 ^ ((lastScaleZoom : Int) - first))
  have doubled : final.exact = width.exact * 2 ^ ((lastScaleZoom : Int) - first) := rfl
  rw [← classLevels_eq isFirst sameLength doubled]
  exact Level.rising_ofStops (ascend_realWorldZooms underLast) (isWhole_curve isFirst)
    (length_curve sameLength)

/-- Doubling lets no width fall that is not negative. -/
theorem growing_classLevels (isFirst : start.exact = first) (below : first < lastScaleZoom)
    (sameLength : (fixedZooms start).length = front.length) (notNegative : 0 ≤ width.exact)
    (growing : (front ++ [width]).Pairwise fun lower upper => lower.exact ≤ upper.exact) :
    Level.Growing (classLevels start first front width.exact) := by
  let final : Number Rat := .real (width.exact * 2 ^ ((lastScaleZoom : Int) - first))
  have doubled : final.exact = width.exact * 2 ^ ((lastScaleZoom : Int) - first) := rfl
  have widthUnderFinal : width.exact ≤ final.exact :=
    le_mul_of_one_le_right notNegative (Level.one_lt_power (by omega)).le
  obtain ⟨frontGrowing, _, frontUnderWidth⟩ := List.pairwise_append.mp growing
  rw [← classLevels_eq isFirst sameLength doubled]
  refine Level.growing_ofStops ?_ (length_curve sameLength)
  refine List.pairwise_append.mpr ⟨frontGrowing, List.pairwise_pair.mpr widthUnderFinal, ?_⟩
  intro lower inFront upper member
  have underWidth := frontUnderWidth lower inFront width (List.mem_singleton_self width)
  simp only [List.mem_cons, List.not_mem_nil, or_false] at member
  obtain rfl | rfl := member
  · exact underWidth
  · exact underWidth.trans widthUnderFinal

end Levels

/-! ### The whole curve -/

/-- For every class the curve follows its widths, doubled from the start on. -/
theorem ShowsScaled.shownAs {result : Expr Rat} (shows : widths.ShowsScaled start result)
    (eases : renderer.EasesByPowers) (isFirst : start.exact = first)
    (below : first < lastScaleZoom) (featureClass : String) :
    ∃ front width,
      (scaleZooms start).mapM (fun zoom => widths.resolvedWidth zoom featureClass) =
        .ok (front ++ [width]) ∧
      (fixedZooms start).length = front.length ∧
      widths.resolvedWidth start featureClass = .ok width ∧
      ∀ (scene : Scene Rat) (zoom : Int), scene.feature.IsOfClass featureClass →
        scene.zoom.exact = zoom →
        result.ShownAs renderer scene
          (Level.along (classLevels start first front width.exact) zoom) := by
  obtain ⟨stops, final, rfl, stopsShow, finalGives⟩ := shows
  obtain ⟨found, widthsFound, stopsShown⟩ := stopsShow.showPairs renderer featureClass
  obtain ⟨front, width, frontFound, widthFound, rfl⟩ :=
    mapM_append_singleton_eq_ok.mp widthsFound
  obtain ⟨last, lastFound, lastShown⟩ := shown_of_gives finalGives renderer featureClass
  obtain ⟨scaled, scaledFound, doubled⟩ := returns_widthAtLast isFirst below widthFound
  cases lastFound.symm.trans scaledFound
  have sameLength : (fixedZooms start).length = front.length :=
    (mapM_eq_ok.mp frontFound).length_eq
  refine ⟨front, width, widthsFound, sameLength, widthFound, ?_⟩
  intro scene zoom isOfClass atZoom
  have pairs : ShowPairs renderer scene (stops ++ [(.number (.int lastScaleZoom), final)])
      (shownStops (scaleZooms start) (front ++ [width]) ++
        [(.int lastScaleZoom, .number last)]) :=
    List.rel_append (stopsShown scene isOfClass) (.cons ⟨rfl, lastShown scene isOfClass⟩ .nil)
  have related : List.Forall₂ Renderer.IsLevel
      (shownStops (scaleZooms start) (front ++ [width]) ++ [(.int lastScaleZoom, .number last)])
      (classLevels start first front width.exact) :=
    isLevel_classStops isFirst sameLength doubled
  obtain ⟨number, shown, value⟩ :=
    Renderer.along_eq_levels eases atZoom related (by simp [classLevels])
  refine ⟨number, ?_, value⟩
  rw [Expr.shown_curveNode Expr.shown_zoom pairs]
  exact shown

/-- From the first level on that doubles, the width is that at the start, doubled with every
zoom. -/
theorem along_classLevels {front : List (Number Rat)} {width : Number Rat}
    (isFirst : start.exact = first) (below : first < lastScaleZoom)
    (sameLength : (fixedZooms start).length = front.length) (reached : first ≤ zoom)
    (within : zoom ≤ lastScaleZoom) :
    Level.along (classLevels start first front width.exact) zoom =
      width.exact * 2 ^ (zoom - first) := by
  have rising : Level.Rising (classLevels start first front width.exact) :=
    rising_classLevels isFirst below sameLength
  unfold classLevels at rising ⊢
  rw [Level.along_append rising reached]
  exact Level.along_doubling below reached within

/-- The widths of a class at the stops up to the start are not negative and do not fall. -/
def NeverFalls (widths : RoadWidths Rat) (start : Number Rat) (featureClass : String) : Prop :=
  Ensures (fun found => (∀ width ∈ found, 0 ≤ width.exact) ∧
      found.Pairwise fun lower upper => lower.exact ≤ upper.exact)
    ((scaleZooms start).mapM fun zoom => widths.resolvedWidth zoom featureClass)

instance : Decidable (widths.NeverFalls start featureClass) :=
  inferInstanceAs (Decidable (Ensures _ _))

/-- Over exact arithmetic nothing can fail but the widths themselves. -/
theorem succeeds_realWorldWidth_of_resolved (isFirst : start.exact = first)
    (below : first < lastScaleZoom) :
    Succeeds (widths.realWorldWidth start) ↔ ∀ zoom ∈ scaleZooms start, widths.ResolvedAt zoom := by
  have underLast : start.lt (.int lastScaleZoom) = true := by
    rw [Number.lt_eq_decide, isFirst]
    exact decide_eq_true (Int.cast_lt.mpr below)
  rw [succeeds_realWorldWidth_iff underLast]
  constructor
  · intro both
    exact both.1
  · intro resolved
    refine ⟨resolved, fun featureClass => ?_⟩
    obtain ⟨width, found⟩ := succeeds_iff.mp (resolved start start_mem_scaleZooms featureClass)
    exact (returns_widthAtLast isFirst below found).succeeds

/-- What a curve shows of a class: from the start to the last zoom its width at the start, doubled
with every zoom; and at no integer zoom less than at an earlier one, if its widths up to the start
do not fall. -/
structure DoublesFor (widths : RoadWidths Rat) (renderer : Renderer Rat) (start : Number Rat)
    (first : Int) (featureClass : String) (result : Expr Rat) : Prop where
  doubled : ∃ width, widths.resolvedWidth start featureClass = .ok width ∧
    ∀ (scene : Scene Rat) (zoom : Int), scene.feature.IsOfClass featureClass →
      scene.zoom.exact = zoom → first ≤ zoom → zoom ≤ lastScaleZoom →
      result.ShownAs renderer scene (width.exact * 2 ^ (zoom - first))
  neverFalls : widths.NeverFalls start featureClass →
    ∀ (earlier later : Scene Rat) (earlierZoom laterZoom : Int),
      earlier.feature.IsOfClass featureClass → later.feature.IsOfClass featureClass →
      earlier.zoom.exact = earlierZoom → later.zoom.exact = laterZoom →
      earlierZoom ≤ laterZoom →
      ∃ earlierWidth laterWidth, result.ShownAs renderer earlier earlierWidth ∧
        result.ShownAs renderer later laterWidth ∧ earlierWidth ≤ laterWidth

/-- Widths double with every zoom from any integer zoom on, whatever the table of widths and the
class of the road are. -/
theorem doubles_from_start (widths : RoadWidths Rat) (eases : renderer.EasesByPowers)
    (isFirst : start.exact = first) (below : first < lastScaleZoom) :
    (Succeeds (widths.realWorldWidth start) ↔
        ∀ zoom ∈ scaleZooms start, widths.ResolvedAt zoom) ∧
      Ensures (fun result => ∀ featureClass,
          widths.DoublesFor renderer start first featureClass result)
        (widths.realWorldWidth start) := by
  refine ⟨succeeds_realWorldWidth_of_resolved isFirst below, ?_⟩
  intro result found featureClass
  have underLast : start.lt (.int lastScaleZoom) = true := by
    rw [Number.lt_eq_decide, isFirst]
    exact decide_eq_true (Int.cast_lt.mpr below)
  have shows := showsScaled_realWorldWidth underLast result found
  obtain ⟨front, width, widthsFound, sameLength, widthFound, shown⟩ :=
    shows.shownAs eases isFirst below featureClass
  constructor
  case doubled =>
    refine ⟨width, widthFound, ?_⟩
    intro scene zoom isOfClass atZoom reached within
    rw [← along_classLevels isFirst below sameLength reached within]
    exact shown scene zoom isOfClass atZoom
  case neverFalls =>
    intro never earlier later earlierZoom laterZoom earlierClass laterClass atEarlier atLater
      notLater
    obtain ⟨notNegative, growing⟩ := never _ widthsFound
    have widthNotNegative := notNegative width (by simp)
    refine ⟨_, _, shown earlier earlierZoom earlierClass atEarlier,
      shown later laterZoom laterClass atLater, ?_⟩
    exact Level.along_mono (rising_classLevels isFirst below sameLength)
      (growing_classLevels isFirst below sameLength widthNotNegative growing) notLater

/-- A minor road that is as wide at zoom 15 as four pixels is eight times as wide at zoom 18. -/
theorem standard_doubles :
    Renderer.exact.EasesByPowers ∧ (15 : Number Rat).exact = (15 : Int) ∧
      (standard : RoadWidths Rat).NeverFalls 15 "minor" ∧
      Returns (fun result =>
          (standard : RoadWidths Rat).DoublesFor Renderer.exact 15 15 "minor" result)
        ((standard : RoadWidths Rat).realWorldWidth 15) := by
  have never : (standard : RoadWidths Rat).NeverFalls 15 "minor" := by decide +kernel
  have built : ((standard : RoadWidths Rat).realWorldWidth 15).isOk = true := by
    decide +kernel
  obtain ⟨result, found⟩ := exists_of_isOk built
  obtain ⟨_, doubles⟩ := doubles_from_start (standard : RoadWidths Rat)
    Renderer.easesByPowers_exact (rfl : (15 : Number Rat).exact = (15 : Int)) (by decide)
  exact ⟨Renderer.easesByPowers_exact, rfl, never, result, found, doubles result found "minor"⟩

end RoadWidths

end MapStyle
