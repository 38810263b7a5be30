import MapStyle.Layer.Depth
import MapStyle.Presets
import MapStyle.Proofs.Expr.Line
import MapStyle.Proofs.Layer.CompleteSurface
import MapStyle.Proofs.Layer.Fading
import MapStyle.Proofs.Theme.Opacity

/-!
# How opaque bands of depth are

A band has an opacity of its own or a part of the largest one. Towards the least zoom it fades by
the ratio of the two ends of the range of opacities, whichever of them is larger. Where the
opacities fall from band to band, no band lies upon one that is more opaque at the largest zoom.
-/

namespace MapStyle

set_option autoImplicit false

open DrawStep (AllDraw allDraw_append allDraw_map allDraw_ofDomain compile draws_draw)
open Set (Icc)

/-- A curve of fading ends with the full value and with nothing. -/
theorem Expr.exists_front_of_zoomFade {F : Type} [Arithmetic F] {minZoom maxZoom : Number F}
    {start full curve : Expr F} (found : zoomFade minZoom maxZoom start full = .ok curve) :
    ∃ front, curve = .op "interpolate"
      (front ++ [.number maxZoom, full, .number maxZoom.next, 0.0]) := by
  unfold zoomFade at found
  dsimp only at found
  generalize (if minZoom.lt maxZoom then [(Expr.number minZoom, start)] else []) = rising at found
  obtain ⟨_, _, rfl⟩ := curve_eq_ok.mp found
  exact ⟨.op "linear" [] :: zoom :: alternating rising, by simp [curveNode, alternating]⟩

namespace Depth

/-! ### The band of a depth -/

/-- The value behind the first key that passes, or else the last one, is found by its place. -/
theorem find?_or_getLast? {α β : Type} (passes : α → Bool) {keys : List α} {values : List β}
    (oneMore : values.length = keys.length + 1) :
    (((keys.zip values).find? fun entry => passes entry.1).map Prod.snd).or values.getLast? =
      values[keys.findIdx passes]? := by
  induction keys generalizing values with
  | nil =>
      obtain ⟨last, rfl⟩ := List.length_eq_one_iff.mp oneMore
      rfl
  | cons key others ih =>
      obtain _ | ⟨value, _ | ⟨next, rest⟩⟩ := values
      · cases oneMore
      · cases Nat.succ.inj oneMore
      · rw [List.zip_cons_cons, List.find?_cons, List.findIdx_cons, List.getLast?_cons_cons]
        cases passes key with
        | true => rfl
        | false => exact ih (Nat.succ.inj oneMore)

/-- The place of the band of a depth. Every band but the last one ends at its checkpoint. -/
def bandNumber (depth : Nat) : Nat :=
  checkpoints.dropLast.findIdx fun checkpoint => depth ≤ checkpoint

section Ramp

variable {F : Type} [Arithmetic F] {ramp : List (Number F)}

/-- The place of the band of any depth, above sea level or between two metres. -/
def bandOf (depth : Number F) : Nat :=
  checkpoints.dropLast.findIdx fun checkpoint : Nat => depth.le (.int checkpoint)

theorem bandOf_int (depth : Nat) : bandOf (.int depth : Number Rat) = bandNumber depth := by
  simp [bandOf, bandNumber]

theorem opacityAt_eq_getElem? (each : ramp.length = bands.length) (depth : Number F) :
    opacityAt depth ramp = ramp[bandOf depth]? := by
  unfold opacityAt
  exact find?_or_getLast? (fun checkpoint : Nat => depth.le (.int checkpoint)) each

theorem bandOf_lt (each : ramp.length = bands.length) (depth : Number F) :
    bandOf depth < ramp.length := by
  have atMost : bandOf depth ≤ checkpoints.dropLast.length := List.findIdx_le_length
  rw [each]
  exact Nat.lt_succ_of_le atMost

theorem opacityAt_eq_get (each : ramp.length = bands.length) (depth : Number F) :
    opacityAt depth ramp = some (ramp.get ⟨bandOf depth, bandOf_lt each depth⟩) :=
  (opacityAt_eq_getElem? each depth).trans (List.getElem?_eq_getElem (bandOf_lt each depth))

end Ramp

theorem opacityAt_eq {ramp : List (Number Rat)} (each : ramp.length = bands.length) (depth : Nat) :
    opacityAt (.int depth) ramp = ramp[bandNumber depth]? := by
  rw [opacityAt_eq_getElem? each, bandOf_int]

/-- The opacity that a theme gives to a band itself. -/
def ownOpacity (config : BathymetryConfig Rat) (band : String) : Option (Number Rat) :=
  (config.depthOpacities.bind fun table => table.lookup band).bind id

/-- The opacity of a band is its own one, or its part of the largest one. -/
def IsBandOpacity (config : BathymetryConfig Rat) (band : String × Number Rat)
    (opacity : Number Rat) : Prop :=
  match ownOpacity config band.1 with
  | some own => opacity = own
  | none => ∃ largest ∈ config.opacity.atMax, opacity.exact = largest.exact * band.2.exact

theorem ensures_opacities (config : BathymetryConfig Rat) :
    Ensures (List.Forall₂ (IsBandOpacity config) (bands.zip opacityFactors))
      (opacities config) := by
  refine Ensures.mapM fun band _ => ?_
  dsimp only
  split
  · rename_i own given
    have isOwn : ownOpacity config band.1 = some own := given
    exact Ensures.pure_iff.mpr (by simp [IsBandOpacity, isOwn])
  · rename_i notGiven
    have noOwn : ownOpacity config band.1 = none := notGiven
    refine Ensures.bind fun largest found => ?_
    have given : config.opacity.atMax = some largest := require_eq_ok.mp found
    intro part partFound
    have value : part.exact = largest.exact * band.2.exact :=
      Number.returns_mul.ensures part (lift_eq_ok.mp partFound)
    simpa [IsBandOpacity, noOwn, given] using value

variable {config : BathymetryConfig Rat} {band : String × Number Rat} {full : Number Rat}

/-- What was found for a depth is the opacity of its band. -/
theorem isBandOpacity_of_opacityAt {ramp : List (Number Rat)} {depth : Nat}
    (rampFound : opacities config = .ok ramp) (found : opacityAt (.int depth) ramp = some full) :
    ∃ band, (bands.zip opacityFactors)[bandNumber depth]? = some band ∧
      IsBandOpacity config band full := by
  have related := ensures_opacities config ramp rampFound
  rw [opacityAt_eq related.length_eq.symm depth] at found
  obtain ⟨inside, rfl⟩ := List.getElem?_eq_some_iff.mp found
  have within : bandNumber depth < (bands.zip opacityFactors : List (String × Number Rat)).length :=
    related.length_eq ▸ inside
  exact ⟨_, List.getElem?_eq_getElem within, related.get within inside⟩

theorem legal_factors :
    ∀ band ∈ (bands.zip opacityFactors : List (String × Number Rat)), band.2.IsOpacity := by
  decide +kernel

section Legal

variable (legal : config.LegalOpacities) (isBand : band ∈ bands.zip opacityFactors)
  (isOpacity : IsBandOpacity config band full)

include legal isBand isOpacity

theorem isOpacity_of_isBandOpacity : full.IsOpacity := by
  unfold IsBandOpacity at isOpacity
  split at isOpacity
  · rename_i own given
    subst isOpacity
    obtain ⟨entry, found, isOwn⟩ := Option.bind_eq_some_iff.mp given
    obtain ⟨table, isTable, listed⟩ := Option.bind_eq_some_iff.mp found
    obtain ⟨front, back, rfl, _⟩ := List.lookup_eq_some_iff.mp listed
    exact legal.bands _ isTable (band.1, entry) (by simp) full isOwn
  · obtain ⟨largest, given, value⟩ := isOpacity
    obtain ⟨notNegative, atMostOne⟩ := legal.atMax largest given
    obtain ⟨factorNotNegative, factorAtMostOne⟩ := legal_factors band isBand
    rw [Number.IsOpacity, value]
    exact ⟨mul_nonneg notNegative factorNotNegative,
      mul_le_one₀ atMostOne factorNotNegative factorAtMostOne⟩

/-- A band without an opacity of its own is at most as opaque as the largest one says. -/
theorem le_largest_of_no_own (noOwn : ownOpacity config band.1 = none) {largest : Number Rat}
    (given : config.opacity.atMax = some largest) : full.exact ≤ largest.exact := by
  unfold IsBandOpacity at isOpacity
  rw [noOwn] at isOpacity
  obtain ⟨other, otherGiven, value⟩ := isOpacity
  cases given.symm.trans otherGiven
  rw [value]
  exact mul_le_of_le_one_right (legal.atMax largest given).1 (legal_factors band isBand).2

end Legal

/-! ### The curve of a band -/

/-- The values at all stops of a curve are opacities. -/
def LegalStops (curve : Expr Rat) : Prop :=
  ∃ points, curve.stopPoints? = some points ∧ ∀ point ∈ points, point.2 ∈ Icc 0 1

/-- The values of a curve at all zooms are opacities. -/
def LegalEverywhere (curve : Expr Rat) : Prop :=
  ∀ zoom, ∃ value ∈ Icc 0 1, curve.linearAt? zoom = some value

/-- A curve through several points keeps to the opacities exactly if its points do. -/
theorem legalEverywhere_iff {curve : Expr Rat} {points : List Point}
    (found : curve.stopPoints? = some points) (rising : Point.Rising points) (given : points ≠ []) :
    LegalEverywhere curve ↔ LegalStops curve := by
  constructor
  · intro everywhere
    refine ⟨points, found, fun point member => ?_⟩
    obtain ⟨value, within, isValue⟩ := everywhere point.1
    rw [Expr.linearAt?_of_stopPoints? found, Point.along_self rising member] at isValue
    cases isValue
    exact within
  · rintro ⟨other, otherFound, each⟩ zoom
    cases found.symm.trans otherFound
    obtain ⟨value, isValue, within⟩ := Point.along_mem given each
    exact ⟨value, within, (Expr.linearAt?_of_stopPoints? found zoom).trans isValue⟩

/-- What the curve of a band is like: where its stops lie, and when it keeps to the opacities. -/
structure Fading (config : BathymetryConfig Rat) (least largest full : Rat) (curve : Expr Rat) :
    Prop where
  stops : ∃ minZoom ∈ config.minZoom, ∃ maxZoom ∈ config.maxZoom,
    curve.stopPoints? = some [(minZoom.exact, full * (least / largest)), (maxZoom.exact, full),
      (maxZoom.exact + 1, 0)]
  fullLegal : full ∈ Icc 0 1
  startNotNegative : 0 ≤ full * (least / largest)
  atStops : LegalStops curve ↔ full * least ≤ largest
  everywhere : LegalEverywhere curve ↔ full * least ≤ largest

theorem fadeRatio_eq_ok {range : ValueRange Rat} {ratio : Number Rat} (visible : range.Visible)
    (found : fadeRatio range = .ok ratio) :
    ∃ least ∈ range.atMin, ∃ largest ∈ range.atMax, 0 < largest.exact ∧
      ratio.exact = least.exact / largest.exact := by
  obtain ⟨least, leastFound, rest⟩ := bind_eq_ok.mp found
  obtain ⟨largest, largestFound, divided⟩ := bind_eq_ok.mp rest
  obtain ⟨other, otherGiven, above⟩ := visible
  have largestGiven : range.atMax = some largest := require_eq_ok.mp largestFound
  cases largestGiven.symm.trans otherGiven
  exact ⟨least, require_eq_ok.mp leastFound, largest, largestGiven, above,
    (Number.returns_div above.ne').ensures ratio (lift_eq_ok.mp divided)⟩

/-- Of the three stops only the first one can be above one, and it is if the band is more opaque
than the ratio allows. -/
theorem fading_of_stops {minZoom maxZoom : Number Rat} {least largest full : Rat}
    {curve : Expr Rat} (minGiven : config.minZoom = some minZoom)
    (maxGiven : config.maxZoom = some maxZoom) (rises : minZoom.exact < maxZoom.exact)
    (found : curve.stopPoints? = some [(minZoom.exact, full * (least / largest)),
      (maxZoom.exact, full), (maxZoom.exact + 1, 0)])
    (leastNotNegative : 0 ≤ least) (above : 0 < largest) (fullLegal : full ∈ Icc 0 1) :
    Fading config least largest full curve := by
  have startNotNegative : 0 ≤ full * (least / largest) :=
    mul_nonneg fullLegal.1 (div_nonneg leastNotNegative above.le)
  have startAtMostOne : full * (least / largest) ≤ 1 ↔ full * least ≤ largest := by
    rw [← mul_div_assoc, div_le_one₀ above]
  have atStops : LegalStops curve ↔ full * least ≤ largest := by
    rw [← startAtMostOne]
    constructor
    · rintro ⟨points, same, each⟩
      cases found.symm.trans same
      exact (each _ List.mem_cons_self).2
    · intro atMostOne
      refine ⟨_, found, ?_⟩
      simp only [List.forall_mem_cons]
      exact ⟨⟨startNotNegative, atMostOne⟩, fullLegal, ⟨le_rfl, zero_le_one⟩, by simp⟩
  have rising : Point.Rising [(minZoom.exact, full * (least / largest)), (maxZoom.exact, full),
      (maxZoom.exact + 1, 0)] := by
    have beyond : minZoom.exact < maxZoom.exact + 1 := by linarith
    simp [Point.Rising, rises, beyond]
  exact ⟨⟨minZoom, minGiven, maxZoom, maxGiven, found⟩, fullLegal, startNotNegative, atStops,
    (legalEverywhere_iff found rising (by simp)).trans atStops⟩

/-- The opacity of the band of a depth and its curve, for both ends of the range of opacities. -/
def FadesAtDepth (config : BathymetryConfig Rat) (depth : Nat) (curve : Expr Rat) : Prop :=
  ∃ band full least largest, (bands.zip opacityFactors)[bandNumber depth]? = some band ∧
    IsBandOpacity config band full ∧ config.opacity.atMin = some least ∧
    config.opacity.atMax = some largest ∧
    Fading config least.exact largest.exact full.exact curve ∧
    (least.exact ≤ largest.exact ∨ ownOpacity config band.1 = none →
      full.exact * least.exact ≤ largest.exact)

theorem fadesAtDepth_of_opacity {depth : Nat} {curve : Expr Rat} (legal : config.LegalOpacities)
    (zooms : ZoomsRise config.minZoom config.maxZoom) (visible : config.opacity.Visible)
    (found : opacity config depth = .ok curve) : FadesAtDepth config depth curve := by
  obtain ⟨ramp, full, minZoom, maxZoom, ratio, start, rampFound, fullFound, minGiven, maxGiven,
    ratioFound, startFound, curveFound⟩ := opacity_eq_ok found
  obtain ⟨band, isBand, isOpacity⟩ := isBandOpacity_of_opacityAt rampFound fullFound
  obtain ⟨least, leastGiven, largest, largestGiven, above, isRatio⟩ :=
    fadeRatio_eq_ok visible ratioFound
  have rises : minZoom.exact < maxZoom.exact := zooms minZoom minGiven maxZoom maxGiven
  have isStart : start.exact = full.exact * (least.exact / largest.exact) := by
    rw [← isRatio]
    exact Number.returns_mul.ensures start startFound
  have stops := Expr.stopPoints?_zoomFade rises curveFound
  rw [isStart] at stops
  have bandMember : band ∈ bands.zip opacityFactors := List.mem_of_getElem? isBand
  have fullLegal : full.IsOpacity := isOpacity_of_isBandOpacity legal bandMember isOpacity
  obtain ⟨leastNotNegative, leastAtMostOne⟩ := legal.atMin least leastGiven
  refine ⟨band, full, least, largest, isBand, isOpacity, leastGiven, largestGiven,
    fading_of_stops minGiven maxGiven rises stops leastNotNegative above fullLegal, ?_⟩
  rintro (ordered | noOwn)
  · exact (mul_le_of_le_one_left leastNotNegative fullLegal.2).trans ordered
  · exact (mul_le_of_le_one_right fullLegal.1 leastAtMostOne).trans
      (le_largest_of_no_own legal bandMember isOpacity noOwn largestGiven)

/-! ### Layers -/

/-- The curves of all bands start with the opacity of their depth times the ratio of the least and
the largest opacity, reach that opacity at the largest zoom, and end with nothing. All but the start
are opacities; the start is one, and with it the value at every zoom, exactly if the opacity of the
band times the least one is not above the largest one. That is so where the least one is not above
the largest one, and for bands without an opacity of their own. -/
theorem bands_fade {description : Description Rat} {config : BathymetryConfig Rat}
    {theme : Theme Rat} {layers : List (Layer Rat)}
    (accepted : BathymetryConfig.read description = .ok config)
    (given : theme.bathymetry = some config) (compiled : compile (steps theme) = .ok layers) :
    ∀ layer ∈ layers, ∃ area ∈ areas, layer.sourceLayer = some area.1 ∧
      ∃ curve, layer.paint.lookup "fill-opacity" = some curve ∧
        FadesAtDepth config area.2 curve := by
  obtain ⟨zooms, visible⟩ := Theme.ensures_bathymetry description config accepted
  have legal := BathymetryConfig.ensures_opacities description config accepted
  refine DrawStep.forall_mem_of_builds (allDraw_ofDomain fun other otherGiven _ => ?_) compiled
  cases given.symm.trans otherGiven
  refine allDraw_append.mpr ⟨by simp, allDraw_map.mpr fun area member => draws_draw.mpr ?_⟩
  intro layer built
  obtain ⟨curve, found, painted⟩ := (LayerPlan.lookup_of_build built).2
    (rfl : List.lookup "fill-opacity" _ = some (opacity config area.2))
  exact ⟨area, member, LayerPlan.sourceLayer_of_build built, curve, painted,
    fadesAtDepth_of_opacity legal zooms visible found⟩

/-- Bands at the standard zooms, with a range of opacities and maybe some of their own. -/
def ranged (least largest : Number Rat) (own : Option (List (String × Option (Number Rat)))) :
    BathymetryConfig Rat where
  enabled := true
  minZoom := some 0
  maxZoom := some 6
  opacity := .ofNumbers least largest
  colours := none
  depthOpacities := own

/-- The built-in light theme with bands of depth. -/
def themed (config : BathymetryConfig Rat) : Theme Rat :=
  { Preset.parchment with bathymetry := some config }

/-- If nothing is set, the values of all twelve curves are opacities at every zoom. -/
theorem standard_bands_fade :
    BathymetryConfig.read ⟨[]⟩ = .ok (ranged 0.7 0.9 none) ∧
      Returns (fun layers => layers.length = 12 ∧ ∀ layer ∈ layers, ∃ curve,
          layer.paint.lookup "fill-opacity" = some curve ∧ LegalEverywhere curve)
        (compile (steps (themed (ranged 0.7 0.9 none)))) := by
  have accepted : BathymetryConfig.read ⟨[]⟩ = .ok (ranged 0.7 0.9 none) := by
    with_unfolding_all rfl
  obtain ⟨layers, compiled⟩ := exists_of_isOk
    (show (compile (steps (themed (ranged 0.7 0.9 none)))).isOk = true by decide +kernel)
  have twelve : Ensures (fun layers => layers.length = 12)
      (compile (steps (themed (ranged 0.7 0.9 none)))) := by decide +kernel
  refine ⟨accepted, layers, compiled, twelve layers compiled, fun layer member => ?_⟩
  obtain ⟨_, _, _, curve, painted, _, _, _, _, _, _, _, _, fading, always⟩ :=
    bands_fade accepted rfl compiled layer member
  exact ⟨curve, painted, fading.everywhere.mpr (always (.inr rfl))⟩

/-- A range of opacities that ends with less than it starts with, and an opaque shallow band. -/
def falling : Description Rat :=
  ⟨[("opacity", .object [("min", .number 1), ("max", .number 0.5)]),
    ("depth_opacities", .object [("shallow", .number 1)])]⟩

def fallingConfig : BathymetryConfig Rat :=
  ranged 1 0.5 (some [("shallow", some 1)])

/-- The curve of the shallow band starts with twice the full opacity then. -/
theorem falling_beyond :
    BathymetryConfig.read falling = .ok fallingConfig ∧
      Returns (fun layers => ∃ layer ∈ layers, ∃ curve,
          layer.paint.lookup "fill-opacity" = some curve ∧ ¬LegalStops curve ∧
            curve.linearAt? 0 = some 2)
        (compile (steps (themed fallingConfig))) := by
  have accepted : BathymetryConfig.read falling = .ok fallingConfig := by
    with_unfolding_all rfl
  have built : (compile (steps (themed fallingConfig))).isOk = true := by decide +kernel
  have drawn : Ensures (fun layers => ∃ layer ∈ layers,
        (layer.paint.lookup "fill-opacity").bind Expr.stopPoints? = some [(0, 2), (6, 1), (7, 0)])
      (compile (steps (themed fallingConfig))) := by decide +kernel
  obtain ⟨layers, compiled⟩ := exists_of_isOk built
  obtain ⟨layer, member, stops⟩ := drawn layers compiled
  obtain ⟨curve, painted, found⟩ := Option.bind_eq_some_iff.mp stops
  refine ⟨accepted, layers, compiled, layer, member, curve, painted, ?_, ?_⟩
  · rintro ⟨points, same, each⟩
    cases found.symm.trans same
    exact absurd (each (0, 2) List.mem_cons_self).2 (by decide +kernel)
  · rw [Expr.linearAt?_of_stopPoints? found]
    rfl

/-! ### Ramps that fall -/

section Ramp

variable {F : Type} [Arithmetic F] {ramp : List (Number F)} {shallower deeper : Number F}

/-- No band of a ramp is more opaque than the one before it. -/
def Falls (ramp : List (Number F)) : Prop :=
  ramp.IsChain fun shallower deeper => deeper.le shallower = true

/-- Every depth has an opacity of the ramp. -/
theorem opacityAt_mem (each : ramp.length = bands.length) (depth : Number F) :
    ∃ opacity ∈ ramp, opacityAt depth ramp = some opacity :=
  ⟨_, List.get_mem _ _, opacityAt_eq_get each depth⟩

variable [OrderedArithmetic F]

theorem bandOf_mono (notBelow : shallower.le deeper = true) : bandOf shallower ≤ bandOf deeper :=
  List.findIdx_le_findIdx fun _ _ reached => Number.le_trans notBelow reached

/-- Opacities compare like their places in a ramp that falls, and each equals itself. -/
theorem Falls.le_of_le (falls : Falls ramp) (several : 1 < ramp.length) {first second : Nat}
    (ordered : first ≤ second) (inside : second < ramp.length) :
    ramp[second].le ramp[first] = true := by
  have transitive : IsTrans (Number F) fun shallower deeper => deeper.le shallower = true :=
    ⟨fun _ _ _ below further => Number.le_trans further below⟩
  have pairwise := List.isChain_iff_pairwise.mp falls
  rw [List.pairwise_iff_getElem] at pairwise
  obtain lt | rfl := Nat.lt_or_eq_of_le ordered
  · exact pairwise first second (by omega) inside lt
  · -- A number equals itself if it has a place, and what is compared with a neighbour has one.
    have placed : ∃ place, (ramp[first]).place? = some place := by
      cases first with
      | zero =>
          obtain ⟨_, place, _, isPlace, _⟩ :=
            Number.le_iff_places.mp (pairwise 0 1 inside several (by omega))
          exact ⟨place, isPlace⟩
      | succ before =>
          obtain ⟨place, _, isPlace, _, _⟩ :=
            Number.le_iff_places.mp (pairwise before (before + 1) (by omega) inside (by omega))
          exact ⟨place, isPlace⟩
    obtain ⟨place, isPlace⟩ := placed
    exact Number.le_iff_places.mpr ⟨place, place, isPlace, isPlace, le_rfl⟩

/-- Where it is deeper nothing is more opaque. -/
theorem opacityAt_falls (each : ramp.length = bands.length) (falls : Falls ramp)
    (notBelow : shallower.le deeper = true) :
    ∃ more less, opacityAt shallower ramp = some more ∧ opacityAt deeper ramp = some less ∧
      less.le more = true := by
  have several : 1 < ramp.length := by
    rw [each]
    decide
  exact ⟨_, _, opacityAt_eq_get each shallower, opacityAt_eq_get each deeper,
    falls.le_of_le several (bandOf_mono notBelow) (bandOf_lt each deeper)⟩

end Ramp

/-! ### Bands upon one another -/

section Bands

variable {F : Type} [Arithmetic F] {config : BathymetryConfig F} {ramp : List (Number F)}

/-- A layer reaches its full opacity at a largest zoom, and none one zoom later. -/
def ReachesFull (maxZoom full : Number F) (layer : Layer F) : Prop :=
  ∃ front, layer.paint.lookup "fill-opacity" = some (.op "interpolate"
    (front ++ [.number maxZoom, .number full, .number maxZoom.next, 0.0]))

/-- The layer of an area reaches the opacity of the area's depth. -/
def IsBand (config : BathymetryConfig F) (ramp : List (Number F)) (area : String × Nat)
    (layer : Layer F) : Prop :=
  layer.sourceLayer = some area.1 ∧ ∃ maxZoom ∈ config.maxZoom, ∃ full,
    opacityAt (.int area.2) ramp = some full ∧ ReachesFull maxZoom full layer

theorem isBand_of_build {water : Option String} {area : String × Nat} {layer : Layer F}
    (rampFound : opacities config = .ok ramp) (built : (plan config water area).build = .ok layer) :
    IsBand config ramp area layer := by
  obtain ⟨curve, found, painted⟩ := (LayerPlan.lookup_of_build built).2
    (rfl : List.lookup "fill-opacity" _ = some (opacity config area.2))
  obtain ⟨other, full, minZoom, maxZoom, ratio, start, otherFound, fullFound, _, maxGiven, _, _,
    curveFound⟩ := opacity_eq_ok found
  cases rampFound.symm.trans otherFound
  obtain ⟨front, rfl⟩ := Expr.exists_front_of_zoomFade curveFound
  exact ⟨LayerPlan.sourceLayer_of_build built, maxZoom, maxGiven, full, fullFound, front, painted⟩

theorem forall₂_isBand {theme : Theme F} {layers : List (Layer F)}
    (given : theme.bathymetry = some config) (enabled : config.enabled = true)
    (rampFound : opacities config = .ok ramp) (compiled : compile (steps theme) = .ok layers) :
    List.Forall₂ (IsBand config ramp) areas layers := by
  have built := DrawStep.built_of_compile compiled
  have drawn : DrawStep.plans (steps theme) = areas.map (plan config theme.colours.water.fill) := by
    rw [steps, DrawStep.ofDomain_of_enabled given enabled]
    rfl
  rw [drawn, List.forall₂_map_left_iff] at built
  exact built.imp fun _ _ => isBand_of_build rampFound

/-- A band lies upon deeper ones and is not less opaque than they are. -/
def LiesOnDeeper (config : BathymetryConfig F) (below above : Layer F) : Prop :=
  ∃ deeper ∈ areas, ∃ shallower ∈ areas, shallower.2 < deeper.2 ∧
    below.sourceLayer = some deeper.1 ∧ above.sourceLayer = some shallower.1 ∧
    ∃ maxZoom ∈ config.maxZoom, ∃ less more, ReachesFull maxZoom less below ∧
      ReachesFull maxZoom more above ∧ less.le more = true

/-- The areas are drawn from deep to shallow. -/
theorem areas_descend : areas.Pairwise fun deeper shallower =>
    deeper ∈ areas ∧ shallower ∈ areas ∧ shallower.2 < deeper.2 := by
  decide

/-- Bands that are switched off are not drawn; the others come one upon the other. -/
theorem bands_ordered [OrderedArithmetic F] {theme : Theme F} {layers : List (Layer F)}
    (given : theme.bathymetry = some config) (rampFound : opacities config = .ok ramp)
    (falls : Falls ramp) (compiled : compile (steps theme) = .ok layers) :
    layers.length = (if config.enabled then areas.length else 0) ∧
      layers.Pairwise (LiesOnDeeper config) := by
  cases enabled : config.enabled with
  | false =>
      have off : theme.bathymetry.any (·.enabled) = false := by simp [given, enabled]
      rw [steps, DrawStep.ofDomain_of_disabled off] at compiled
      cases compiled
      exact ⟨rfl, .nil⟩
  | true =>
      have each : ramp.length = bands.length := (mapM_eq_ok.mp rampFound).length_eq.symm
      have isBands := forall₂_isBand given enabled rampFound compiled
      refine ⟨isBands.length_eq.symm, pairwise_of_forall₂ isBands areas_descend ?_⟩
      rintro deeper shallower below above ⟨inAreas, shallowerInAreas, lower⟩
        ⟨belowSource, maxZoom, maxGiven, less, lessFound, reachesLess⟩
        ⟨aboveSource, other, otherGiven, more, moreFound, reachesMore⟩
      cases maxGiven.symm.trans otherGiven
      have notBelow : (Number.int shallower.2 : Number F).le (.int deeper.2) = true := by
        rw [Number.le_int, decide_eq_true_eq]
        exact_mod_cast lower.le
      obtain ⟨found, otherFound, isMore, isLess, ordered⟩ := opacityAt_falls each falls notBelow
      cases moreFound.symm.trans isMore
      cases lessFound.symm.trans isLess
      exact ⟨deeper, inAreas, shallower, shallowerInAreas, lower, belowSource, aboveSource,
        maxZoom, maxGiven, less, more, reachesLess, reachesMore, ordered⟩

end Bands

/-- The parts of one largest opacity are smaller and smaller. -/
theorem factors_fall : (bands.zip opacityFactors : List (String × Number Rat)).Pairwise
    fun shallower deeper => deeper.2.exact ≤ shallower.2.exact := by
  decide +kernel

theorem returns_falling {config : BathymetryConfig Rat} (visible : config.opacity.Visible)
    (noOwn : ∀ band ∈ bands, ownOpacity config band = none) :
    Returns Falls (opacities config) := by
  obtain ⟨largest, given, above⟩ := visible
  have parts : Returns (List.Forall₂ (fun (band : String × Number Rat) (opacity : Number Rat) =>
      opacity.exact = largest.exact * band.2.exact) (bands.zip opacityFactors))
      (opacities config) := by
    refine Returns.mapM fun band member => ?_
    have none : (config.depthOpacities.bind fun table => table.lookup band.1).bind id = none :=
      noOwn band.1 (List.of_mem_zip member).1
    simp only [none, given]
    exact returns_lift.mpr Number.returns_mul
  refine parts.mono fun ramp areParts => List.Pairwise.isChain ?_
  refine pairwise_of_forall₂ areParts factors_fall fun less isMore isLess => ?_
  rw [Number.le_eq_decide, decide_eq_true_eq, isMore, isLess]
  exact mul_le_mul_of_nonneg_left less above.le

/-- Of two depths the deeper one is not more opaque, on any ramp of seven opacities that falls. So
bands are drawn from deep to shallow, and each is at least as opaque as those that it lies upon.
Without opacities of their own the bands have a ramp that falls, and a theme that was read, with
settings of the declared types, has such layers. -/
theorem deeper_not_more_opaque {F : Type} [Arithmetic F] [OrderedArithmetic F] :
    (∀ ramp : List (Number F), ramp.length = 7 → Falls ramp →
      (∀ depth, ∃ opacity ∈ ramp, opacityAt depth ramp = some opacity) ∧
      ∀ shallower deeper : Number F, shallower.le deeper = true →
        ∃ more less, opacityAt shallower ramp = some more ∧ opacityAt deeper ramp = some less ∧
          less.le more = true) ∧
    (∀ (theme : Theme F) config ramp layers, theme.bathymetry = some config →
      opacities config = .ok ramp → Falls ramp → compile (steps theme) = .ok layers →
        layers.length = (if config.enabled then 12 else 0) ∧
          layers.Pairwise (LiesOnDeeper config)) ∧
    (∀ (description : Description Rat) config, BathymetryConfig.read description = .ok config →
      (∀ band ∈ bands, ownOpacity config band = none) → Returns Falls (opacities config)) ∧
    ∀ (value : Json Rat) theme, Theme.ofJson value = .ok theme → theme.WellTyped →
      Succeeds (compile (steps theme)) := by
  refine ⟨?ramp, ?drawn, ?standard, ?compiled⟩
  case ramp =>
    intro ramp each falls
    exact ⟨opacityAt_mem each, fun shallower deeper => opacityAt_falls each falls⟩
  case drawn =>
    intro theme config ramp layers given rampFound falls compiled
    exact bands_ordered given rampFound falls compiled
  case standard =>
    intro description config accepted noOwn
    exact returns_falling (Theme.ensures_bathymetry description config accepted).2 noOwn
  case compiled =>
    intro value theme built typed
    exact (succeeds_steps (Theme.checked_ofJson built) typed).compile

/-- A theme with bands of depth of which nothing else is set. -/
def plainDepths : Json Rat :=
  .object [
    ("name", .text "Depths"),
    ("colors", Preset.Parchment.colours.toJson),
    ("bathymetry", .object [])]

def withPlainDepths : Theme Rat :=
  { Theme.plain "Depths" Preset.Parchment.colours with
    bathymetry := some (ranged 0.7 0.9 none) }

theorem withPlainDepths_wellTyped : withPlainDepths.WellTyped :=
  { Theme.plain_wellTyped "Depths" rfl (by decide) with
    bathymetry := by
      simp only [withPlainDepths, Option.mem_some_iff, forall_eq']
      exact ⟨rfl, rfl, rfl, rfl⟩ }

/-- Its bands are ordered, and half a metre above the sea nothing is fainter than between two
depths. -/
theorem plainDepths_ordered :
    Theme.ofJson plainDepths = .ok withPlainDepths ∧
      Returns (fun ramp => Falls ramp ∧ ∃ more less,
          opacityAt (.real (-1 / 2)) ramp = some more ∧ opacityAt 200.5 ramp = some less ∧
            less.le more = true)
        (opacities (ranged 0.7 0.9 none)) ∧
      Returns (fun layers => layers.length = 12 ∧
          layers.Pairwise (LiesOnDeeper (ranged 0.7 0.9 none)))
        (compile (steps withPlainDepths)) := by
  have built : Theme.ofJson plainDepths = .ok withPlainDepths := by with_unfolding_all rfl
  have accepted : BathymetryConfig.read ⟨[]⟩ = .ok (ranged 0.7 0.9 none) := by
    with_unfolding_all rfl
  obtain ⟨compared, drawn, standard, succeeds⟩ := deeper_not_more_opaque (F := Rat)
  obtain ⟨ramp, rampFound, falls⟩ := standard ⟨[]⟩ _ accepted fun _ _ => rfl
  have seven : ramp.length = 7 := (mapM_eq_ok.mp rampFound).length_eq.symm
  obtain ⟨layers, compiled, _⟩ := succeeds plainDepths _ built withPlainDepths_wellTyped
  refine ⟨built, ⟨ramp, rampFound, falls, ?_⟩, layers, compiled, ?_⟩
  · exact (compared ramp seven falls).2 _ _ (by decide +kernel)
  · exact drawn withPlainDepths _ ramp layers rfl rampFound falls compiled

end Depth

end MapStyle
