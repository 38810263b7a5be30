import MapStyle.Layer.Height
import MapStyle.Layer.RoadLabel
import MapStyle.Proofs.Layer.Complete
import MapStyle.Proofs.Theme.WellTyped

/-!
# Contour lines and shields that are refused

Contour lines and the texts of highway shields are drawn between two zooms that a theme sets and
that no reader has compared. In the wrong order they are refused as invalid; otherwise over exact
arithmetic both can be drawn.
-/

namespace MapStyle

set_option autoImplicit false

open DrawStep (AllSucceed allSucceed_nil allSucceed_cons allSucceed_append forall_mem_ofDomain
  succeeds_draw succeeds_need)
open Number (Ascend)

/-- The contour lines of one kind start at their largest zoom or after it. They start at a zoom of
their own, else at that of all contour lines, else at 6 or at 8. -/
def ContoursConfig.Inverted (config : ContoursConfig Rat) : Prop :=
  ∃ maxZoom, config.maxZoom = some maxZoom ∧
    (maxZoom.exact ≤ ((config.major.minZoom.or config.minZoom).getD 6).exact ∨
      maxZoom.exact ≤ ((config.minor.minZoom.or config.minZoom).getD 8).exact)

/-- The zoom of the first text size is that of the second one or lies after it. -/
def ShieldStyle.Inverted (style : ShieldStyle Rat) : Prop :=
  ∃ minZoom minSize maxZoom maxSize,
    style.textSize = some [minZoom, minSize, maxZoom, maxSize] ∧ maxZoom.exact ≤ minZoom.exact

/-- The two ways in which a theme may set zooms in the wrong order without being refused for it
when it is read. -/
inductive Theme.ZoomMistake (theme : Theme Rat) : Prop where
  | contours {config : ContoursConfig Rat} (given : theme.contours = some config)
      (enabled : config.enabled = true) (inverted : config.Inverted) : ZoomMistake theme
  | shields {config : ShieldsConfig Rat} {kind : ShieldKind} (given : theme.shields = some config)
      (enabled : config.enabled = true) (kindEnabled : (config.style kind).enabled = true)
      (inverted : (config.style kind).Inverted) : ZoomMistake theme

/-- A fault that is told as a mistake in what was asked for. -/
def Fault.Invalid {F : Type} (fault : Fault F) : Prop :=
  fault.nature = .invalid

variable {theme : Theme Rat}

/-! ### Contour lines -/

namespace Contour

namespace Span

variable {span : Span Rat}

/-- The zooms of the stops of a curve: the least zoom, the boosts, and those that end it. -/
def stopZooms (span : Span Rat) (ending : List (Number Rat)) : List (Number Rat) :=
  span.minZoom :: (span.innerBoosts.map Boost.zoom ++ ending)

/-- Stops of a span that are found at every boost are found at its zooms. -/
theorem returns_around {step : Boost Rat → Result Rat (Expr Rat × Expr Rat)}
    {first : Expr Rat × Expr Rat} {ending : List (Expr Rat × Expr Rat)}
    {zooms : List (Number Rat)}
    (each : ∀ boost, Returns (fun stop => stop.1 = .number boost.zoom) (step boost))
    (atLeast : first.1 = .number span.minZoom)
    (atEnd : ending.map Prod.fst = zooms.map Expr.number) :
    Returns (fun stops => stops.map Prod.fst = (span.stopZooms zooms).map Expr.number) (do
      let inner ← span.innerBoosts.mapM step
      return first :: (inner ++ ending)) := by
  refine (Returns.mapM_map (fun boost => Expr.number boost.zoom) Prod.fst
    fun boost _ => each boost).bind ?_
  intro inner keys
  apply Returns.pure_iff.mpr
  simp [stopZooms, keys, atLeast, atEnd]

theorem returns_widthStops (typed : span.style.WellTyped) :
    Returns (fun stops => stops.map Prod.fst = (span.stopZooms [span.maxZoom]).map Expr.number)
      span.widthStops := by
  obtain ⟨full, given⟩ := Option.isSome_iff_exists.mp typed.width.atMax
  refine returns_around ?_ rfl rfl
  intro boost
  rw [given]
  exact (returns_lift.mpr Number.returns_mul).bind fun _ _ => Returns.pure_iff.mpr rfl

theorem returns_opacityStops (typed : span.style.WellTyped) :
    Returns (fun stops => stops.map Prod.fst =
      (span.stopZooms [span.maxZoom, span.maxZoom.next]).map Expr.number) span.opacityStops := by
  obtain ⟨base, given⟩ := Option.isSome_iff_exists.mp typed.opacity
  refine returns_around ?_ rfl rfl
  intro boost
  rw [given]
  exact (returns_lift.mpr Number.returns_mul).bind fun _ _ => Returns.pure_iff.mpr rfl

/-- Boosts lie strictly between the zooms, so the stops ascend if the boosts and the ending do. -/
theorem ascend_stopZooms {ending : List (Number Rat)}
    (rising : span.minZoom.exact < span.maxZoom.exact)
    (boostsAscend : Ascend (span.boosts.map Boost.zoom)) (endingAscends : Ascend ending)
    (endingLate : ∀ zoom ∈ ending, span.maxZoom.exact ≤ zoom.exact) :
    Ascend (span.stopZooms ending) := by
  have between : ∀ zoom ∈ span.innerBoosts.map Boost.zoom,
      span.minZoom.exact < zoom.exact ∧ zoom.exact < span.maxZoom.exact := by
    refine List.forall_mem_map.mpr fun boost member => ?_
    simpa using (List.mem_filter.mp member).2
  have innerAscends : Ascend (span.innerBoosts.map Boost.zoom) :=
    boostsAscend.sublist (List.filter_sublist.map Boost.zoom)
  refine List.pairwise_cons.mpr ⟨?_, List.pairwise_append.mpr ⟨innerAscends, endingAscends, ?_⟩⟩
  · refine List.forall_mem_append.mpr ⟨fun zoom member => (between zoom member).1, ?_⟩
    exact fun zoom member => rising.trans_le (endingLate zoom member)
  · intro zoom member later laterMember
    exact (between zoom member).2.trans_le (endingLate later laterMember)

theorem check_eq_ok_iff {result : Unit} :
    span.check = .ok result ↔ span.minZoom.exact < span.maxZoom.exact := by
  unfold check
  simp only [Number.le_eq_decide, decide_eq_true_eq]
  split
  · rename_i reached
    simp [reached]
  · rename_i notOver
    simp [not_le.mp notOver]

/-- What holds of a curve through stops that are known to exist at some zooms. -/
theorem faults_curve {stops : Result Rat (List (Expr Rat × Expr Rat))} {zooms : List (Number Rat)}
    (known : Returns (fun found => found.map Prod.fst = zooms.map Expr.number) stops) :
    Faults Fault.Invalid (do Expr.linear Expr.zoom (← stops)) := by
  obtain ⟨found, rfl, keys⟩ := known
  apply Expr.faults_linear
  intro stop member
  have inKeys : stop.1 ∈ zooms.map Expr.number := keys ▸ List.mem_map_of_mem member
  obtain ⟨zoom, _, same⟩ := List.mem_map.mp inKeys
  exact ⟨zoom, same.symm⟩

theorem faults_steps (typed : span.style.WellTyped) (idGiven : span.id.isEmpty = false) :
    ∀ step ∈ span.steps, Faults Fault.Invalid step.outcome := by
  simp only [steps, List.forall_mem_cons]
  refine ⟨?_, ?_, ?_, ?_, by simp⟩
  · unfold check
    show Faults Fault.Invalid (if _ then _ else _)
    split
    · exact Faults.error_iff.mpr rfl
    · exact Faults.ok
  · exact (succeeds_need (returns_widthStops typed).succeeds).faults
  · exact (succeeds_need (returns_opacityStops typed).succeeds).faults
  · refine (LayerPlan.faults_build idGiven (by simp [plan]) (by simp [plan]) ?_).map
    simp only [plan, List.forall_mem_cons]
    exact ⟨Faults.ok, faults_curve (returns_widthStops typed),
      faults_curve (returns_opacityStops typed), by simp⟩

theorem succeeds_steps (typed : span.style.WellTyped) (idGiven : span.id.isEmpty = false)
    (boostsAscend : Ascend (span.boosts.map Boost.zoom))
    (rising : span.minZoom.exact < span.maxZoom.exact) : AllSucceed span.steps := by
  have later : span.maxZoom.exact < span.maxZoom.next.exact := by
    rw [Number.exact_next]
    linarith
  have width : Succeeds (do Expr.linear Expr.zoom (← span.widthStops)) := by
    apply (returns_widthStops typed).bind
    intro stops keys
    apply Expr.succeeds_linear _ keys (by simp [stopZooms])
    exact ascend_stopZooms rising boostsAscend (by simp [Ascend]) (by simp)
  have opacity : Succeeds (do Expr.linear Expr.zoom (← span.opacityStops)) := by
    apply (returns_opacityStops typed).bind
    intro stops keys
    apply Expr.succeeds_linear _ keys (by simp [stopZooms])
    exact ascend_stopZooms rising boostsAscend (by simp [Ascend, later]) (by simp [later.le])
  simp only [steps, allSucceed_cons, allSucceed_nil, and_true]
  refine ⟨?_, succeeds_need (returns_widthStops typed).succeeds,
    succeeds_need (returns_opacityStops typed).succeeds, succeeds_draw ?_⟩
  · exact succeeds_iff.mpr ⟨(), check_eq_ok_iff.mpr rising⟩
  · exact ⟨idGiven, by simp [plan], by simp [plan], by simp [plan, width, opacity]⟩

end Span

theorem ascend_majorBoosts : Ascend ((majorBoosts : List (Boost Rat)).map Boost.zoom) := by
  norm_num [Ascend, majorBoosts]

theorem ascend_minorBoosts : Ascend ((minorBoosts : List (Boost Rat)).map Boost.zoom) := by
  norm_num [Ascend, minorBoosts]

variable {config : ContoursConfig Rat}

theorem faults_draw (typed : config.WellTyped) :
    ∀ step ∈ draw config, Faults Fault.Invalid step.outcome := by
  obtain ⟨maxZoom, given⟩ := Option.isSome_iff_exists.mp typed.maxZoom
  simp only [draw, given, List.forall_mem_append]
  exact ⟨Span.faults_steps typed.major (by simp [major]),
    Span.faults_steps typed.minor (by simp [minor])⟩

theorem succeeds_draw_iff (typed : config.WellTyped) :
    AllSucceed (draw config) ↔ ¬ config.Inverted := by
  obtain ⟨maxZoom, given⟩ := Option.isSome_iff_exists.mp typed.maxZoom
  simp only [draw, given, allSucceed_append]
  constructor
  · rintro ⟨majorSucceeds, minorSucceeds⟩ ⟨found, foundGiven, inverted⟩
    obtain rfl : maxZoom = found := Option.some.inj (given.symm.trans foundGiven)
    obtain ⟨_, majorChecked⟩ :=
      succeeds_iff.mp (majorSucceeds (.check (major config maxZoom).check) List.mem_cons_self)
    obtain ⟨_, minorChecked⟩ :=
      succeeds_iff.mp (minorSucceeds (.check (minor config maxZoom).check) List.mem_cons_self)
    obtain majorInverted | minorInverted := inverted
    · exact absurd (Span.check_eq_ok_iff.mp majorChecked) (not_lt.mpr majorInverted)
    · exact absurd (Span.check_eq_ok_iff.mp minorChecked) (not_lt.mpr minorInverted)
  · intro ordered
    constructor
    · apply Span.succeeds_steps typed.major (by simp [major]) ascend_majorBoosts
      exact not_le.mp fun inverted => ordered ⟨maxZoom, given, .inl inverted⟩
    · apply Span.succeeds_steps typed.minor (by simp [minor]) ascend_minorBoosts
      exact not_le.mp fun inverted => ordered ⟨maxZoom, given, .inr inverted⟩

/-- Contour lines end a style only for the order of their zooms. -/
theorem faults_steps (typed : theme.WellTyped) : ∀ step ∈ steps theme,
    Faults (fun fault => theme.ZoomMistake ∧ fault.Invalid) step.outcome := by
  apply forall_mem_ofDomain
  intro config given enabled step member
  have configTyped := typed.contours config given
  by_cases inverted : config.Inverted
  · refine (faults_draw configTyped step member).mono fun fault invalid => ?_
    exact ⟨.contours given enabled inverted, invalid⟩
  · exact ((succeeds_draw_iff configTyped).mpr inverted step member).faults

end Contour

/-! ### Highway shields -/

namespace Shield

variable {config : ShieldsConfig Rat} {kind : ShieldKind} {style : ShieldStyle Rat}

theorem textSize_eq_ok (typed : style.WellTyped) :
    ∃ size, textSize style = .ok size ∧
      (style.Inverted ↔ size.maxZoom.exact ≤ size.minZoom.exact) := by
  unfold textSize ShieldStyle.Inverted
  cases given : style.textSize with
  | none =>
      have rising :
          (standardTextSize (F := Rat)).minZoom.exact < standardTextSize.maxZoom.exact := by
        norm_num [standardTextSize]
      refine ⟨standardTextSize, rfl, ?_, fun reached => absurd rising (not_lt.mpr reached)⟩
      rintro ⟨_, _, _, _, impossible, _⟩
      cases impossible
  | some entries =>
      match entries, typed.textSize entries given with
      | [minZoom, minSize, maxZoom, maxSize], _ =>
          exact ⟨⟨minZoom, minSize, maxZoom, maxSize⟩, rfl, by simp⟩

theorem succeeds_curve_iff {size : TextSize Rat} :
    Succeeds size.curve ↔ ¬ size.maxZoom.exact ≤ size.minZoom.exact := by
  rw [not_le]
  constructor
  · intro succeeds
    obtain ⟨_, found⟩ := succeeds_iff.mp succeeds
    unfold TextSize.curve Expr.linear at found
    obtain ⟨_, ascending, _⟩ := Expr.curve_eq_ok.mp found
    simpa [Expr.Ascending, Expr.precedes?_numbers] using ascending
  · intro rising
    exact Expr.succeeds_linear [size.minZoom, size.maxZoom] rfl (by simp) (by simp [Ascend, rising])

theorem minZoom_eq_ok (typed : config.WellTyped) (kind : ShieldKind) :
    ∃ least, minZoom config (config.style kind) = .ok least := by
  obtain ⟨own, ownGiven⟩ := Option.isSome_iff_exists.mp (typed.style kind).minZoom
  obtain ⟨shared, sharedGiven⟩ := Option.isSome_iff_exists.mp typed.minZoom
  unfold minZoom
  rw [ownGiven, sharedGiven]
  exact ⟨_, rfl⟩

theorem succeeds_iconSize :
    Succeeds (Expr.linear Expr.zoom [(6, 0.8), (10, 1.0), (14, 1.2)] : Result Rat (Expr Rat)) :=
  Expr.succeeds_linear [6, 10, 14] rfl (by simp) (by norm_num [Ascend])

variable {size : TextSize Rat} {least : Number Rat}

theorem layerId_ne_empty : (layerId kind).isEmpty = false := by
  cases kind <;> simp [layerId]

theorem complete_plan (rising : ¬ size.maxZoom.exact ≤ size.minZoom.exact) :
    (plan theme kind style size least).Complete := by
  refine ⟨layerId_ne_empty, by simp [plan], ?_, by simp [plan]⟩
  simp [plan, succeeds_iconSize, succeeds_curve_iff.mpr rising]

theorem faults_plan : Faults Fault.Invalid (plan theme kind style size least).build := by
  have curve : Faults Fault.Invalid size.curve := Expr.faults_linear (by simp)
  refine LayerPlan.faults_build layerId_ne_empty (by simp [plan]) ?_ ?_
  · simp [plan, Property.fixed, Property.computed, succeeds_iconSize.faults, curve]
  · simp [plan, Property.fixed]

theorem faults_kindSteps (typed : config.WellTyped) :
    ∀ step ∈ kindSteps theme config kind, Faults Fault.Invalid step.outcome := by
  obtain ⟨size, sizeFound, _⟩ := textSize_eq_ok (typed.style kind)
  obtain ⟨least, leastFound⟩ := minZoom_eq_ok typed kind
  unfold kindSteps
  simp only [sizeFound, leastFound]
  split
  · simp
  · exact List.forall_mem_singleton.mpr (faults_plan.map)

theorem succeeds_kindSteps_iff (typed : config.WellTyped) :
    AllSucceed (kindSteps theme config kind) ↔
      ¬ ((config.style kind).enabled = true ∧ (config.style kind).Inverted) := by
  obtain ⟨size, sizeFound, inverted⟩ := textSize_eq_ok (typed.style kind)
  obtain ⟨least, leastFound⟩ := minZoom_eq_ok typed kind
  unfold kindSteps
  simp only [sizeFound, leastFound]
  cases enabled : (config.style kind).enabled with
  | false => simp
  | true =>
      simp only [Bool.not_true, Bool.false_eq_true, if_false, allSucceed_cons, allSucceed_nil,
        and_true, true_and]
      rw [inverted]
      constructor
      · intro succeeds
        obtain ⟨_, found⟩ := succeeds_iff.mp succeeds
        obtain ⟨layer, built, _⟩ := map_eq_ok.mp found
        have values := LayerPlan.hasValue_of_build built
        have curve : Succeeds size.curve :=
          values (Property.computed "text-size" size.curve) (by simp [plan])
        exact succeeds_curve_iff.mp curve
      · intro rising
        exact succeeds_draw (complete_plan rising)

/-- Shields end a style only for the order of the zooms of a text size. -/
theorem faults_steps (typed : theme.WellTyped) : ∀ step ∈ steps theme,
    Faults (fun fault => theme.ZoomMistake ∧ fault.Invalid) step.outcome := by
  apply forall_mem_ofDomain
  intro config given enabled step member
  have configTyped := typed.shields config given
  obtain ⟨kind, _, inKind⟩ := List.mem_flatMap.mp member
  by_cases inverted : (config.style kind).enabled = true ∧ (config.style kind).Inverted
  · refine (faults_kindSteps configTyped step inKind).mono fun fault invalid => ?_
    exact ⟨.shields given enabled inverted.1 inverted.2, invalid⟩
  · exact ((succeeds_kindSteps_iff configTyped).mpr inverted step inKind).faults

end Shield

end MapStyle
