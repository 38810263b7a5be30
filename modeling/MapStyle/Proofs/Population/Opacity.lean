import MapStyle.Layer.Population
import MapStyle.Presets
import MapStyle.Proofs.Expr.Straight
import MapStyle.Proofs.Expr.Total
import MapStyle.Proofs.Layer.Plan
import MapStyle.Proofs.Theme.Opacity

/-!
# How opaque populated places are

Areas of places are shown with their opacity, times one plus what their population adds to it, times
how far they have replaced the markers of places. Only the outermost curve of an expression may
depend on the zoom, so the product is taken apart: the first two factors are the upper stop of a
curve that rises from nothing.
-/

namespace MapStyle

set_option autoImplicit false

open DrawStep (AllDraw allDraw_cons allDraw_nil allDraw_ofDomain compile draws_draw)
open Set (Icc)

namespace Population

/-! ### The formula -/

/-- How far areas have replaced the markers of places: not at all up to zoom 5, completely from
zoom 6.5 on, and evenly in between. -/
def crossfade (zoom : Rat) : Rat :=
  max 0 (min 1 ((zoom - 5) / (3 / 2)))

/-- Parts that are added to the opacity, at numbers of people. -/
def boostPoints : List Point :=
  [(0, 0), (10000, 1 / 20), (50000, 1 / 10), (100000, 3 / 20), (500000, 1 / 5)]

/-- The part that a number of people adds to the opacity. Nothing is added where it is unknown. -/
def boost : Option Rat → Rat
  | none => 0
  | some people => (Point.along boostPoints people).getD 0

/-- The number of people that a page has given to a feature, if it has given one. -/
def IsPopulation (state : Feature Rat) : Option Rat → Prop
  | none => (state "pop_total").getD .null = .null
  | some people => ∃ number, state "pop_total" = some (.number number) ∧ number.exact = people

variable {zoom : Rat}

theorem crossfade_mem : crossfade zoom ∈ Icc 0 1 :=
  ⟨le_max_left 0 _, max_le zero_le_one (min_le_left 1 _)⟩

theorem crossfade_before (before : zoom ≤ 5) : crossfade zoom = 0 := by
  have notPositive : (zoom - 5) / (3 / 2) ≤ 0 :=
    div_nonpos_of_nonpos_of_nonneg (sub_nonpos.mpr before) (by norm_num)
  exact max_eq_left ((min_le_right 1 _).trans notPositive)

theorem crossfade_within (reached : 5 ≤ zoom) (notAfter : zoom ≤ 13 / 2) :
    crossfade zoom = (zoom - 5) / (3 / 2) := by
  have notNegative : 0 ≤ (zoom - 5) / (3 / 2) := div_nonneg (sub_nonneg.mpr reached) (by norm_num)
  have atMostOne : (zoom - 5) / (3 / 2) ≤ 1 := (div_le_one₀ (by norm_num)).mpr (by linarith)
  rw [crossfade, min_eq_right atMostOne, max_eq_right notNegative]

theorem crossfade_after (after : 13 / 2 ≤ zoom) : crossfade zoom = 1 := by
  have atLeastOne : 1 ≤ (zoom - 5) / (3 / 2) := (one_le_div₀ (by norm_num)).mpr (by linarith)
  rw [crossfade, min_eq_left atLeastOne, max_eq_right zero_le_one]

/-- A curve that rises from nothing is its upper stop times the crossfade. -/
theorem along_rise {full : Rat} :
    Point.along [(5, 0), (13 / 2, full)] zoom = some (full * crossfade zoom) := by
  have apart : (5 : Rat) < 13 / 2 := by norm_num
  obtain before | reached := le_total zoom 5
  · rw [Point.along_of_le_first before, crossfade_before before, mul_zero]
  obtain notAfter | after := le_total zoom (13 / 2)
  · rw [Point.along_first apart reached notAfter, crossfade_within reached notAfter, Point.between]
    norm_num
  · rw [Point.along_of_passed after apart, Point.along, crossfade_after after, mul_one]

/-- At every number of people there is a value on the line of the boosts. -/
theorem boost_known (people : Rat) :
    Point.along boostPoints people = some (boost (some people)) ∧
      boost (some people) ∈ Icc 0 (1 / 5) := by
  obtain ⟨value, found, within⟩ : ∃ value, Point.along boostPoints people = some value ∧
      value ∈ Icc 0 (1 / 5) :=
    Point.along_mem (by simp [boostPoints]) (by norm_num [boostPoints])
  rw [boost, found]
  exact ⟨rfl, within⟩

theorem boost_mem (people : Option Rat) : boost people ∈ Icc 0 (1 / 5) := by
  cases people with
  | none => exact ⟨le_rfl, by norm_num [boost]⟩
  | some people => exact (boost_known people).2

/-! ### What is shown -/

variable {renderer : Renderer Rat} {scene : Scene Rat}

theorem shows_boosts :
    List.Forall₂ (Expr.ShowsPoint renderer scene) (boosts : List (Expr Rat × Expr Rat))
      boostPoints := by
  have shows {key output : Number Rat} {point : Point} (atKey : key.exact = point.1)
      (isOutput : output.exact = point.2) :
      Expr.ShowsPoint renderer scene (.number key, .number output) point :=
    ⟨key, rfl, atKey, Expr.shownAs_number.mpr isOutput⟩
  refine .cons (shows ?_ ?_) (.cons (shows ?_ ?_) (.cons (shows ?_ ?_) (.cons (shows ?_ ?_)
    (.cons (shows ?_ ?_) .nil))))
  all_goals norm_num

/-- The line of the boosts where people are known, else nothing. -/
theorem shownAs_boost {byPeople : Expr Rat} {people : Option Rat}
    (found : Expr.linear (.featureState "pop_total") boosts = .ok byPeople)
    (isStraight : renderer.IsStraight) (populated : IsPopulation scene.state people) :
    (Expr.caseNode [(Expr.unequal (.featureState "pop_total") .null, byPeople)] 0).ShownAs renderer
      scene (boost people) := by
  cases people with
  | none =>
      refine ⟨0, ?_, rfl⟩
      rw [Expr.shown_ifKnown, populated]
      rfl
  | some people =>
      obtain ⟨number, known, rfl⟩ := populated
      obtain ⟨_, _, rfl⟩ := Expr.curve_eq_ok.mp found
      have input : (Expr.featureState "pop_total" : Expr Rat).shown renderer scene =
          some (.number number) := by
        rw [Expr.shown_featureState, known]
        rfl
      obtain ⟨added, shown, isAdded⟩ := Expr.shownAs_linear isStraight input shows_boosts
        (boost_known number.exact).1
      refine ⟨added, ?_, isAdded⟩
      rw [Expr.shown_ifKnown, known, if_neg]
      · exact shown
      · rw [Option.getD_some, Json.isSame_null (by simp)]
        exact Bool.false_ne_true

/-- The upper stop of the curve over the zoom: the opacity times one plus the boost. -/
def boosted (opacity : Number Rat) (byPeople : Expr Rat) : Expr Rat :=
  Expr.product [.number opacity,
    Expr.sum [1.0, Expr.caseNode [(Expr.unequal (.featureState "pop_total") .null, byPeople)] 0]]

theorem shownAs_boosted {byPeople : Expr Rat} {opacity : Number Rat} {people : Option Rat}
    (found : Expr.linear (.featureState "pop_total") boosts = .ok byPeople)
    (isStraight : renderer.IsStraight) (populated : IsPopulation scene.state people) :
    (boosted opacity byPeople).ShownAs renderer scene (opacity.exact * (1 + boost people)) := by
  have one : (1.0 : Number Rat).exact = 1 := by norm_num
  exact Expr.shownAs_product (Expr.shownAs_number.mpr rfl)
    (Expr.shownAs_sum (Expr.shownAs_number.mpr one) (shownAs_boost found isStraight populated)
      isStraight) isStraight

/-- What is shown for a curve that was found is the product of the three factors. -/
theorem shownAs_of_fillOpacity {opacity : Number Rat} {curve : Expr Rat} {people : Option Rat}
    (found : fillOpacity (.number opacity) = .ok curve)
    (isStraight : renderer.IsStraight) (populated : IsPopulation scene.state people) :
    curve.ShownAs renderer scene
      (opacity.exact * (1 + boost people) * crossfade scene.zoom.exact) := by
  obtain ⟨byPeople, byPeopleFound, isCurve⟩ := bind_eq_ok.mp found
  obtain ⟨_, _, rfl⟩ := Expr.curve_eq_ok.mp isCurve
  have lastZoom : (6.5 : Number Rat).exact = 13 / 2 := by norm_num
  have start : Expr.ShowsPoint renderer scene (fadeStart, 0) (5, 0) :=
    ⟨5, rfl, rfl, Expr.shownAs_number.mpr rfl⟩
  have finish : Expr.ShowsPoint renderer scene (fadeEnd, boosted opacity byPeople)
      (13 / 2, opacity.exact * (1 + boost people)) :=
    ⟨6.5, rfl, lastZoom, shownAs_boosted byPeopleFound isStraight populated⟩
  exact Expr.shownAs_linear isStraight Expr.shown_zoom (.cons start (.cons finish .nil)) along_rise

theorem succeeds_fillOpacity (opacity : Number Rat) : Succeeds (fillOpacity (.number opacity)) := by
  apply (Expr.succeeds_linear [0, 10000, 50000, 100000, 500000] rfl (by simp) ?_).bind
  · intro byPeople _
    exact Expr.succeeds_linear [5, 6.5] rfl (by simp) (by norm_num [Number.Ascend])
  · norm_num [Number.Ascend]

/-- Places are as opaque as the documented product says: at every zoom and for every number of
people, known or not. -/
theorem shownAs_fillOpacity (opacity : Number Rat) :
    Returns (fun curve => ∀ (renderer : Renderer Rat) (scene : Scene Rat) (people : Option Rat),
        renderer.IsStraight → IsPopulation scene.state people →
          curve.ShownAs renderer scene
            (opacity.exact * (1 + boost people) * crossfade scene.zoom.exact))
      (fillOpacity (.number opacity)) :=
  (succeeds_fillOpacity opacity).returns fun _ found _ _ _ => shownAs_of_fillOpacity found

/-- A place without properties, at a zoom and with a number of people. -/
def peopled (zoom people : Number Rat) : Scene Rat where
  zoom
  feature _ := none
  state name := if name = "pop_total" then some (.number people) else none

theorem isPopulation_peopled (zoom people : Number Rat) :
    IsPopulation (peopled zoom people).state (some people.exact) :=
  ⟨people, rfl, rfl⟩

/-- Half way through the crossfade, with people half way between two boosts. -/
theorem half_opaque_shown :
    Renderer.straight.IsStraight ∧ IsPopulation (peopled 5.75 30000).state (some 30000) ∧
      Returns (fun curve => curve.ShownAs Renderer.straight (peopled 5.75 30000) (43 / 160))
        (fillOpacity (.number 0.5)) := by
  have populated : IsPopulation (peopled 5.75 30000).state (some 30000) :=
    isPopulation_peopled 5.75 30000
  obtain ⟨curve, found, shows⟩ := shownAs_fillOpacity 0.5
  have shown := shows _ _ _ Renderer.isStraight_straight populated
  have value : (0.5 : Number Rat).exact * (1 + boost (some 30000)) *
      crossfade (peopled 5.75 30000).zoom.exact = 43 / 160 := by decide +kernel
  exact ⟨Renderer.isStraight_straight, populated, curve, found, value ▸ shown⟩

/-! ### Limits -/

variable {layer : Layer Rat} {opacity : Number Rat} {largest : Rat}

/-- The opacity of a layer is shown as a value. -/
def ShowsOpacity (renderer : Renderer Rat) (scene : Scene Rat) (layer : Layer Rat) (value : Rat) :
    Prop :=
  ∃ curve, layer.paint.lookup "fill-opacity" = some curve ∧ curve.ShownAs renderer scene value

/-- In every scene the opacity is shown as a value between zero and some largest one. -/
def StaysWithin (renderer : Renderer Rat) (layer : Layer Rat) (largest : Rat) : Prop :=
  ∀ scene people, IsPopulation scene.state people →
    ∃ value ∈ Icc 0 largest, ShowsOpacity renderer scene layer value

/-- The opacity of a layer follows the formula. -/
def FollowsFormula (renderer : Renderer Rat) (layer : Layer Rat) (opacity : Number Rat) : Prop :=
  ∀ scene people, IsPopulation scene.state people →
    ∀ value, ShowsOpacity renderer scene layer value ↔
      value = opacity.exact * (1 + boost people) * crossfade scene.zoom.exact

theorem followsFormula_of_lookup {curve : Expr Rat}
    (painted : layer.paint.lookup "fill-opacity" = some curve)
    (found : fillOpacity (.number opacity) = .ok curve) (isStraight : renderer.IsStraight) :
    FollowsFormula renderer layer opacity := by
  intro scene people populated value
  have shown := shownAs_of_fillOpacity found isStraight populated
  constructor
  · rintro ⟨other, otherPainted, otherShown⟩
    cases painted.symm.trans otherPainted
    exact otherShown.unique shown
  · rintro rfl
    exact ⟨curve, painted, shown⟩

theorem product_mem (legal : opacity.IsOpacity) (people : Option Rat) (zoom : Rat) :
    opacity.exact * (1 + boost people) * crossfade zoom ∈
      Icc 0 (opacity.exact * (1 + boost people)) := by
  have notNegative : 0 ≤ opacity.exact * (1 + boost people) :=
    mul_nonneg legal.1 (add_nonneg zero_le_one (boost_mem people).1)
  exact ⟨mul_nonneg notNegative crossfade_mem.1, mul_le_of_le_one_right notNegative crossfade_mem.2⟩

/-- The largest opacity is the one of crowded places that have replaced their markers. -/
theorem staysWithin_iff (follows : FollowsFormula renderer layer opacity)
    (legal : opacity.IsOpacity) :
    StaysWithin renderer layer largest ↔ opacity.exact * (6 / 5) ≤ largest := by
  constructor
  · intro within
    have crowded := isPopulation_peopled 7 500000
    obtain ⟨value, ⟨_, atMost⟩, shows⟩ := within _ _ crowded
    have full : 1 + boost (some (500000 : Number Rat).exact) = 6 / 5 := by decide +kernel
    have faded : crossfade (7 : Number Rat).exact = 1 := by decide +kernel
    calc opacity.exact * (6 / 5)
        = opacity.exact * (1 + boost _) * crossfade (7 : Number Rat).exact := by
          rw [full, faded, mul_one]
      _ = value := ((follows _ _ crowded value).mp shows).symm
      _ ≤ largest := atMost
  · intro atMost scene people populated
    obtain ⟨notNegative, belowFull⟩ := product_mem legal people scene.zoom.exact
    have full : opacity.exact * (1 + boost people) ≤ opacity.exact * (6 / 5) :=
      mul_le_mul_of_nonneg_left (by linarith [(boost_mem people).2]) legal.1
    exact ⟨_, ⟨notNegative, belowFull.trans (full.trans atMost)⟩,
      (follows scene people populated _).mpr rfl⟩

theorem followsFormula_of_compile {theme : Theme Rat} {config : PlacesConfig Rat}
    {layers : List (Layer Rat)} (places : theme.places = some config)
    (given : config.fill.opacity = some opacity) (compiled : compile (steps theme) = .ok layers)
    (isStraight : renderer.IsStraight) :
    ∀ layer ∈ layers, layer.id = "places-fill" → FollowsFormula renderer layer opacity := by
  refine DrawStep.forall_mem_of_builds (allDraw_ofDomain fun other otherGiven _ => ?_) compiled
  cases places.symm.trans otherGiven
  refine allDraw_cons.mpr ⟨draws_draw.mpr ?_, allDraw_cons.mpr ⟨draws_draw.mpr ?_, allDraw_nil⟩⟩
  · intro layer built _
    obtain ⟨curve, found, painted⟩ := (LayerPlan.lookup_of_build built).2
      (rfl : List.lookup "fill-opacity" _ = some (fillOpacity (Expr.ofNumber? config.fill.opacity)))
    rw [given] at found
    exact followsFormula_of_lookup painted found isStraight
  · intro layer built named
    rw [LayerPlan.id_of_build built] at named
    exact absurd named (by simp [outline])

/-- Where places are switched on, there is a layer of their areas. -/
theorem exists_areas {theme : Theme Rat} {config : PlacesConfig Rat} {layers : List (Layer Rat)}
    (places : theme.places = some config) (enabled : config.enabled = true)
    (compiled : compile (steps theme) = .ok layers) :
    ∃ layer ∈ layers, layer.id = "places-fill" := by
  have drawn : .draw (fill config (config.densityColours.getD standardColours)) ∈ steps theme := by
    rw [steps, DrawStep.ofDomain_of_enabled places enabled]
    exact List.mem_cons_self
  obtain ⟨layer, member, built⟩ := DrawStep.exists_layer_of_compile compiled drawn
  exact ⟨layer, member, LayerPlan.id_of_build built⟩

/-- Places are never more than a fifth above full opacity, and never above it where no population is
known. They are at most fully opaque at all zooms and with any population exactly if the opacity
that a theme sets is at most five sixths. -/
theorem opacity_limits {description : Description Rat} {config : PlacesConfig Rat}
    {theme : Theme Rat} {layers : List (Layer Rat)}
    (accepted : PlacesConfig.read description = .ok config)
    (given : config.fill.opacity = some opacity) (places : theme.places = some config)
    (compiled : compile (steps theme) = .ok layers) (isStraight : renderer.IsStraight) :
    ∀ layer ∈ layers, layer.id = "places-fill" →
      StaysWithin renderer layer (6 / 5) ∧
      (∀ scene value, IsPopulation scene.state none →
        ShowsOpacity renderer scene layer value → value ≤ 1) ∧
      (StaysWithin renderer layer 1 ↔ opacity.exact ≤ 5 / 6) := by
  intro layer member named
  have legal : opacity.IsOpacity :=
    PlacesConfig.ensures_opacity description config accepted opacity given
  have follows := followsFormula_of_compile places given compiled isStraight layer member named
  refine ⟨(staysWithin_iff follows legal).mpr (by linarith [legal.2]), ?_, ?_⟩
  · intro scene value unknown shows
    rw [(follows scene none unknown value).mp shows, boost, add_zero, mul_one]
    exact mul_le_one₀ legal.2 crossfade_mem.1 crossfade_mem.2
  · rw [staysWithin_iff follows legal]
    constructor <;> intro atMost <;> linarith

/-- What a theme author writes for places of some opacity, and what is read. -/
def description (opacity : Number Rat) : Description Rat :=
  ⟨[("fill", .object [("opacity", .number opacity)])]⟩

def configured (opacity : Number Rat) : PlacesConfig Rat :=
  { (PlacesConfig.standard : PlacesConfig Rat) with
    fill := { (PlacesFill.standard : PlacesFill Rat) with opacity := some opacity } }

/-- The built-in light theme with places of some opacity. -/
def themed (opacity : Number Rat) : Theme Rat :=
  { Preset.parchment with places := some (configured opacity) }

/-- Half-opaque places stay within full opacity. -/
theorem half_opaque_within :
    PlacesConfig.read (description 0.5) = .ok (configured 0.5) ∧ Renderer.straight.IsStraight ∧
      Returns (fun layers => ∃ layer ∈ layers, layer.id = "places-fill" ∧
        StaysWithin Renderer.straight layer 1) (compile (steps (themed 0.5))) := by
  have accepted : PlacesConfig.read (description 0.5) = .ok (configured 0.5) := by
    with_unfolding_all rfl
  obtain ⟨layers, compiled⟩ := exists_of_isOk
    (show (compile (steps (themed 0.5))).isOk = true by decide +kernel)
  obtain ⟨layer, member, named⟩ := exists_areas rfl rfl compiled
  obtain ⟨_, _, within⟩ :=
    opacity_limits accepted rfl rfl compiled Renderer.isStraight_straight layer member named
  exact ⟨accepted, Renderer.isStraight_straight, layers, compiled, layer, member, named,
    within.mpr (by decide +kernel)⟩

/-- Opaque places are shown with an opacity above one at zoom 7 if half a million people live
there. -/
theorem opaque_beyond :
    PlacesConfig.read (description 1) = .ok (configured 1) ∧ Renderer.straight.IsStraight ∧
      Returns (fun layers => ∃ layer ∈ layers, layer.id = "places-fill" ∧
        ShowsOpacity Renderer.straight (peopled 7 500000) layer (6 / 5) ∧
          ¬StaysWithin Renderer.straight layer 1)
        (compile (steps (themed 1))) := by
  have accepted : PlacesConfig.read (description 1) = .ok (configured 1) := by
    with_unfolding_all rfl
  obtain ⟨layers, compiled⟩ := exists_of_isOk
    (show (compile (steps (themed 1))).isOk = true by decide +kernel)
  obtain ⟨layer, member, named⟩ := exists_areas rfl rfl compiled
  have follows : FollowsFormula Renderer.straight layer 1 :=
    followsFormula_of_compile rfl rfl compiled Renderer.isStraight_straight layer member named
  have shown := (follows _ _ (isPopulation_peopled 7 500000) (6 / 5)).mpr (by decide +kernel)
  have legal : (1 : Number Rat).IsOpacity := by decide +kernel
  have beyond : ¬StaysWithin Renderer.straight layer 1 := by
    rw [staysWithin_iff follows legal]
    decide +kernel
  exact ⟨accepted, Renderer.isStraight_straight, layers, compiled, layer, member, named, shown,
    beyond⟩

end Population

end MapStyle
