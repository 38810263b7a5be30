import MapStyle.Presets
import MapStyle.Proofs.Expr.Mixed
import MapStyle.Proofs.Width.Doubling

/-!
# Casings and roads

The casing of a road is drawn under it, with a width of its own that comes from another table. Both
widths of a theme change with the zoom in one mode: their curves have one shape and the same stops,
and from a start on both are scaled by the same power of two. So a casing that is nowhere narrower
than its road at these stops is not narrower at any zoom.
-/

namespace MapStyle

set_option autoImplicit false

variable {F : Type} [Arithmetic F]

/-- How widths change with the zoom: linear between fixed zooms, or doubling from a start on. -/
inductive WidthMode (F : Type) where
  | linear
  | doubling (start : Number F)

namespace WidthMode

def shape : WidthMode F → Expr F
  | .linear => .op "linear" []
  | .doubling _ => .op "exponential" [2]

/-- The zooms of the stops at which every class has the width of its own stops. -/
def zooms : WidthMode F → List (Number F)
  | .linear => RoadWidths.curveZooms
  | .doubling start => RoadWidths.scaleZooms start

/-- The zooms of all stops. Widths that double have another one at the last zoom. -/
def keys : WidthMode F → List (Number F)
  | .linear => RoadWidths.curveZooms
  | .doubling start => RoadWidths.scaleZooms start ++ [.int lastScaleZoom]

end WidthMode

namespace ThemeSettings

variable {settings : ThemeSettings F} {start : Number F}

/-- The mode that settings want. There is none if widths are to double from no zoom below the last
one. -/
def widthMode? (settings : ThemeSettings F) : Option (WidthMode F) :=
  if settings.realWorldScale then
    (settings.realWorldScaleMinZoom.filter fun start => start.lt (.int lastScaleZoom)).map .doubling
  else some .linear

theorem lt_of_widthMode? (isMode : settings.widthMode? = some (.doubling start)) :
    start.lt (.int lastScaleZoom) = true := by
  unfold widthMode? at isMode
  split at isMode
  · obtain ⟨own, isOwn, same⟩ := Option.map_eq_some_iff.mp isMode
    cases same
    exact (Option.filter_eq_some_iff.mp isOwn).2
  · cases isMode

end ThemeSettings

namespace RoadWidths

open MapStyle.Expr (Gives ShownNotAbove)

variable {widths road casing : RoadWidths F} {start : Number F} {settings : ThemeSettings F}
  {mode : WidthMode F} {featureClass : String}

/-! ### Curves of one mode -/

def curveIn (widths : RoadWidths F) : WidthMode F → Result F (Expr F)
  | .linear => widths.linearWidth
  | .doubling start => widths.realWorldWidth start

/-- A curve of a mode, with the width of every class at its stops. -/
def ShowsIn (widths : RoadWidths F) : WidthMode F → Expr F → Prop
  | .linear => widths.ShowsLinear
  | .doubling start => widths.ShowsScaled start

theorem ensures_curveIn [RoundedArithmetic F] (isMode : settings.widthMode? = some mode) :
    Ensures (widths.ShowsIn mode) (widths.curveIn mode) := by
  cases mode with
  | linear => exact showsLinear_linearWidth
  | doubling start => exact showsScaled_realWorldWidth (ThemeSettings.lt_of_widthMode? isMode)

variable [ExactArithmetic F]

/-- Widths that are to double from the last zoom on, or from a later one, are refused. -/
theorem realWorldWidth_of_not_lt (notBelow : start.lt (.int lastScaleZoom) = false) :
    widths.realWorldWidth start = Result.ofExpr (.scaleStart start) := by
  have beyond : (Number.int lastScaleZoom : Number F).le start = true := by
    by_contra notBeyond
    rw [Number.lt_int_of_not_le (Bool.eq_false_of_not_eq_true notBeyond)] at notBelow
    cases notBelow
  unfold realWorldWidth
  dsimp only
  rw [beyond]
  rfl

/-- The width curve of settings is that of their mode, and without a mode there is none. -/
theorem widthFor_eq_ok {result : Expr F} : widths.widthFor settings = .ok result ↔
    ∃ mode, settings.widthMode? = some mode ∧ widths.curveIn mode = .ok result := by
  unfold widthFor ThemeSettings.widthMode?
  cases settings.realWorldScale with
  | false => simp [curveIn]
  | true =>
      cases settings.realWorldScaleMinZoom with
      | none => simp [Result.require, Result.ofTheme, bind, Except.bind]
      | some start =>
          show widths.realWorldWidth start = .ok result ↔ _
          cases below : start.lt (.int lastScaleZoom) with
          | false => simp [below, realWorldWidth_of_not_lt below, Result.ofExpr]
          | true => simp [below, curveIn]

/-! ### Widths at the last zoom -/

/-- Up to the last zoom all widths grow by one positive number. -/
theorem returns_growthFrom_pos : Returns (fun growth => 0 < growth.value) (growthFrom start) :=
  Number.succeeds_sub.bind fun _ _ => Number.returns_twoPow_pos

theorem width_of_widthAtLast {final growth : Number F} (grown : growthFrom start = .ok growth)
    (found : widths.widthAtLast start featureClass = .ok final) :
    ∃ width, widths.resolvedWidth start featureClass = .ok width ∧
      final.value = width.value * growth.value := by
  rw [widthAtLast_eq grown] at found
  obtain ⟨width, widthFound, multiplied⟩ := bind_eq_ok.mp found
  exact ⟨width, widthFound, Number.returns_value_mul.ensures final multiplied⟩

theorem succeeds_widthAtLast (succeeds : Succeeds (widths.resolvedWidth start featureClass)) :
    Succeeds (widths.widthAtLast start featureClass) := by
  obtain ⟨growth, grown, _⟩ := @returns_growthFrom_pos _ _ start _
  rw [widthAtLast_eq grown]
  exact succeeds.bind fun _ _ => Number.returns_value_mul.succeeds

/-- There is a width curve exactly if every class has a width at the stops. -/
theorem succeeds_widthFor_iff [RoundedArithmetic F] : Succeeds (widths.widthFor settings) ↔
    ∃ mode, settings.widthMode? = some mode ∧ ∀ zoom ∈ mode.zooms, widths.ResolvedAt zoom := by
  have inMode (mode : WidthMode F) (isMode : settings.widthMode? = some mode) :
      Succeeds (widths.curveIn mode) ↔ ∀ zoom ∈ mode.zooms, widths.ResolvedAt zoom := by
    cases mode with
    | linear => exact succeeds_linearWidth_iff
    | doubling start =>
        rw [curveIn, succeeds_realWorldWidth_iff (ThemeSettings.lt_of_widthMode? isMode)]
        refine and_iff_left_of_imp fun resolved featureClass => ?_
        exact succeeds_widthAtLast (resolved start start_mem_scaleZooms featureClass)
  constructor
  · intro succeeds
    obtain ⟨result, found⟩ := succeeds_iff.mp succeeds
    obtain ⟨mode, isMode, isCurve⟩ := widthFor_eq_ok.mp found
    exact ⟨mode, isMode, (inMode mode isMode).mp (succeeds_iff.mpr ⟨result, isCurve⟩)⟩
  · rintro ⟨mode, isMode, resolved⟩
    obtain ⟨result, isCurve⟩ := succeeds_iff.mp ((inMode mode isMode).mpr resolved)
    exact succeeds_iff.mpr ⟨result, widthFor_eq_ok.mpr ⟨mode, isMode, isCurve⟩⟩

/-! ### Two tables -/

/-- At a zoom a class is not wider in one table than in another one. -/
def NotWider (widths other : RoadWidths F) (featureClass : String) (zoom : Number F) : Prop :=
  Ensures (fun width => Ensures (fun otherWidth => width.value ≤ otherWidth.value)
      (other.resolvedWidth zoom featureClass))
    (widths.resolvedWidth zoom featureClass)

/-- Only the name under which a class is drawn matters. -/
theorem notWider_drawnName {zoom : Number F} :
    road.NotWider casing (RoadClass.drawnName featureClass) zoom ↔
      road.NotWider casing featureClass zoom := by
  unfold NotWider resolvedWidth
  rw [widthAt_congr (RoadClass.drawn?_drawnName featureClass),
    widthAt_congr (RoadClass.drawn?_drawnName featureClass)]

/-- At the last zoom the order is that at the start, since both widths have grown alike. -/
theorem NotWider.atLast (notWider : road.NotWider casing featureClass start) :
    Ensures (fun width => Ensures (fun casingWidth => width.value ≤ casingWidth.value)
        (casing.widthAtLast start featureClass))
      (road.widthAtLast start featureClass) := by
  intro final found casingFinal casingFound
  obtain ⟨growth, grown, positive⟩ := @returns_growthFrom_pos _ _ start _
  obtain ⟨width, widthFound, isScaled⟩ := width_of_widthAtLast grown found
  obtain ⟨casingWidth, casingWidthFound, casingIsScaled⟩ := width_of_widthAtLast grown casingFound
  have notAbove := notWider width widthFound casingWidth casingWidthFound
  rw [isScaled, casingIsScaled]
  exact mul_le_mul_of_nonneg_right notAbove positive.le

variable {renderer : Renderer F} {scene : Scene F}

/-- Stops at one zoom are shown in the order of the widths that they give. -/
theorem shownNotAbove_of_gives {width otherWidth : String → Except NumberError (Number F)}
    {key : Number F} {stop other : Expr F × Expr F} (isKey : stop.1 = .number key)
    (otherIsKey : other.1 = .number key) (gives : Gives width stop.2)
    (otherGives : Gives otherWidth other.2) (isOfClass : scene.feature.IsOfClass featureClass)
    (notAbove : Ensures (fun value => Ensures (fun otherValue => value.value ≤ otherValue.value)
      (otherWidth featureClass)) (width featureClass)) :
    ShownNotAbove renderer scene stop other := by
  obtain ⟨value, found, shown⟩ := shown_of_gives gives renderer featureClass
  obtain ⟨otherValue, otherFound, otherShown⟩ := shown_of_gives otherGives renderer featureClass
  exact ⟨key, value, otherValue, isKey, otherIsKey, shown scene isOfClass,
    otherShown scene isOfClass, notAbove value found otherValue otherFound⟩

theorem ShowsWidths.notAbove {zooms : List (Number F)} {stops casingStops : List (Expr F × Expr F)}
    (shows : road.ShowsWidths zooms stops) (casingShows : casing.ShowsWidths zooms casingStops)
    (notWider : ∀ zoom ∈ zooms, road.NotWider casing featureClass zoom)
    (isOfClass : scene.feature.IsOfClass featureClass) :
    List.Forall₂ (ShownNotAbove renderer scene) stops casingStops := by
  induction shows generalizing casingStops with
  | nil =>
      cases casingShows
      exact .nil
  | cons stopShows _ ih =>
      cases casingShows with
      | cons casingStopShows casingRestShows =>
          obtain ⟨firstNotWider, restNotWider⟩ := List.forall_mem_cons.mp notWider
          refine .cons ?_ (ih casingRestShows restNotWider)
          exact shownNotAbove_of_gives stopShows.1 casingStopShows.1 stopShows.2 casingStopShows.2
            isOfClass firstNotWider

/-- A width curve of roads and one of their casings in one mode. They have one shape and the same
stops, and a class that is not wider as a road at the stops up to the last zoom is nowhere shown
wider as a road. -/
structure Outlined (road casing : RoadWidths F) (renderer : Renderer F) (mode : WidthMode F)
    (roadCurve casingCurve : Expr F) : Prop where
  alike : ∃ roadStops casingStops, roadCurve = Expr.curveNode mode.shape Expr.zoom roadStops ∧
    casingCurve = Expr.curveNode mode.shape Expr.zoom casingStops ∧
    roadStops.map Prod.fst = mode.keys.map .number ∧
    casingStops.map Prod.fst = mode.keys.map .number
  notNarrower : ∀ featureClass, (∀ zoom ∈ mode.zooms, road.NotWider casing featureClass zoom) →
    ∀ scene : Scene F, scene.feature.IsOfClass featureClass →
      ∃ roadWidth casingWidth, roadCurve.shown renderer scene = some (.number roadWidth) ∧
        casingCurve.shown renderer scene = some (.number casingWidth) ∧
        roadWidth.value ≤ casingWidth.value

theorem outlined_of_showsIn {roadCurve casingCurve : Expr F} (mixes : renderer.Mixes mode.shape)
    (shows : road.ShowsIn mode roadCurve) (casingShows : casing.ShowsIn mode casingCurve) :
    road.Outlined casing renderer mode roadCurve casingCurve := by
  cases mode with
  | linear =>
      obtain ⟨stops, rfl, shows⟩ := shows
      obtain ⟨casingStops, rfl, casingShows⟩ := casingShows
      refine ⟨⟨stops, casingStops, rfl, rfl, shows.keys, casingShows.keys⟩, ?_⟩
      intro featureClass notWider scene isOfClass
      have given : stops ≠ [] := by
        rintro rfl
        cases shows
      exact Expr.curveNode_shown_le mixes Expr.shown_zoom
        (shows.notAbove casingShows notWider isOfClass) given
  | doubling start =>
      obtain ⟨stops, final, rfl, shows, finalGives⟩ := shows
      obtain ⟨casingStops, casingFinal, rfl, casingShows, casingFinalGives⟩ := casingShows
      constructor
      case alike =>
        refine ⟨_, _, rfl, rfl, ?_, ?_⟩
        · simp [WidthMode.keys, shows.keys]
        · simp [WidthMode.keys, casingShows.keys]
      case notNarrower =>
        intro featureClass notWider scene isOfClass
        have atLast : ShownNotAbove renderer scene (.number (.int lastScaleZoom), final)
            (.number (.int lastScaleZoom), casingFinal) :=
          shownNotAbove_of_gives rfl rfl finalGives casingFinalGives isOfClass
            (notWider start start_mem_scaleZooms).atLast
        have before : List.Forall₂ (ShownNotAbove renderer scene) stops casingStops :=
          shows.notAbove casingShows notWider isOfClass
        exact Expr.curveNode_shown_le mixes Expr.shown_zoom
          (List.rel_append before (.cons atLast .nil)) (by simp)

/-- Casings are never narrower than their roads, whatever the theme is: a class that at the stops is
not wider in the table of roads than in that of casings is at no zoom. Either curve exists exactly
if its table has widths at these stops. -/
theorem casing_never_narrower [RoundedArithmetic F] (theme : Theme F)
    (mixes : ∀ mode ∈ theme.settings.widthMode?, renderer.Mixes mode.shape) :
    (∀ widths ∈ [theme.widths.road, theme.widths.roadCasing],
      (Succeeds (widths.widthFor theme.settings) ↔ ∃ mode,
        theme.settings.widthMode? = some mode ∧ ∀ zoom ∈ mode.zooms, widths.ResolvedAt zoom)) ∧
    Ensures (fun roadCurve => Ensures (fun casingCurve => ∃ mode,
          theme.settings.widthMode? = some mode ∧
          theme.widths.road.Outlined theme.widths.roadCasing renderer mode roadCurve casingCurve)
        (theme.widths.roadCasing.widthFor theme.settings))
      (theme.widths.road.widthFor theme.settings) := by
  refine ⟨fun widths _ => succeeds_widthFor_iff, ?_⟩
  intro roadCurve roadFound casingCurve casingFound
  obtain ⟨mode, isMode, isRoad⟩ := widthFor_eq_ok.mp roadFound
  obtain ⟨other, sameMode, isCasing⟩ := widthFor_eq_ok.mp casingFound
  cases isMode.symm.trans sameMode
  exact ⟨mode, isMode, outlined_of_showsIn (mixes mode isMode)
    (ensures_curveIn isMode roadCurve isRoad) (ensures_curveIn isMode casingCurve isCasing)⟩

/-! ### A built-in theme -/

instance (widths other : RoadWidths Rat) (featureClass : String) (zoom : Number Rat) :
    Decidable (widths.NotWider other featureClass zoom) :=
  decidable_of_iff (Ensures (fun width => Ensures (fun otherWidth => width.exact ≤ otherWidth.exact)
      (other.resolvedWidth zoom featureClass)) (widths.resolvedWidth zoom featureClass))
    (by simp only [NotWider, Number.value_rat, Rat.cast_le])

theorem drawnName_mem (featureClass : String) :
    RoadClass.drawnName featureClass ∈ "" :: RoadClass.all.map RoadClass.name := by
  unfold RoadClass.drawnName
  cases RoadClass.drawn? featureClass with
  | none => exact List.mem_cons_self
  | some roadClass =>
      exact List.mem_cons_of_mem _ (List.mem_map_of_mem (RoadClass.mem_all roadClass))

/-- The built-in theme whose widths double. -/
def doublingTheme : Theme Rat :=
  Preset.monochrome

theorem doublingTheme_notWider (featureClass : String) : ∀ zoom ∈ scaleZooms 16,
    doublingTheme.widths.road.NotWider doublingTheme.widths.roadCasing featureClass zoom := by
  have each : ∀ name ∈ "" :: RoadClass.all.map RoadClass.name, ∀ zoom ∈ scaleZooms 16,
      doublingTheme.widths.road.NotWider doublingTheme.widths.roadCasing name zoom := by
    decide +kernel
  intro zoom member
  exact notWider_drawnName.mp (each _ (drawnName_mem featureClass) zoom member)

/-- In this theme no casing is narrower than its road at any zoom, whatever the class is. -/
theorem doublingTheme_outlined :
    (∀ mode ∈ doublingTheme.settings.widthMode?, Renderer.blending.Mixes mode.shape) ∧
    Returns (fun roadCurve => Returns (fun casingCurve =>
          ∀ (scene : Scene Rat) (featureClass : String), scene.feature.IsOfClass featureClass →
            ∃ roadWidth casingWidth,
              roadCurve.shown Renderer.blending scene = some (.number roadWidth) ∧
              casingCurve.shown Renderer.blending scene = some (.number casingWidth) ∧
              roadWidth.exact ≤ casingWidth.exact)
        (doublingTheme.widths.roadCasing.widthFor doublingTheme.settings))
      (doublingTheme.widths.road.widthFor doublingTheme.settings) := by
  have mixes : ∀ mode ∈ doublingTheme.settings.widthMode?, Renderer.blending.Mixes mode.shape :=
    fun mode _ => Renderer.mixes_blending mode.shape
  obtain ⟨_, outlined⟩ := casing_never_narrower doublingTheme mixes
  obtain ⟨roadCurve, roadFound⟩ : ∃ curve,
      doublingTheme.widths.road.widthFor doublingTheme.settings = .ok curve :=
    exists_of_isOk (by decide +kernel)
  obtain ⟨casingCurve, casingFound⟩ : ∃ curve,
      doublingTheme.widths.roadCasing.widthFor doublingTheme.settings = .ok curve :=
    exists_of_isOk (by decide +kernel)
  refine ⟨mixes, roadCurve, roadFound, casingCurve, casingFound, ?_⟩
  obtain ⟨mode, isMode, outlines⟩ := outlined roadCurve roadFound casingCurve casingFound
  have doubles : doublingTheme.settings.widthMode? = some (.doubling 16) := by
    with_unfolding_all rfl
  cases isMode.symm.trans doubles
  intro scene featureClass isOfClass
  obtain ⟨roadWidth, casingWidth, roadShown, casingShown, notAbove⟩ :=
    outlines.notNarrower featureClass (doublingTheme_notWider featureClass) scene isOfClass
  rw [Number.value_rat, Number.value_rat, Rat.cast_le] at notAbove
  exact ⟨roadWidth, casingWidth, roadShown, casingShown, notAbove⟩

end RoadWidths

end MapStyle
