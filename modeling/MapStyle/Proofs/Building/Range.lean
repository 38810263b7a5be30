import MapStyle.Layer.Building
import MapStyle.Presets
import MapStyle.Proofs.Expr.Line
import MapStyle.Proofs.Layer.Plan
import MapStyle.Proofs.Number.Double

/-!
# Zooms at which buildings are drawn

Buildings of the region start where the theme says; those over regional land start at one zoom
whatever it says. With a largest zoom both keep their opacity up to it and fade out in a straight
line over the zoom that follows, where they end, and a layer that would start after its end is not
drawn.
-/

namespace MapStyle

set_option autoImplicit false

open DrawStep (compile)

theorem Expr.rational?_nothing_double : (nothing : Expr Float).rational? = some 0 := by
  decide +kernel

namespace Building

variable {F : Type} [Arithmetic F] {theme : Theme F} {id : String} {start : Option (Number F)}
  {layers : List (Layer F)}

/-- Buildings are switched off, or gone before they start. -/
def Undrawn (theme : Theme F) (start : Option (Number F)) : Prop :=
  theme.resolveBuildings.enabled = false ∨
    ∃ maxZoom least, theme.resolveBuildings.maxZoom = some maxZoom ∧ start = some least ∧
      maxZoom.next.le least = true

/-- A layer with an end, and the curve along which it fades out. -/
structure Ends (theme : Theme F) (layer : Layer F) (least maxZoom : Number F) (curve : Expr F) :
    Prop where
  ends : layer.maxZoom = some maxZoom.next
  fades : fade theme.opacities.building least maxZoom = .ok curve
  opacity : layer.paint.lookup "fill-opacity" = some curve

/-- Nothing is drawn of buildings that are switched off, or gone before they start. -/
theorem stepsFrom_of_undrawn (undrawn : Undrawn theme start) : stepsFrom theme id start = [] := by
  unfold stepsFrom
  obtain disabled | ⟨maxZoom, least, given, rfl, gone⟩ := undrawn
  · simp [disabled]
  · simp [given, gone]

/-- A layer that was built with a largest zoom ends one zoom after it. -/
theorem exists_ends {least maxZoom : Number F} {layer : Layer F}
    (built : (plan theme id least maxZoom.next
      (fade theme.opacities.building least maxZoom)).build = .ok layer) :
    ∃ curve, Ends theme layer least maxZoom curve := by
  have listed : (plan theme id least maxZoom.next (fade theme.opacities.building least
    maxZoom)).paint.lookup "fill-opacity" = some (fade theme.opacities.building least
    maxZoom) := rfl
  obtain ⟨curve, fades, opacity⟩ := (LayerPlan.lookup_of_build built).2 listed
  exact ⟨curve, LayerPlan.maxZoom_of_build built, fades, opacity⟩

/-- One layer is drawn of all other buildings. It starts where it was asked to, and ends with the
largest zoom if there is one. -/
theorem compile_stepsFrom_of_drawn (drawn : ¬Undrawn theme start)
    (compiled : compile (stepsFrom theme id start) = .ok layers) :
    ∃ layer, layers = [layer] ∧ layer.minZoom = start ∧
      ∀ maxZoom, theme.resolveBuildings.maxZoom = some maxZoom →
        ∃ least curve, start = some least ∧ Ends theme layer least maxZoom curve := by
  have enabled : theme.resolveBuildings.enabled = true := by
    rw [← Bool.not_eq_false]
    exact fun disabled => drawn (.inl disabled)
  simp only [stepsFrom, enabled, Bool.not_true, Bool.false_eq_true, if_false] at compiled
  split at compiled
  case h_1 noEnd =>
    obtain ⟨layer, built, others⟩ := bind_eq_ok.mp compiled
    cases others
    refine ⟨_, rfl, LayerPlan.minZoom_of_build built, fun maxZoom given => ?_⟩
    rw [noEnd] at given
    cases given
  case h_2 maxZoom least given =>
    have inTime : ¬maxZoom.next.le least = true := fun gone =>
      drawn (.inr ⟨maxZoom, least, given, rfl, gone⟩)
    rw [if_neg inTime] at compiled
    obtain ⟨_, _, rest⟩ := bind_eq_ok.mp compiled
    obtain ⟨layer, built, others⟩ := bind_eq_ok.mp rest
    cases others
    obtain ⟨curve, ends⟩ := exists_ends built
    refine ⟨_, rfl, LayerPlan.minZoom_of_build built, fun other otherGiven => ?_⟩
    obtain rfl : maxZoom = other := Option.some.inj (given.symm.trans otherGiven)
    exact ⟨least, curve, rfl, ends⟩
  case h_3 =>
    obtain ⟨_, impossible, _⟩ := bind_eq_ok.mp compiled
    cases impossible

/-! ### What is kept of the range -/

/-- A layer does not start before a zoom. -/
def StartsFrom (least : Number F) (layer : Layer F) : Prop :=
  ∃ start, layer.minZoom = some start ∧ least.le start = true

/-- With a largest zoom, a layer ends one zoom after it. Where all numbers are finite it keeps the
opacity of buildings up to the largest zoom and fades out in a straight line until it ends. -/
def FadesInLine (theme : Theme F) (layer : Layer F) : Prop :=
  ∀ maxZoom, theme.resolveBuildings.maxZoom = some maxZoom → layer.maxZoom = some maxZoom.next ∧
    ∀ least largest last full, layer.minZoom.bind Number.rational? = some least →
      maxZoom.rational? = some largest → maxZoom.next.rational? = some last →
        theme.opacities.building.bind Number.rational? = some full →
          ∃ curve, layer.paint.lookup "fill-opacity" = some curve ∧ largest < last ∧
            (∀ zoom ≤ largest, curve.linearAt? zoom = some full) ∧
              ∀ zoom, largest ≤ zoom → zoom ≤ last →
                curve.linearAt? zoom = some (full * ((last - zoom) / (last - largest)))

theorem rational?_ofNumber? {setting : Option (Number F)} :
    (Expr.ofNumber? setting).rational? = setting.bind Number.rational? := by
  cases setting <;> rfl

/-- What holds of the layers from a zoom on. -/
theorem forall_mem_stepsFrom [OrderedArithmetic F]
    (isNothing : (Expr.nothing : Expr F).rational? = some 0)
    (compiled : compile (stepsFrom theme id start) = .ok layers) :
    (layers = [] ↔ Undrawn theme start) ∧
      ∀ layer ∈ layers, layer.minZoom = start ∧ FadesInLine theme layer := by
  by_cases undrawn : Undrawn theme start
  · rw [stepsFrom_of_undrawn undrawn] at compiled
    cases compiled
    simp [undrawn]
  · obtain ⟨layer, rfl, starts, withEnd⟩ := compile_stepsFrom_of_drawn undrawn compiled
    refine ⟨by simp [undrawn], List.forall_mem_singleton.mpr ⟨starts, fun maxZoom given => ?_⟩⟩
    obtain ⟨minZoom, curve, isStart, ends⟩ := withEnd maxZoom given
    refine ⟨ends.ends, fun least largest last full isLeast isLargest isLast isFull => ?_⟩
    rw [starts, isStart, Option.bind_some] at isLeast
    exact ⟨curve, ends.opacity, Expr.linearAt?_zoomFade ends.fades isLeast isLargest isLast
      (rational?_ofNumber?.trans isFull) isNothing⟩

/-- Buildings keep to the range of zooms that a theme sets, with one exception. Those of the region
do not start before the least zoom; those over regional land start at zoom 13, so they start too
early exactly if the least zoom is larger. All of them end with the largest zoom, and are missing
only where they are switched off or would start after their end. -/
theorem layers_keep_range (theme : Theme Float) :
    Ensures
      (fun layers => (layers = [] ↔ Undrawn theme theme.resolveBuildings.minZoom) ∧
        ∀ layer ∈ layers, FadesInLine theme layer ∧
          ∀ least value, theme.resolveBuildings.minZoom = some least →
            least.rational? = some value → StartsFrom least layer)
      (compile (regional theme)) ∧
    Ensures
      (fun layers => (layers = [] ↔ Undrawn theme (some overlayMinZoom)) ∧
        ∀ layer ∈ layers, FadesInLine theme layer ∧
          ∀ least, theme.resolveBuildings.minZoom = some least →
            (StartsFrom least layer ↔ least.le overlayMinZoom = true))
      (compile (overlay theme)) := by
  constructor
  · intro layers compiled
    obtain ⟨undrawn, each⟩ := forall_mem_stepsFrom Expr.rational?_nothing_double compiled
    refine ⟨undrawn, fun layer member => ?_⟩
    obtain ⟨starts, fades⟩ := each layer member
    refine ⟨fades, fun least value given finite => ?_⟩
    exact ⟨least, starts.trans given, Number.le_self_of_finite finite⟩
  · intro layers compiled
    obtain ⟨undrawn, each⟩ := forall_mem_stepsFrom Expr.rational?_nothing_double compiled
    refine ⟨undrawn, fun layer member => ?_⟩
    obtain ⟨starts, fades⟩ := each layer member
    refine ⟨fades, fun least _ => ⟨?_, ?_⟩⟩
    · rintro ⟨start, isStart, inTime⟩
      rw [starts] at isStart
      cases isStart
      exact inTime
    · intro inTime
      exact ⟨overlayMinZoom, starts, inTime⟩

/-- A theme with opaque buildings between two zooms. -/
def buildingsBetween (minZoom maxZoom : Number Float) : Theme Float :=
  { Preset.parchment with
    buildings := some
      { BuildingsConfig.standard with minZoom := some minZoom, maxZoom := some maxZoom }
    opacities := { (Preset.parchment : Theme Float).opacities with building := some 1 } }

theorem exists_overlay {minZoom maxZoom : Number Float} {layers : List (Layer Float)}
    (compiled : compile (overlay (buildingsBetween minZoom maxZoom)) = .ok layers)
    (inTime : maxZoom.next.le overlayMinZoom = false) :
    ∃ layer ∈ layers, layer.minZoom = some overlayMinZoom := by
  obtain ⟨undrawn, each⟩ := forall_mem_stepsFrom Expr.rational?_nothing_double compiled
  have given : layers ≠ [] := by
    intro none
    obtain disabled | ⟨_, _, isLargest, isLeast, gone⟩ := undrawn.mp none
    · cases disabled
    · cases isLargest
      cases isLeast
      exact Bool.false_ne_true (inTime.symm.trans gone)
  obtain ⟨layer, member⟩ := List.exists_mem_of_ne_nil layers given
  exact ⟨layer, member, (each layer member).1⟩

/-- Between zooms 13 and 15, buildings over regional land are opaque at zoom 14, and half of them is
gone in the middle of the zoom that follows. -/
theorem layers_keep_range_between :
    Returns
      (fun layers => ∃ layer ∈ layers, StartsFrom 13 layer ∧ layer.maxZoom = some 16 ∧
        ∃ curve, layer.paint.lookup "fill-opacity" = some curve ∧
          curve.linearAt? 14 = some 1 ∧ curve.linearAt? (31 / 2) = some (1 / 2))
      (compile (overlay (buildingsBetween 13 15))) := by
  obtain ⟨layers, compiled⟩ := exists_of_isOk
    (show (compile (overlay (buildingsBetween 13 15))).isOk = true by decide +kernel)
  obtain ⟨layer, member, isStart⟩ := exists_overlay compiled (by decide)
  obtain ⟨_, each⟩ := (layers_keep_range (buildingsBetween 13 15)).2 layers compiled
  obtain ⟨fades, starts⟩ := each layer member
  obtain ⟨ends, straight⟩ := fades 15 rfl
  have isLeast : layer.minZoom.bind Number.rational? = some 13 := by
    rw [isStart]
    rfl
  obtain ⟨curve, opacity, _, level, falls⟩ := straight 13 15 16 1 isLeast rfl rfl rfl
  refine ⟨layers, compiled, layer, member, (starts 13 rfl).mpr (by decide), ends, curve, opacity,
    level 14 (by norm_num), ?_⟩
  rw [falls (31 / 2) (by norm_num) (by norm_num)]
  norm_num

/-- Buildings over regional land start at zoom 13 even if no building is to be drawn before
zoom 15. -/
theorem overlay_too_early :
    (buildingsBetween 15 16).resolveBuildings.minZoom = some 15 ∧
      Returns (fun layers => ∃ layer ∈ layers, ¬StartsFrom 15 layer)
        (compile (overlay (buildingsBetween 15 16))) := by
  obtain ⟨layers, compiled⟩ := exists_of_isOk
    (show (compile (overlay (buildingsBetween 15 16))).isOk = true by decide +kernel)
  obtain ⟨layer, member, isStart⟩ := exists_overlay compiled (by decide)
  refine ⟨rfl, layers, compiled, layer, member, ?_⟩
  rintro ⟨start, starts, inTime⟩
  rw [isStart] at starts
  cases starts
  cases inTime

end Building

end MapStyle
