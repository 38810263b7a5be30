import MapStyle.Layer.Boundary
import MapStyle.Presets
import MapStyle.Proofs.Expr.Straight
import MapStyle.Proofs.Layer.Plan
import MapStyle.Proofs.Number.Path

/-!
# Country borders where the sources hand over

The opacity of country borders around the world is a curve through the stops that a theme gives;
that of the region is worked out beforehand, at the zoom where its source takes over. At that zoom
both are the same, except for stops of which only one can be used: around the world that one is
left out, and in the region it counts.
-/

namespace MapStyle

set_option autoImplicit false

open DrawStep (AllDraw allDraw_append allDraw_map allDraw_nil compile draws_draw)

namespace Boundary

/-! ### The opacity of a theme -/

/-- Of all stops of an opacity a single one can be used. -/
def LoneStop (opacity : CountryOpacity Rat) (value : Number Rat) : Prop :=
  ∃ stops zoom, opacityStops opacity = .ok stops ∧
    Zoom.normalize (stops.getD []) = .ok [(zoom, value)]

/-- The values around the world and inside the region at one zoom. A lone stop is left out by the
first and counts for the second; for any other opacity they are the same. -/
structure Meet (opacity : CountryOpacity Rat) (around inside : Rat) : Prop where
  lone : ∀ value, LoneStop opacity value →
    around = (standardOpacity : Number Rat).exact ∧ inside = value.exact
  same : (¬∃ value, LoneStop opacity value) → around = inside

theorem Meet.of_not_lone {opacity : CountryOpacity Rat} {both : Rat}
    (notLone : ∀ value, ¬LoneStop opacity value) : Meet opacity both both :=
  ⟨fun value lone => absurd lone (notLone value), fun _ => rfl⟩

theorem not_loneStop_fixed {value other : Number Rat} : ¬LoneStop (.fixed value) other := by
  rintro ⟨stops, zoom, isStops, normalized⟩
  cases isStops
  cases normalized

theorem loneStop_iff {opacity : CountryOpacity Rat} {stops : Option (ZoomStops Rat)}
    {found : Stops Rat} (isStops : opacityStops opacity = .ok stops)
    (normalized : Zoom.normalize (stops.getD []) = .ok found) {value : Number Rat} :
    LoneStop opacity value ↔ ∃ zoom, found = [(zoom, value)] := by
  constructor
  · rintro ⟨other, zoom, isOther, lone⟩
    cases isStops.symm.trans isOther
    exact ⟨zoom, Except.ok.inj (normalized.symm.trans lone)⟩
  · rintro ⟨zoom, rfl⟩
    exact ⟨stops, zoom, isStops, normalized⟩

/-- The opacity that stops give borders around the world: fewer than two stops do not count. -/
def aroundAt (stops : Stops Rat) (zoom : Rat) : Rat :=
  if stops.length < 2 then (standardOpacity : Number Rat).exact
  else Point.path (Zoom.points stops) zoom

/-- The opacity that stops give borders of the region: a single stop counts as well. -/
def insideAt (stops : Stops Rat) (zoom : Rat) : Rat :=
  if stops = [] then (standardOpacity : Number Rat).exact
  else Point.path (Zoom.points stops) zoom

section Stops

variable {opacity : CountryOpacity Rat} {stops : Option (ZoomStops Rat)} {found : Stops Rat}
  (notFixed : ∀ value, opacity ≠ .fixed value)

/-- Both opacities are the same unless there is one stop, which is the one of the region. -/
theorem meet_of_stops (isStops : opacityStops opacity = .ok stops)
    (normalized : Zoom.normalize (stops.getD []) = .ok found) (zoom : Rat) :
    Meet opacity (aroundAt found zoom) (insideAt found zoom) := by
  have lone_iff {value : Number Rat} : LoneStop opacity value ↔ ∃ zoom, found = [(zoom, value)] :=
    loneStop_iff isStops normalized
  constructor
  case lone =>
    intro value lone
    obtain ⟨own, rfl⟩ := lone_iff.mp lone
    exact ⟨rfl, rfl⟩
  case same =>
    intro notLone
    match found with
    | [] => rfl
    | [(own, value)] => exact absurd ⟨value, lone_iff.mpr ⟨own, rfl⟩⟩ notLone
    | _ :: _ :: _ => rfl

include notFixed

theorem exists_worldOpacity (isStops : opacityStops opacity = .ok stops)
    (normalized : Zoom.normalize (stops.getD []) = .ok found) (zoom : Rat) :
    ∃ curve, worldOpacity opacity = .ok curve ∧
      curve.linearAt? zoom = some (aroundAt found zoom) := by
  have isWidth : worldOpacity opacity = Expr.zoomWidth stops (.number standardOpacity) := by
    unfold worldOpacity
    split
    · exact absurd rfl (notFixed _)
    · rw [isStops]
      rfl
  rw [isWidth]
  unfold aroundAt
  split
  · rename_i few
    exact ⟨_, Expr.zoomWidth_of_few normalized few, Expr.linearAt?_number _ _⟩
  · rename_i notFew
    obtain ⟨curve, isCurve, follows⟩ :=
      Expr.exists_zoomWidth_of_many normalized (Nat.not_lt.mp notFew)
    have given : Zoom.points found ≠ [] := by
      intro none
      have few : found.length < 2 := by simp [List.map_eq_nil_iff.mp none]
      exact notFew few
    exact ⟨curve, isCurve, (follows zoom).trans (Point.along_eq_path given)⟩

/-- The region takes its opacity from stops, at the zoom where its source takes over. -/
theorem exists_stops {constant : Expr Rat} (regionalFound : regionalOpacity opacity = .ok constant) :
    ∃ stops found, opacityStops opacity = .ok stops ∧
      Zoom.normalize (stops.getD []) = .ok found ∧
      constant.linearAt? (regionalZoom : Number Rat).exact =
        some (insideAt found (regionalZoom : Number Rat).exact) := by
  unfold regionalOpacity at regionalFound
  split at regionalFound
  · exact absurd rfl (notFixed _)
  obtain ⟨stops, isStops, rest⟩ := bind_eq_ok.mp regionalFound
  obtain ⟨found, read, rest⟩ := bind_eq_ok.mp rest
  have normalized : Zoom.normalize (stops.getD []) = .ok found := lift_eq_ok.mp read
  refine ⟨stops, found, isStops, normalized, ?_⟩
  cases found with
  | nil =>
      cases rest
      exact Expr.linearAt?_number _ _
  | cons first others =>
      obtain ⟨value, valueFound, isConstant⟩ := bind_eq_ok.mp rest
      cases isConstant
      have onLine : Point.along (Zoom.points (first :: others)) (regionalZoom : Number Rat).exact =
          some value.exact :=
        (Zoom.returns_valueAt (Zoom.ensures_normalize _ normalized)).ensures value
          (lift_eq_ok.mp valueFound)
      have given : Zoom.points (first :: others) ≠ [] := List.cons_ne_nil _ _
      rw [Expr.linearAt?_number, ← onLine, Point.along_eq_path given, insideAt,
        if_neg (List.cons_ne_nil _ _)]

end Stops

/-- Where the region has an opacity, there is one around the world. -/
theorem exists_meet {opacity : CountryOpacity Rat} {constant : Expr Rat}
    (regionalFound : regionalOpacity opacity = .ok constant) :
    ∃ curve around inside, worldOpacity opacity = .ok curve ∧
      curve.linearAt? (regionalZoom : Number Rat).exact = some around ∧
      constant.linearAt? (regionalZoom : Number Rat).exact = some inside ∧
      Meet opacity around inside := by
  by_cases isFixed : ∃ value, opacity = .fixed value
  · obtain ⟨value, rfl⟩ := isFixed
    cases regionalFound
    exact ⟨_, _, _, rfl, Expr.linearAt?_number value _, Expr.linearAt?_number value _,
      .of_not_lone fun _ => not_loneStop_fixed⟩
  · have notFixed : ∀ value, opacity ≠ .fixed value := not_exists.mp isFixed
    obtain ⟨stops, found, isStops, normalized, isInside⟩ := exists_stops notFixed regionalFound
    obtain ⟨curve, isCurve, isAround⟩ := exists_worldOpacity notFixed isStops normalized _
    exact ⟨curve, _, _, isCurve, isAround, isInside, meet_of_stops isStops normalized _⟩

/-! ### Layers -/

def worldIds : List String := ["boundary-country-world", "boundary-country-world-mid"]

def regionalIds : List String := ["boundary-country-us"]

section Lines

variable {F : Type} {ids : List String} {outcome : Result F (Expr F)}

/-- Layers with some names are drawn with one opacity. -/
def HasOpacity (ids : List String) (outcome : Result F (Expr F)) (layer : Layer F) : Prop :=
  layer.id ∈ ids →
    ∃ value, outcome = .ok value ∧ layer.paint.lookup "line-opacity" = some value

theorem allDraw_shown {wanted : Bool} {lines : List (Line F)}
    (each : ∀ line ∈ lines, line.id ∈ ids → line.opacity = outcome) :
    AllDraw (LayerPlan.Builds (HasOpacity ids outcome)) (shown wanted lines) := by
  unfold shown
  split
  · refine allDraw_map.mpr fun line member => draws_draw.mpr fun layer built named => ?_
    rw [LayerPlan.id_of_build built] at named
    obtain ⟨value, isValue, painted⟩ :=
      (LayerPlan.lookup_of_build built).2 (rfl : List.lookup "line-opacity" _ = some line.opacity)
    exact ⟨value, (each line member named).symm.trans isValue, painted⟩
  · exact allDraw_nil

/-- A layer whose plan is among the steps is drawn. -/
theorem ensures_exists_id {steps : List (DrawStep F)} (id : String)
    (planned : id ∈ (DrawStep.plans steps).map LayerPlan.id) (listed : id ∈ ids) :
    Ensures (fun layers => ∃ layer ∈ layers, layer.id ∈ ids) (compile steps) := by
  intro layers compiled
  have same : layers.map Layer.id = (DrawStep.plans steps).map LayerPlan.id :=
    DrawStep.map_of_compile (fun _ _ => LayerPlan.id_of_build) compiled
  rw [← same] at planned
  obtain ⟨layer, member, rfl⟩ := List.mem_map.mp planned
  exact ⟨layer, member, listed⟩

variable [Arithmetic F] (theme : Theme F)

theorem hasOpacity_world :
    Ensures (fun layers => ∀ layer ∈ layers,
        HasOpacity worldIds (worldOpacity theme.opacities.boundary.country) layer)
      (compile (world theme)) := by
  refine fun layers => DrawStep.forall_mem_of_builds ?_
  simp only [world, allDraw_append]
  refine ⟨⟨⟨by simp, allDraw_shown ?_⟩, allDraw_shown ?_⟩, allDraw_shown ?_⟩
  · simp
  · simp [worldIds]
  · simp [worldIds]

theorem hasOpacity_regional :
    Ensures (fun layers => ∀ layer ∈ layers,
        HasOpacity regionalIds (regionalOpacity theme.opacities.boundary.country) layer)
      (compile (regional theme)) := by
  refine fun layers => DrawStep.forall_mem_of_builds ?_
  simp only [regional, allDraw_append]
  refine ⟨⟨⟨by simp, allDraw_shown ?_⟩, allDraw_shown ?_⟩, allDraw_shown ?_⟩
  · simp
  · simp [regionalIds]
  · simp [regionalIds]

variable {theme} (wanted : theme.resolveBoundary.country = true)

include wanted

/-- Where country borders are wanted there are some around the world. -/
theorem exists_outer : Ensures (fun layers => ∃ layer ∈ layers, layer.id ∈ worldIds)
    (compile (world theme)) := by
  refine ensures_exists_id "boundary-country-world" ?_ (by simp [worldIds])
  simp [DrawStep.plans, world, shown, wanted, Line.step, DrawStep.plan?, DrawStep.need]

theorem exists_inner : Ensures (fun layers => ∃ layer ∈ layers, layer.id ∈ regionalIds)
    (compile (regional theme)) := by
  refine ensures_exists_id "boundary-country-us" ?_ (by simp [regionalIds])
  simp [DrawStep.plans, regional, shown, wanted, Line.step, DrawStep.plan?, DrawStep.need]

end Lines

/-- The opacity of a line, followed to the zoom at which the sources hand over. -/
def ShowsAtHandover (layer : Layer Rat) (value : Rat) : Prop :=
  ∃ curve, layer.paint.lookup "line-opacity" = some curve ∧
    curve.linearAt? (regionalZoom : Number Rat).exact = some value

/-- Two lines show values that meet. -/
def LayersMeet (opacity : CountryOpacity Rat) (outer inner : Layer Rat) : Prop :=
  ∃ around inside, ShowsAtHandover outer around ∧ ShowsAtHandover inner inside ∧
    Meet opacity around inside

theorem layersMeet_of_hasOpacity {opacity : CountryOpacity Rat} {outer inner : Layer Rat}
    (outerHas : HasOpacity worldIds (worldOpacity opacity) outer)
    (innerHas : HasOpacity regionalIds (regionalOpacity opacity) inner)
    (outerNamed : outer.id ∈ worldIds) (innerNamed : inner.id ∈ regionalIds) :
    LayersMeet opacity outer inner := by
  obtain ⟨curve, curveFound, outerPainted⟩ := outerHas outerNamed
  obtain ⟨constant, constantFound, innerPainted⟩ := innerHas innerNamed
  obtain ⟨other, around, inside, otherFound, onCurve, isConstant, meet⟩ :=
    exists_meet constantFound
  cases curveFound.symm.trans otherFound
  exact ⟨around, inside, ⟨curve, outerPainted, onCurve⟩, ⟨constant, innerPainted, isConstant⟩, meet⟩

/-- Country borders around the world and those of the region are equally opaque where the sources
hand over, unless the theme gives a single usable stop. That stop is the opacity in the region, but
around the world the borders have the standard opacity then. -/
theorem country_borders_meet {theme : Theme Rat} {around inside : List (Layer Rat)}
    (worldCompiled : compile (world theme) = .ok around)
    (regionalCompiled : compile (regional theme) = .ok inside) :
    ∀ outer ∈ around, outer.id ∈ worldIds → ∀ inner ∈ inside, inner.id ∈ regionalIds →
      LayersMeet theme.opacities.boundary.country outer inner := by
  intro outer outerMember outerNamed inner innerMember innerNamed
  exact layersMeet_of_hasOpacity (hasOpacity_world theme around worldCompiled outer outerMember)
    (hasOpacity_regional theme inside regionalCompiled inner innerMember) outerNamed innerNamed

/-- The built-in light theme with stops for the opacity of country borders. -/
def withStops (stops : ZoomStops Rat) : Theme Rat :=
  { Preset.parchment with
    opacities :=
      { (Preset.parchment : Theme Rat).opacities with
        boundary := { BoundaryOpacities.standard with country := .stops (some stops) } } }

/-- Stops on either side of the zoom at which the sources hand over. -/
def bracketing : ZoomStops Rat :=
  [(.text "z6", .number 0.6), (.text "z12", .number 0.9)]

/-- A single stop, below the zoom at which the sources hand over. -/
def single : ZoomStops Rat :=
  [(.text "z6", .number 0.5)]

/-- With stops on either side the borders are equally opaque. -/
theorem bracketing_borders_meet :
    ∃ around inside, compile (world (withStops bracketing)) = .ok around ∧
      compile (regional (withStops bracketing)) = .ok inside ∧
      ∃ outer ∈ around, outer.id ∈ worldIds ∧ ∃ inner ∈ inside, inner.id ∈ regionalIds ∧
        ∃ value, ShowsAtHandover outer value ∧ ShowsAtHandover inner value := by
  obtain ⟨around, worldCompiled⟩ := exists_of_isOk
    (show (compile (world (withStops bracketing))).isOk = true by decide +kernel)
  obtain ⟨inside, regionalCompiled⟩ := exists_of_isOk
    (show (compile (regional (withStops bracketing))).isOk = true by decide +kernel)
  obtain ⟨outer, outerMember, outerNamed⟩ := exists_outer rfl around worldCompiled
  obtain ⟨inner, innerMember, innerNamed⟩ := exists_inner rfl inside regionalCompiled
  have twoStops : ¬∃ value, LoneStop (withStops bracketing).opacities.boundary.country value := by
    rintro ⟨value, lone⟩
    have isStops : opacityStops (.stops (some bracketing)) = .ok (some bracketing) := rfl
    have normalized : Zoom.normalize bracketing = .ok [(6, 0.6), (12, 0.9)] := rfl
    obtain ⟨zoom, impossible⟩ := (loneStop_iff isStops normalized).mp lone
    cases impossible
  obtain ⟨outerValue, innerValue, outerShows, innerShows, meet⟩ :=
    country_borders_meet worldCompiled regionalCompiled outer outerMember outerNamed inner
      innerMember innerNamed
  refine ⟨around, inside, worldCompiled, regionalCompiled, outer, outerMember, outerNamed, inner,
    innerMember, innerNamed, outerValue, outerShows, ?_⟩
  rw [meet.same twoStops]
  exact innerShows

/-- With a stop of one half at zoom 6 alone, borders of opacity 0.8 meet borders of opacity 0.5. -/
theorem single_borders_part :
    ∃ around inside, compile (world (withStops single)) = .ok around ∧
      compile (regional (withStops single)) = .ok inside ∧
      ∃ outer ∈ around, outer.id ∈ worldIds ∧ ∃ inner ∈ inside, inner.id ∈ regionalIds ∧
        ShowsAtHandover outer (4 / 5) ∧ ShowsAtHandover inner (1 / 2) := by
  obtain ⟨around, worldCompiled⟩ := exists_of_isOk
    (show (compile (world (withStops single))).isOk = true by decide +kernel)
  obtain ⟨inside, regionalCompiled⟩ := exists_of_isOk
    (show (compile (regional (withStops single))).isOk = true by decide +kernel)
  obtain ⟨outer, outerMember, outerNamed⟩ := exists_outer rfl around worldCompiled
  obtain ⟨inner, innerMember, innerNamed⟩ := exists_inner rfl inside regionalCompiled
  have lone : LoneStop (withStops single).opacities.boundary.country 0.5 := ⟨some single, 6, rfl, rfl⟩
  obtain ⟨outerValue, innerValue, outerShows, innerShows, meet⟩ :=
    layersMeet_of_hasOpacity (hasOpacity_world _ around worldCompiled outer outerMember)
      (hasOpacity_regional _ inside regionalCompiled inner innerMember) outerNamed innerNamed
  obtain ⟨isStandard, isStop⟩ := meet.lone 0.5 lone
  have standard : (standardOpacity : Number Rat).exact = 4 / 5 := by
    decide +kernel
  have half : (0.5 : Number Rat).exact = 1 / 2 := by decide +kernel
  refine ⟨around, inside, worldCompiled, regionalCompiled, outer, outerMember, outerNamed, inner,
    innerMember, innerNamed, ?_, ?_⟩
  · rw [← standard, ← isStandard]
    exact outerShows
  · rw [← half, ← isStop]
    exact innerShows

end Boundary

end MapStyle
