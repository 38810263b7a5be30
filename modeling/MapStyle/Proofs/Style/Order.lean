import MapStyle.Number.Arithmetic
import MapStyle.Presets
import MapStyle.Proofs.Style.Arranged

/-!
# Boundaries and water

A theme says whether water hides boundaries. That moves the lines of boundaries in the stack, as a
block and unchanged, and nothing else: below all water and above the land of the world if it hides
them, and else above water, those of the region also above regional land.
-/

namespace MapStyle

set_option autoImplicit false

open Stack (Group)

variable {F : Type}

/-- Every layer of the first list that stands among the layers stands below each one of the
second. -/
def Below (layers lower upper : List (Layer F)) : Prop :=
  ∀ (i j : Nat) first second, layers[i]? = some first → layers[j]? = some second →
    first ∈ lower → second ∈ upper → i < j

namespace Stack.Group

def boundaries : List Group := [.worldBoundaries, .regionalBoundaries]

def worldLands : List Group := [.worldLand]

def lands : List Group := [.worldLand, .regionalLand]

/-- Areas of water, waterways, depth and contour lines. -/
def waters : List Group := [.worldWater, .regionalWater, .depth, .contours]

/-- Ice, the graticule and all roads with their names. -/
def aboveWater : List Group :=
  [.ice, .graticule, .worldRoads, .regionalRoads, .roadOverlay, .roadLabels]

/-- No group of the upper ones comes before one of the lower ones. -/
def apart (groups lower upper : List Group) : Bool :=
  (lower.all fun group => !upper.contains group) &&
    decide (groups.Pairwise fun first second => ¬(first ∈ upper ∧ second ∈ lower))

theorem mem_order_iff {group : Group} (hidden : Bool) :
    group ∈ order hidden ↔ group ≠ .places := by
  cases hidden <;> cases group <;> decide

end Stack.Group

open Stack.Group (boundaries worldLands lands waters aboveWater)

variable [Arithmetic F] {theme : Theme F} {layers : List (Layer F)}

namespace Theme

/-- A layer of a group is drawn by some groups if its own group is one of them. -/
theorem mem_drawnBy_iff {group : Group} {groups : List Group} {layer : Layer F}
    (drawn : layer ∈ group.drawn theme) : layer ∈ theme.drawnBy groups ↔ group ∈ groups := by
  rw [drawnBy, List.mem_flatMap]
  constructor
  · rintro ⟨other, member, inOther⟩
    have same := (Group.id_mem_iff_of_drawn drawn).mp (Group.id_mem_of_drawn inOther)
    exact same ▸ member
  · exact fun member => ⟨group, member, drawn⟩

/-- Layers lie upon one another as their groups do. -/
theorem below_drawnBy {groups lower upper : List Group}
    (apart : Group.apart groups lower upper = true) :
    Below (theme.drawnBy groups) (theme.drawnBy lower) (theme.drawnBy upper) := by
  simp only [Group.apart, Bool.and_eq_true, List.all_eq_true, decide_eq_true_eq] at apart
  obtain ⟨disjoint, ordered⟩ := apart
  have neverBefore : (theme.drawnBy groups).Pairwise fun first second =>
      ¬(first ∈ theme.drawnBy upper ∧ second ∈ theme.drawnBy lower) := by
    refine List.pairwise_flatMap.mpr ⟨?_, ?_⟩
    · intro group _
      refine List.pairwise_of_forall_mem_list fun first inFirst second inSecond => ?_
      rw [mem_drawnBy_iff inFirst, mem_drawnBy_iff inSecond]
      rintro ⟨inUpper, inLower⟩
      simpa [inUpper] using disjoint group inLower
    · refine ordered.imp fun {first second} never below inFirst above inSecond => ?_
      rwa [mem_drawnBy_iff inFirst, mem_drawnBy_iff inSecond]
  intro i j first second foundFirst foundSecond inLower inUpper
  obtain ⟨iBounded, rfl⟩ := List.getElem?_eq_some_iff.mp foundFirst
  obtain ⟨jBounded, rfl⟩ := List.getElem?_eq_some_iff.mp foundSecond
  by_contra notBefore
  obtain before | same := Nat.lt_or_eq_of_le (Nat.le_of_not_lt notBefore)
  · exact List.pairwise_iff_getElem.mp neverBefore j i jBounded iBounded before
      ⟨inUpper, inLower⟩
  · subst same
    obtain ⟨group, member, drawn⟩ := List.mem_flatMap.mp inLower
    simpa [(mem_drawnBy_iff drawn).mp inUpper] using disjoint group member

/-! ### Both settings -/

/-- The theme with its boundaries hidden below water or not, and all else as it is. -/
def hidingOverWater (theme : Theme F) (hidden : Bool) : Theme F :=
  { theme with boundary := some { theme.resolveBoundary with hideOverWater := hidden } }

theorem steps_hidingOverWater (theme : Theme F) (hidden : Bool) (group : Group) :
    group.steps (theme.hidingOverWater hidden) = group.steps theme := by
  cases group <;> rfl

theorem drawnBy_hidingOverWater (theme : Theme F) (hidden : Bool) (groups : List Group) :
    (theme.hidingOverWater hidden).drawnBy groups = theme.drawnBy groups := by
  have each : Group.drawn (theme.hidingOverWater hidden) = Group.drawn theme :=
    funext fun group => Group.drawn_congr (theme.steps_hidingOverWater hidden group)
  rw [drawnBy, drawnBy, each]

/-- A theme that compiles with one setting compiles with both, each time to the same groups. -/
theorem layers_hidingOverWater (compiled : theme.layers = .ok layers) (hidden : Bool) :
    (theme.hidingOverWater hidden).layers = .ok (theme.drawnBy (Group.order hidden)) := by
  obtain ⟨all, _⟩ := layers_eq_ok.mp compiled
  refine layers_eq_ok.mpr ⟨fun group member => ?_, (theme.drawnBy_hidingOverWater hidden _).symm⟩
  rw [steps_hidingOverWater, Group.drawn_congr (theme.steps_hidingOverWater hidden group)]
  exact all group ((Group.mem_order_iff _).mpr ((Group.mem_order_iff hidden).mp member))

theorem filter_isOf (chosen groups : List Group) :
    (theme.drawnBy groups).filter (Layer.isOf chosen) =
      theme.drawnBy (groups.filter fun group => group ∈ chosen) :=
  filter_drawnBy (fun _ => isOf_eq_decide chosen) groups

theorem filter_not_isOf (chosen groups : List Group) :
    (theme.drawnBy groups).filter (fun layer => !layer.isOf chosen) =
      theme.drawnBy (groups.filter fun group => group ∉ chosen) := by
  refine filter_drawnBy (fun group layer drawn => ?_) groups
  rw [isOf_eq_decide chosen layer drawn, decide_not]

/-- Whether water hides boundaries moves their lines and nothing else. If it hides them, they lie
between the land of the world and all water. Otherwise those of the world lie between water and
what is drawn on it, and those of the region between land and the roads on it. -/
theorem hideOverWater_moves_boundaries (compiled : theme.layers = .ok layers) :
    ∃ hidden shown,
      (theme.hidingOverWater true).layers = .ok hidden ∧
      (theme.hidingOverWater false).layers = .ok shown ∧
      (∀ group : Group, group ≠ .places →
        DrawStep.compile (group.steps theme) = .ok (group.drawn theme)) ∧
      hidden.filter (Layer.isOf boundaries) = theme.drawnBy boundaries ∧
      shown.filter (Layer.isOf boundaries) = theme.drawnBy boundaries ∧
      hidden.filter (fun layer => !layer.isOf boundaries) =
        shown.filter (fun layer => !layer.isOf boundaries) ∧
      Below hidden (theme.drawnBy worldLands) (theme.drawnBy boundaries) ∧
      Below hidden (theme.drawnBy boundaries) (theme.drawnBy waters) ∧
      Below shown (theme.drawnBy waters) (theme.drawnBy [.worldBoundaries]) ∧
      Below shown (theme.drawnBy [.worldBoundaries]) (theme.drawnBy aboveWater) ∧
      Below shown (theme.drawnBy lands) (theme.drawnBy [.regionalBoundaries]) ∧
      Below shown (theme.drawnBy [.regionalBoundaries]) (theme.drawnBy [.roadOverlay]) := by
  refine ⟨_, _, layers_hidingOverWater compiled true, layers_hidingOverWater compiled false,
    ?_, ?_, ?_, ?_, ?_, ?_, ?_, ?_, ?_, ?_⟩
  · exact fun group isThere =>
      (layers_eq_ok.mp compiled).1 group ((Group.mem_order_iff _).mpr isThere)
  · exact filter_isOf boundaries (Group.order true)
  · exact filter_isOf boundaries (Group.order false)
  · rw [filter_not_isOf, filter_not_isOf]
    rfl
  all_goals exact below_drawnBy (by decide)

theorem parchment_boundaries_moved : ∃ hidden shown : List (Layer Rat),
    (Preset.parchment.hidingOverWater true).layers = .ok hidden ∧
      (Preset.parchment.hidingOverWater false).layers = .ok shown ∧
      hidden.filter (Layer.isOf boundaries) = shown.filter (Layer.isOf boundaries) ∧
      Below hidden (Preset.parchment.drawnBy boundaries) (Preset.parchment.drawnBy waters) ∧
      Below shown (Preset.parchment.drawnBy waters)
        (Preset.parchment.drawnBy [.worldBoundaries]) := by
  obtain ⟨layers, compiled⟩ := exists_of_isOk
    (show (Preset.parchment : Theme Rat).layers.isOk = true by decide +kernel)
  obtain ⟨hidden, shown, hiddenCompiled, shownCompiled, _, ofHidden, ofShown, _, _, belowWater,
    aboveWater, _⟩ := hideOverWater_moves_boundaries compiled
  exact ⟨hidden, shown, hiddenCompiled, shownCompiled, ofHidden.trans ofShown.symm, belowWater,
    aboveWater⟩

end Theme

end MapStyle
