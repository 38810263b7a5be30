import MapStyle.Proofs.Style.Drawn
import MapStyle.Style.Document

/-!
# Arranged layers

Where a layer stands in a map follows from the group that draws it. The layers of some groups are
found again among all layers by their ids, in the order of the groups, and the areas of places are
put between layers that keep their order.
-/

namespace MapStyle

set_option autoImplicit false

open Stack (Group)

variable {F : Type}

/-! ### Layers by group -/

/-- Whether a layer is one that some of the groups may draw. -/
def Layer.isOf (groups : List Group) (layer : Layer F) : Bool :=
  groups.any fun group => group.ids.contains layer.id

variable [Arithmetic F] {theme : Theme F} {layers : List (Layer F)}

/-- A layer belongs to the group that draws it and to no other one. -/
theorem Layer.isOf_iff {groups : List Group} {group : Group} {layer : Layer F}
    (drawn : layer ∈ group.drawn theme) : layer.isOf groups = true ↔ group ∈ groups := by
  simp only [isOf, List.any_eq_true, List.contains_iff_mem, Group.id_mem_iff_of_drawn drawn]
  exact exists_eq_right'

namespace Theme

/-- What is chosen among the layers by what is chosen among the groups. -/
theorem filter_drawnBy {chosen : Layer F → Bool} {wanted : Group → Bool}
    (same : ∀ group, ∀ layer ∈ group.drawn theme, chosen layer = wanted group)
    (groups : List Group) :
    (theme.drawnBy groups).filter chosen = theme.drawnBy (groups.filter wanted) := by
  induction groups with
  | nil => rfl
  | cons group rest ih =>
      rw [drawnBy_cons, List.filter_append, ih, List.filter_cons]
      split
      · rename_i isWanted
        have all : (group.drawn theme).filter chosen = group.drawn theme :=
          List.filter_eq_self.mpr fun layer member => (same group layer member).trans isWanted
        rw [all, drawnBy_cons]
      · rename_i notWanted
        have none : (group.drawn theme).filter chosen = [] :=
          List.filter_eq_nil_iff.mpr fun layer member => by rwa [same group layer member]
        rw [none, List.nil_append]

theorem isOf_eq_decide (chosen : List Group) {group : Group} :
    ∀ layer ∈ group.drawn theme, layer.isOf chosen = decide (group ∈ chosen) :=
  fun _ member => Bool.eq_iff_iff.mpr ((Layer.isOf_iff member).trans decide_eq_true_iff.symm)

end Theme

/-! ### Places between the layers -/

/-- The layers of a map with those of places put above them, or below the first name of a
place. -/
def Theme.arrange (above : Bool) (places layers : List (Layer F)) : List (Layer F) :=
  let isNoName (layer : Layer F) : Bool := !layer.isOf [.settlementLabels]
  if above then layers ++ places
  else layers.takeWhile isNoName ++ places ++ layers.dropWhile isNoName

omit [Arithmetic F] in
theorem Theme.arrange_perm (above : Bool) (places layers : List (Layer F)) :
    (arrange above places layers).Perm (layers ++ places) := by
  unfold arrange
  split
  · exact .refl _
  · rw [List.append_assoc]
    refine (List.Perm.append_left _ List.perm_append_comm).trans ?_
    rw [← List.append_assoc, List.takeWhile_append_dropWhile]

theorem Theme.placesLayers_eq_ok {places : List (Layer F)} :
    theme.placesLayers = .ok places ↔
      DrawStep.compile (Group.places.steps theme) = .ok (Group.places.drawn theme) ∧
        places = Group.places.drawn theme := by
  have single : theme.placesLayers =
      DrawStep.compile ([Group.places].flatMap (Group.steps theme)) := by
    simp [Theme.placesLayers, Group.steps]
  rw [single, Group.compile_flatMap_eq_ok]
  simp

theorem Theme.insertPlaces_eq_map (layers : List (Layer F)) :
    theme.insertPlaces layers = theme.placesLayers.map fun places =>
      arrange (theme.places.any (·.renderAboveLabels)) places layers := by
  have names (layer : Layer F) :
      (Settlement.ids theme).contains layer.id = layer.isOf [.settlementLabels] := by
    simp [Layer.isOf, Group.settlement_ids]
  have rest (isNoName : Layer F → Bool) :
      layers.drop (layers.takeWhile isNoName).length = layers.dropWhile isNoName := by
    have dropped : (layers.takeWhile isNoName ++ layers.dropWhile isNoName).drop
        (layers.takeWhile isNoName).length = layers.dropWhile isNoName := List.drop_left
    rwa [List.takeWhile_append_dropWhile] at dropped
  simp only [insertPlaces, arrange, names, rest]
  cases theme.placesLayers with
  | error fault => rfl
  | ok places =>
      show (if _ then _ else _) = Except.ok (if _ then _ else _)
      split <;> rfl

end MapStyle
