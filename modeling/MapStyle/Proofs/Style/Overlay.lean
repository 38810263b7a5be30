import Mathlib.Data.List.TakeWhile
import MapStyle.Proofs.Style.Independent

/-!
# Areas of places among other layers

Areas of places are put between layers of any origin as one block. They lie on all of them if the
theme wants that, and else directly below the first name of a place, wherever the search for one
ends. In the style of a theme they so lie below all names of places and on what these names lie on.
-/

namespace MapStyle

set_option autoImplicit false

open DrawStep (compile headings_of_compile)
open Stack (Group)

variable {F : Type} [Arithmetic F] {theme : Theme F}

namespace Theme

/-- Whether areas of places lie above names. -/
def PlacesAbove (theme : Theme F) : Prop :=
  ∃ config ∈ theme.places, config.renderAboveLabels = true

/-- The ways in which a block is put between layers, all of which keep their order. -/
inductive Overlaid (theme : Theme F) (block : List (Layer F)) :
    List (Layer F) → List (Layer F) → Prop where
  | onTop {layers : List (Layer F)} (wanted : theme.PlacesAbove) :
      Overlaid theme block layers (layers ++ block)
  | belowName {below above : List (Layer F)} {name : Layer F} (notWanted : ¬theme.PlacesAbove)
      (noName : ∀ layer ∈ below, layer.id ∉ Settlement.ids theme)
      (isName : name.id ∈ Settlement.ids theme) :
      Overlaid theme block (below ++ name :: above) (below ++ block ++ name :: above)
  | withoutName {layers : List (Layer F)} (notWanted : ¬theme.PlacesAbove)
      (noName : ∀ layer ∈ layers, layer.id ∉ Settlement.ids theme) :
      Overlaid theme block layers (layers ++ block)

/-! ### Any layers -/

omit [Arithmetic F] in
theorem placesAbove_iff :
    theme.places.any (·.renderAboveLabels) = true ↔ theme.PlacesAbove := by
  simp [PlacesAbove, Option.any_eq_true]

theorem isOf_settlementLabels_iff {layer : Layer F} :
    layer.isOf [.settlementLabels] = true ↔ layer.id ∈ Settlement.ids theme := by
  simp [Layer.isOf, Group.settlement_ids]

theorem overlaid_arrange (block layers : List (Layer F)) :
    theme.Overlaid block layers
      (arrange (theme.places.any (·.renderAboveLabels)) block layers) := by
  unfold arrange
  split
  · rename_i wanted
    exact .onTop (placesAbove_iff.mp wanted)
  · rename_i notWanted
    rw [placesAbove_iff] at notWanted
    let isNoName (layer : Layer F) : Bool := !layer.isOf [.settlementLabels]
    show theme.Overlaid block layers
      (layers.takeWhile isNoName ++ block ++ layers.dropWhile isNoName)
    have noName : ∀ layer ∈ layers.takeWhile isNoName, layer.id ∉ Settlement.ids theme := by
      intro layer member isName
      have passed : isNoName layer = true := List.mem_takeWhile_imp member
      simp [isNoName, isOf_settlementLabels_iff.mpr isName] at passed
    have all : layers.takeWhile isNoName ++ layers.dropWhile isNoName = layers :=
      List.takeWhile_append_dropWhile
    cases rest : layers.dropWhile isNoName with
    | nil =>
        rw [rest, List.append_nil] at all
        rw [all] at noName ⊢
        rw [List.append_nil]
        exact .withoutName notWanted noName
    | cons name above =>
        have stopped : isNoName name = false := by
          have first := List.head?_dropWhile_not isNoName layers
          simpa [rest] using first
        have isName : name.id ∈ Settlement.ids theme :=
          isOf_settlementLabels_iff.mp (by simpa [isNoName] using stopped)
        rw [rest] at all
        have placed : theme.Overlaid block (layers.takeWhile isNoName ++ name :: above)
            (layers.takeWhile isNoName ++ block ++ name :: above) :=
          .belowName notWanted noName isName
        rwa [all] at placed

/-- Without areas of places there is nothing to put between layers. -/
theorem insertPlaces_of_disabled (off : theme.enabled .places = false) (layers : List (Layer F)) :
    theme.insertPlaces layers = .ok layers := by
  have none : theme.placesLayers = .ok [] := by
    have noSteps : Population.steps theme = [] := Group.steps_of_disabled off
    rw [placesLayers, noSteps]
    rfl
  rw [insertPlaces_eq_map, none]
  exact congrArg Except.ok (arrange_nil _ layers)

omit [Arithmetic F] in
theorem ids_of_compile {steps : List (DrawStep F)} {layers : List (Layer F)}
    (compiled : compile steps = .ok layers) :
    layers.map Layer.id = (DrawStep.headings steps).map Heading.id := by
  rw [← headings_of_compile compiled, List.map_map]
  rfl

/-- What areas of places are drawn as. -/
def placesIds : List String := ["places-fill", "places-outline"]

theorem ids_placesLayers {places : List (Layer F)} (drawn : theme.enabled .places = true)
    (found : theme.placesLayers = .ok places) : places.map Layer.id = placesIds := by
  obtain ⟨config, given, enabled⟩ : ∃ config, theme.places = some config ∧ config.enabled = true :=
    (Option.any_eq_true _ _).mp drawn
  rw [ids_of_compile found, Population.steps, DrawStep.ofDomain_of_enabled given enabled]
  rfl

/-! ### The layers of a theme -/

/-- The layers of a theme, parted into the names of places and what lies below and above them. -/
structure Parted (theme : Theme F) (below names above : List (Layer F)) : Prop where
  base : theme.layers = .ok (below ++ names ++ above)
  drawn : compile (Settlement.steps theme) = .ok names
  noName : ∀ layer ∈ below ++ above, layer.id ∉ Settlement.ids theme

/-- Names of places are drawn one after another, followed by points of interest only. -/
theorem order_eq_append (hidden : Bool) :
    Group.order hidden = (Group.order hidden).take 21 ++ [.settlementLabels, .poiLabels] := by
  cases hidden <;> rfl

theorem noName_drawnBy {groups : List Group} (others : Group.settlementLabels ∉ groups) :
    ∀ layer ∈ theme.drawnBy groups, layer.id ∉ Settlement.ids theme := by
  intro layer member isName
  obtain ⟨group, inGroups, drawn⟩ := List.mem_flatMap.mp member
  rw [Group.settlement_ids, Group.id_mem_iff_of_drawn drawn] at isName
  exact others (isName ▸ inGroups)

theorem exists_parted {layers : List (Layer F)} (compiled : theme.layers = .ok layers) :
    ∃ below names above, layers = below ++ names ++ above ∧ theme.Parted below names above := by
  obtain ⟨all, same⟩ := layers_eq_ok.mp compiled
  let front := (Group.order theme.resolveBoundary.hideOverWater).take 21
  have notInFront : Group.settlementLabels ∉ front := by
    cases hidden : theme.resolveBoundary.hideOverWater <;> simp [front, hidden] <;> decide
  rw [order_eq_append] at same all
  rw [drawnBy_append, drawnBy_cons, drawnBy_cons, drawnBy_nil, List.append_nil,
    ← List.append_assoc] at same
  refine ⟨_, _, _, same, same ▸ compiled, all .settlementLabels (by simp), ?_⟩
  rw [List.forall_mem_append]
  refine ⟨noName_drawnBy notInFront, ?_⟩
  have inLast : ∀ layer ∈ theme.drawnBy [.poiLabels], layer.id ∉ Settlement.ids theme :=
    noName_drawnBy (by decide)
  rwa [drawnBy_cons, drawnBy_nil, List.append_nil] at inLast

theorem ids_settlements {names : List (Layer F)}
    (drawn : compile (Settlement.steps theme) = .ok names) :
    names.map Layer.id = Settlement.ids theme :=
  ids_of_compile drawn

/-- Areas of places come to lie between the names of places and what these names lie on. -/
theorem Parted.arrange_eq {below names above : List (Layer F)}
    (parted : theme.Parted below names above) (places : List (Layer F)) :
    arrange false places (below ++ names ++ above) = below ++ places ++ names ++ above := by
  have ids := ids_settlements parted.drawn
  cases names with
  | nil => cases ids
  | cons name rest =>
      have isName : name.isOf [.settlementLabels] = true := by
        have member : name.id ∈ Settlement.ids theme := ids ▸ List.mem_cons_self
        exact isOf_settlementLabels_iff.mpr member
      have noName : ∀ layer ∈ below, (!layer.isOf [.settlementLabels]) = true := by
        intro layer member
        rw [Bool.not_eq_true', ← Bool.not_eq_true, isOf_settlementLabels_iff]
        exact parted.noName layer (List.mem_append_left above member)
      simp only [arrange, Bool.false_eq_true, if_false, List.append_assoc, List.cons_append]
      rw [List.takeWhile_append_of_pos noName, List.dropWhile_append_of_pos noName]
      simp [isName]

/-- Areas of places are put between layers of any origin without taking a layer away or changing
the order of those that are there. In the style of a theme that wants them below names they lie
directly below all names of places, on everything that the first of these lies on. -/
theorem places_overlaid (theme : Theme F) (urls : StyleUrls) :
    (theme.enabled .places = false → ∀ layers, theme.insertPlaces layers = .ok layers) ∧
    (∀ layers fault, theme.placesLayers = .error fault → theme.insertPlaces layers = .error fault) ∧
    (∀ places, theme.enabled .places = true → theme.placesLayers = .ok places →
      places.map Layer.id = placesIds ∧
        ∀ layers, Returns (theme.Overlaid places layers) (theme.insertPlaces layers)) ∧
    (∀ names, compile (Settlement.steps theme) = .ok names →
      names.map Layer.id = Settlement.ids theme) ∧
    ∀ style, StyleDocument.drawsPlaces theme urls = true → ¬theme.PlacesAbove →
      StyleDocument.compile theme urls = .ok style →
        ∃ below names above places, theme.Parted below names above ∧
          theme.placesLayers = .ok places ∧ style.layers = below ++ places ++ names ++ above := by
  refine ⟨insertPlaces_of_disabled, ?fault, ?block, fun names => ids_settlements, ?style⟩
  case fault =>
    intro layers fault failed
    rw [insertPlaces_eq_map, failed]
    rfl
  case block =>
    intro places drawn found
    refine ⟨ids_placesLayers drawn found, fun layers => ?_⟩
    rw [insertPlaces_eq_map, found]
    exact ⟨_, rfl, overlaid_arrange places layers⟩
  case style =>
    intro style drawn notWanted compiled
    obtain ⟨found, _, _⟩ := StyleDocument.compile_eq_ok compiled
    obtain ⟨layers, base, inserted⟩ := bind_eq_ok.mp found
    rw [if_pos drawn, insertPlaces_eq_map] at inserted
    obtain ⟨places, placesFound, arranged⟩ := map_eq_ok.mp inserted
    obtain ⟨below, names, above, rfl, parted⟩ := exists_parted base
    have notAbove : theme.places.any (·.renderAboveLabels) = false := by
      rwa [← Bool.not_eq_true, placesAbove_iff]
    rw [notAbove, parted.arrange_eq] at arranged
    exact ⟨below, names, above, places, parted, placesFound, arranged.symm⟩

/-- The parchment theme wants areas of places below their names, and that is where they lie. -/
theorem parchment_places_overlaid : ∃ style below names above places,
    StyleDocument.compile StyleDocument.parchmentWithPlaces StyleDocument.publishedWithPlaces =
      .ok style ∧
    StyleDocument.parchmentWithPlaces.Parted below names above ∧
    style.layers = below ++ places ++ names ++ above ∧
    places.map Layer.id = placesIds ∧
    Returns (Overlaid StyleDocument.parchmentWithPlaces places style.layers)
      (StyleDocument.parchmentWithPlaces.insertPlaces style.layers) := by
  obtain ⟨_, _, block, _, below⟩ :=
    places_overlaid StyleDocument.parchmentWithPlaces StyleDocument.publishedWithPlaces
  obtain ⟨style, compiled⟩ := exists_of_isOk
    (show (StyleDocument.compile StyleDocument.parchmentWithPlaces
      StyleDocument.publishedWithPlaces).isOk = true by decide +kernel)
  have notWanted : ¬StyleDocument.parchmentWithPlaces.PlacesAbove := by
    rw [← placesAbove_iff]
    decide
  obtain ⟨below, names, above, places, parted, found, same⟩ :=
    below style (by decide) notWanted compiled
  obtain ⟨ids, overlaid⟩ := block places rfl found
  exact ⟨style, below, names, above, places, compiled, parted, same, ids, overlaid style.layers⟩

end Theme

end MapStyle
