import MapStyle.Proofs.Style.Arranged
import MapStyle.Proofs.Style.Declared
import MapStyle.Proofs.Style.Separate

/-!
# Distinct ids

No two layers of a stack share an id, and the areas of places share none with the layers that they
are put between. So the check of ids never refuses a style, whatever its theme and addresses are.
-/

namespace MapStyle

set_option autoImplicit false

open Stack (Group)

variable {F : Type} [Arithmetic F] {theme : Theme F} {layers : List (Layer F)}

namespace StyleDocument

theorem duplicates_eq_nil_iff {ids : List String} : duplicates ids = [] ↔ ids.Nodup := by
  rw [List.nodup_iff_count_le_one]
  constructor
  · intro none id
    by_contra repeated
    have found : id ∈ duplicates ids := by
      simp only [duplicates, List.mem_mergeSort, List.mem_eraseDups, List.mem_filter,
        decide_eq_true_eq]
      exact ⟨List.count_pos_iff.mp (by omega), by omega⟩
    simp [none] at found
  · intro single
    have none : ids.filter (fun id => 1 < ids.count id) = [] := by
      simpa [List.filter_eq_nil_iff] using fun id _ => single id
    simp [duplicates, none]

omit [Arithmetic F] in
theorem checkIds_of_nodup {ids : List String} (distinct : ids.Nodup) :
    checkIds (F := F) ids = .ok () := by
  simp [checkIds, duplicates_eq_nil_iff.mpr distinct]

end StyleDocument

namespace Theme

theorem ids_sublist (theme : Theme F) (groups : List Group) :
    ((theme.drawnBy groups).map Layer.id).Sublist (groups.flatMap Group.ids) := by
  rw [drawnBy, List.map_flatMap]
  exact List.Sublist.flatMap_right groups fun group _ => Group.ids_drawn_sublist theme group

theorem nodup_ids_with_places (compiled : theme.layers = .ok layers) :
    ((layers ++ Group.places.drawn theme).map Layer.id).Nodup := by
  obtain ⟨_, rfl⟩ := layers_eq_ok.mp compiled
  have part := ids_sublist theme
    (Group.order theme.resolveBoundary.hideOverWater ++ [Group.places])
  simp only [drawnBy_append, drawnBy_cons, drawnBy_nil, List.append_nil] at part
  exact part.nodup (Group.nodup_ids _)

theorem nodup_ids (compiled : theme.layers = .ok layers) : (layers.map Layer.id).Nodup := by
  have distinct := nodup_ids_with_places compiled
  rw [List.map_append] at distinct
  exact distinct.of_append_left

theorem nodup_ids_insertPlaces {inserted : List (Layer F)} (compiled : theme.layers = .ok layers)
    (placed : theme.insertPlaces layers = .ok inserted) : (inserted.map Layer.id).Nodup := by
  rw [insertPlaces_eq_map] at placed
  obtain ⟨places, placesCompiled, rfl⟩ := map_eq_ok.mp placed
  obtain ⟨_, rfl⟩ := placesLayers_eq_ok.mp placesCompiled
  exact ((arrange_perm _ _ layers).map Layer.id).nodup_iff.mpr (nodup_ids_with_places compiled)

theorem separate_layers (theme : Theme F) : Separate theme.layers := by
  rw [layers, Stack.steps_eq_flatMap]
  refine DrawStep.AllSeparate.compile fun step member => ?_
  obtain ⟨group, _, drawn⟩ := List.mem_flatMap.mp member
  exact Group.allSeparate_steps theme group step drawn

theorem separate_insertPlaces (theme : Theme F) (layers : List (Layer F)) :
    Separate (theme.insertPlaces layers) := by
  rw [insertPlaces_eq_map]
  exact (Group.allSeparate_steps theme .places).compile.map

end Theme

namespace StyleDocument

variable {urls : StyleUrls}

theorem nodup_ids_layersOf (found : layersOf theme urls = .ok layers) :
    (layers.map Layer.id).Nodup := by
  obtain ⟨base, baseCompiled, arranged⟩ := bind_eq_ok.mp found
  split at arranged
  · exact Theme.nodup_ids_insertPlaces baseCompiled arranged
  · cases arranged
    exact Theme.nodup_ids baseCompiled

/-- Once its layers are there, nothing keeps a document from being compiled. -/
theorem succeeds_compile_iff :
    Succeeds (compile theme urls) ↔ Succeeds (layersOf theme urls) := by
  constructor
  · rintro ⟨style, compiled, _⟩
    exact ⟨style.layers, (compile_eq_ok compiled).1, trivial⟩
  · rintro ⟨layers, found, _⟩
    have checked := checkIds_of_nodup (F := F) (nodup_ids_layersOf found)
    exact ⟨_, bind_eq_ok.mpr ⟨layers, found, bind_eq_ok.mpr ⟨(), checked, rfl⟩⟩, trivial⟩

theorem separate_compile (theme : Theme F) (urls : StyleUrls) :
    Separate (compile theme urls) := by
  have layersSeparate : Separate (layersOf theme urls) :=
    theme.separate_layers.bind fun base => by simp [theme.separate_insertPlaces]
  refine Faults.bind layersSeparate fun layers found => ?_
  rw [checkIds_of_nodup (nodup_ids_layersOf found)]
  exact Faults.pure

end StyleDocument

/-- No two layers of a theme have the same id, nor do they with the areas of places between them.
So a style is never refused because of ids that several layers share. -/
theorem Theme.ids_distinct (theme : Theme F) :
    (∀ layers, theme.layers = .ok layers →
      (layers.map Layer.id).Nodup ∧
        ∀ inserted, theme.insertPlaces layers = .ok inserted → (inserted.map Layer.id).Nodup) ∧
    ∀ urls ids, StyleDocument.compile theme urls ≠ .error (.layer (.duplicateIds ids)) := by
  constructor
  · intro layers compiled
    exact ⟨nodup_ids compiled, fun inserted placed => nodup_ids_insertPlaces compiled placed⟩
  · intro urls ids refused
    exact StyleDocument.separate_compile theme urls _ refused ids rfl

/-- The parchment theme is drawn with areas of places, all of whose ids are distinct. -/
theorem Theme.parchment_ids_distinct : ∃ layers inserted,
    StyleDocument.parchmentWithPlaces.layers = .ok layers ∧
      StyleDocument.parchmentWithPlaces.insertPlaces layers = .ok inserted ∧
        (layers.map Layer.id).Nodup ∧ (inserted.map Layer.id).Nodup := by
  obtain ⟨inserted, found⟩ := exists_of_isOk
    (show (StyleDocument.parchmentWithPlaces.layers >>=
      StyleDocument.parchmentWithPlaces.insertPlaces).isOk = true by decide +kernel)
  obtain ⟨layers, compiled, placed⟩ := bind_eq_ok.mp found
  obtain ⟨distinct, distinctWithPlaces⟩ :=
    (ids_distinct StyleDocument.parchmentWithPlaces).1 layers compiled
  exact ⟨layers, inserted, compiled, placed, distinct, distinctWithPlaces inserted placed⟩

end MapStyle
