import Mathlib.Data.List.Basic
import MapStyle.Entries

/-!
# Entries that are put one after the other

What is found among ordered entries into which others have been put: the entries that were there
under other keys, and of those that were put the last one for each key.
-/

namespace MapStyle.Entries

set_option autoImplicit false

section Put

variable {K V : Type} [BEq K] {key : K} {value : V} {entries : List (K × V)} {entry : K × V}

theorem mem_put (member : entry ∈ put key value entries) :
    entry = (key, value) ∨ entry ∈ entries := by
  induction entries with
  | nil => exact .inl (List.mem_singleton.mp member)
  | cons first rest ih =>
      obtain ⟨other, old⟩ := first
      rw [put] at member
      split at member
      · obtain same | inRest := List.mem_cons.mp member
        · exact .inl same
        · exact .inr (List.mem_cons_of_mem _ inRest)
      · obtain same | inRest := List.mem_cons.mp member
        · exact .inr (same ▸ List.mem_cons_self)
        · obtain same | inOld := ih inRest
          · exact .inl same
          · exact .inr (List.mem_cons_of_mem _ inOld)

variable [LawfulBEq K]

theorem mem_put_of_ne (different : entry.1 ≠ key) :
    entry ∈ put key value entries ↔ entry ∈ entries := by
  induction entries with
  | nil =>
      have new : entry ≠ (key, value) := fun isNew => different (congrArg Prod.fst isNew)
      simp [put, new]
  | cons first rest ih =>
      obtain ⟨other, old⟩ := first
      by_cases same : key = other
      · subst same
        have new : entry ≠ (key, value) := fun isNew => different (congrArg Prod.fst isNew)
        have notOld : entry ≠ (key, old) := fun isOld => different (congrArg Prod.fst isOld)
        simp [put, new, notOld]
      · simp [put, same, ih]

theorem mem_keys_put {found : K} :
    found ∈ (put key value entries).map Prod.fst ↔
      found = key ∨ found ∈ entries.map Prod.fst := by
  induction entries with
  | nil => simp [put]
  | cons first rest ih =>
      obtain ⟨other, old⟩ := first
      by_cases same : key = other
      · simp [put, same]
      · simp only [put, beq_iff_eq, same, if_false, List.map_cons, List.mem_cons, ih]
        exact or_left_comm

/-- Putting an entry gives no key twice. -/
theorem nodup_keys_put (distinct : (entries.map Prod.fst).Nodup) :
    ((put key value entries).map Prod.fst).Nodup := by
  induction entries with
  | nil => simp [put]
  | cons first rest ih =>
      obtain ⟨other, old⟩ := first
      obtain ⟨fresh, restDistinct⟩ := List.nodup_cons.mp distinct
      by_cases same : key = other
      · subst same
        simpa [put] using distinct
      · simp only [put, beq_iff_eq, same, if_false, List.map_cons]
        refine List.nodup_cons.mpr ⟨?_, ih restDistinct⟩
        rw [mem_keys_put]
        rintro (isKey | inRest)
        · exact same isKey.symm
        · exact fresh inRest

end Put

/-! ### One entry for each of several items -/

section Items

variable {A K V : Type} [BEq K] {keyOf : A → K} {valueOf : A → V} {items : List A}
  {entries : List (K × V)} {entry : K × V}

theorem mem_foldl_put
    (member : entry ∈ items.foldl (fun found item => put (keyOf item) (valueOf item) found)
      entries) :
    entry ∈ entries ∨ ∃ item ∈ items, entry = (keyOf item, valueOf item) := by
  induction items generalizing entries with
  | nil => exact .inl member
  | cons item rest ih =>
      obtain inPut | ⟨later, inRest, same⟩ := ih member
      · obtain same | old := mem_put inPut
        · exact .inr ⟨item, List.mem_cons_self, same⟩
        · exact .inl old
      · exact .inr ⟨later, List.mem_cons_of_mem _ inRest, same⟩

variable [LawfulBEq K]

/-- Entries under other keys stay. -/
theorem mem_foldl_put_of_ne (different : ∀ item ∈ items, entry.1 ≠ keyOf item) :
    entry ∈ items.foldl (fun found item => put (keyOf item) (valueOf item) found) entries ↔
      entry ∈ entries := by
  induction items generalizing entries with
  | nil => rfl
  | cons item rest ih =>
      obtain ⟨first, others⟩ := List.forall_mem_cons.mp different
      exact (ih others).trans (mem_put_of_ne first)

theorem mem_keys_foldl_put {key : K} :
    key ∈ (items.foldl (fun found item => put (keyOf item) (valueOf item) found) entries).map
        Prod.fst ↔
      key ∈ items.map keyOf ∨ key ∈ entries.map Prod.fst := by
  induction items generalizing entries with
  | nil => simp
  | cons item rest ih =>
      rw [List.foldl_cons, ih, mem_keys_put, List.map_cons, List.mem_cons]
      exact or_left_comm.trans or_assoc.symm

theorem nodup_keys_foldl_put (distinct : (entries.map Prod.fst).Nodup) :
    ((items.foldl (fun found item => put (keyOf item) (valueOf item) found) entries).map
      Prod.fst).Nodup := by
  induction items generalizing entries with
  | nil => exact distinct
  | cons item rest ih => exact ih (nodup_keys_put distinct)

/-- Entries under new keys go behind all others, in their order. -/
theorem foldl_put_of_nodup (distinct : (entries.map Prod.fst ++ items.map keyOf).Nodup) :
    items.foldl (fun found item => put (keyOf item) (valueOf item) found) entries =
      entries ++ items.map fun item => (keyOf item, valueOf item) := by
  induction items generalizing entries with
  | nil => simp
  | cons item rest ih =>
      have fresh : keyOf item ∉ entries.map Prod.fst := by
        have apart := (List.nodup_append.mp distinct).2.2
        exact fun member => apart _ member _ List.mem_cons_self rfl
      have absent : entries.lookup (keyOf item) = none := by
        rw [List.lookup_eq_none_iff]
        intro entry member
        exact bne_iff_ne.mpr fun same => fresh (same ▸ List.mem_map_of_mem member)
      rw [List.foldl_cons, put_of_lookup_none _ _ absent, ih]
      · simp
      · simpa using distinct

end Items

/-! ### Entries merged by their keys -/

section Merge

variable {K V : Type} [BEq K] {entries : List (K × V)} {entry : K × V}

theorem mem_merge (member : entry ∈ merge entries) : entry ∈ entries := by
  have put : entry ∈ ([] : List (K × V)) ∨ ∃ own ∈ entries, entry = (own.1, own.2) :=
    mem_foldl_put member
  obtain impossible | ⟨_, isOwn, rfl⟩ := put
  · cases impossible
  · exact isOwn

/-- Entries whose keys all differ are merged into themselves. -/
theorem merge_of_nodup [LawfulBEq K] (distinct : (entries.map Prod.fst).Nodup) :
    merge entries = entries := by
  have apart : (([] : List (K × V)).map Prod.fst ++ entries.map fun entry => entry.1).Nodup := by
    simpa using distinct
  have merged : merge entries = [] ++ entries.map fun entry => (entry.1, entry.2) :=
    foldl_put_of_nodup apart
  simpa using merged

end Merge

end MapStyle.Entries
