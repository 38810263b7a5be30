import Mathlib.Data.List.Forall2
import MapStyle.Fault

/-!
# Outcomes of computations

Three ways to speak of a computation that may fail: what holds of its value if it has one, that it
has a value of which something holds, and what holds of its fault if it ends with one. All of them
follow the computation step by step.
-/

namespace MapStyle

set_option autoImplicit false

variable {ε α β : Type}

/-! ### Lists item by item -/

section Related

variable {related : α → β → Prop} {items : List α} {results : List β}
  (each : List.Forall₂ related items results)

include each

theorem exists_item_of_forall₂ {result : β} (member : result ∈ results) :
    ∃ item ∈ items, related item result := by
  obtain ⟨index, inRange, rfl⟩ := List.getElem_of_mem member
  have first : index < items.length := each.length_eq ▸ inRange
  exact ⟨items[index], List.getElem_mem first, each.get first inRange⟩

theorem exists_result_of_forall₂ {item : α} (member : item ∈ items) :
    ∃ result ∈ results, related item result :=
  exists_item_of_forall₂ each.flip member

/-- What holds of each two items in their order holds of what they are related to. -/
theorem pairwise_of_forall₂ {before : α → α → Prop} {after : β → β → Prop}
    (ordered : items.Pairwise before)
    (carried : ∀ {item next result nextResult}, before item next → related item result →
      related next nextResult → after result nextResult) : results.Pairwise after := by
  rw [List.pairwise_iff_getElem] at ordered ⊢
  intro index next inRange nextInRange lt
  have first := each.length_eq ▸ inRange
  have second := each.length_eq ▸ nextInRange
  exact carried (ordered index next first second lt) (each.get first inRange)
    (each.get second nextInRange)

end Related

/-! ### Values -/

theorem bind_eq_ok {outcome : Except ε α} {next : α → Except ε β} {result : β} :
    outcome >>= next = .ok result ↔ ∃ value, outcome = .ok value ∧ next value = .ok result := by
  cases outcome with
  | error fault =>
      constructor
      · intro impossible
        cases impossible
      · rintro ⟨value, impossible, _⟩
        cases impossible
  | ok found =>
      constructor
      · intro same
        exact ⟨found, rfl, same⟩
      · rintro ⟨value, same, rest⟩
        cases same
        exact rest

theorem exists_of_isOk {outcome : Except ε α} (isOk : outcome.isOk = true) :
    ∃ value, outcome = .ok value := by
  cases outcome with
  | error fault => cases isOk
  | ok value => exact ⟨value, rfl⟩

theorem map_eq_ok {outcome : Except ε α} {change : α → β} {result : β} :
    outcome.map change = .ok result ↔ ∃ value, outcome = .ok value ∧ change value = result := by
  cases outcome with
  | error fault => simp [Except.map]
  | ok found => simp [Except.map]

/-- A computation with a state goes on from the state in which its first part has ended. -/
theorem run_bind {σ : Type} (first : ExceptT ε (StateM σ) α) (next : α → ExceptT ε (StateM σ) β)
    (state : σ) :
    (first >>= next).run state =
      match first.run state with
      | (.ok value, between) => (next value).run between
      | (.error fault, between) => (.error fault, between) := by
  show (ExceptT.bind first next).run state = _
  simp only [ExceptT.bind, ExceptT.run, ExceptT.mk, bind, StateT.bind]
  rcases first state with ⟨_ | _, between⟩ <;> rfl

/-- What a list of computations yields is what each of them yields. -/
theorem mapM_eq_ok {step : α → Except ε β} {items : List α} {results : List β} :
    items.mapM step = .ok results ↔
      List.Forall₂ (fun item result => step item = .ok result) items results := by
  induction items generalizing results with
  | nil =>
      rw [List.mapM_nil, List.forall₂_nil_left_iff]
      constructor
      · intro same
        cases same
        rfl
      · intro same
        rw [same]
        rfl
  | cons item rest ih =>
      rw [List.mapM_cons, bind_eq_ok]
      constructor
      · rintro ⟨first, firstFound, others⟩
        obtain ⟨tail, tailFound, same⟩ := bind_eq_ok.mp others
        cases same
        exact .cons firstFound (ih.mp tailFound)
      · intro related
        cases related with
        | cons firstFound tailFound =>
            exact ⟨_, firstFound, bind_eq_ok.mpr ⟨_, ih.mpr tailFound, rfl⟩⟩

/-- Each item has a value among all that a list of computations yields. -/
theorem exists_mem_of_mapM {step : α → Except ε β} {items : List α} {results : List β} {item : α}
    (found : items.mapM step = .ok results) (member : item ∈ items) :
    ∃ result ∈ results, step item = .ok result :=
  exists_result_of_forall₂ (mapM_eq_ok.mp found) member

theorem mapM_eq_ok_map {step : α → Except ε β} {items : List α} {result : α → β}
    (each : ∀ item ∈ items, step item = .ok (result item)) :
    items.mapM step = .ok (items.map result) :=
  mapM_eq_ok.mpr (List.forall₂_map_right_iff.mpr (List.forall₂_same.mpr each))

theorem mapM_append_singleton_eq_ok {step : α → Except ε β} {items : List α} {item : α}
    {results : List β} :
    (items ++ [item]).mapM step = .ok results ↔
      ∃ front last, items.mapM step = .ok front ∧ step item = .ok last ∧
        front ++ [last] = results := by
  rw [List.mapM_append, bind_eq_ok]
  simp only [List.mapM_cons, List.mapM_nil, bind_eq_ok, pure, Except.pure, Except.ok.injEq]
  constructor
  · rintro ⟨front, frontFound, _, ⟨last, lastFound, _, rfl, rfl⟩, rfl⟩
    exact ⟨front, last, frontFound, lastFound, rfl⟩
  · rintro ⟨front, last, frontFound, lastFound, rfl⟩
    exact ⟨front, frontFound, [last], ⟨last, lastFound, [], rfl, rfl⟩, rfl⟩

/-- What holds of the value of a computation, if it has one. -/
def Ensures (holds : α → Prop) (outcome : Except ε α) : Prop :=
  ∀ value, outcome = .ok value → holds value

namespace Ensures

variable {holds : α → Prop} {wanted : β → Prop}

@[simp] theorem ok_iff {value : α} : Ensures holds (.ok value : Except ε α) ↔ holds value := by
  constructor
  · intro ensured
    exact ensured value rfl
  · rintro held found same
    cases same
    exact held

@[simp] theorem pure_iff {value : α} : Ensures holds (pure value : Except ε α) ↔ holds value :=
  ok_iff

@[simp] theorem error {fault : ε} : Ensures holds (.error fault : Except ε α) := by
  rintro value impossible
  cases impossible

instance [DecidablePred holds] (outcome : Except ε α) : Decidable (Ensures holds outcome) :=
  match outcome with
  | .ok value => decidable_of_iff (holds value) ok_iff.symm
  | .error _ => isTrue error

theorem bind {outcome : Except ε α} {next : α → Except ε β}
    (following : ∀ value, outcome = .ok value → Ensures wanted (next value)) :
    Ensures wanted (outcome >>= next) := by
  intro result found
  obtain ⟨value, outcomeFound, nextFound⟩ := bind_eq_ok.mp found
  exact following value outcomeFound result nextFound

/-- What is known of a value is passed on to the computation that uses it. -/
theorem andThen {outcome : Except ε α} {next : α → Except ε β} (known : Ensures holds outcome)
    (following : ∀ value, holds value → Ensures wanted (next value)) :
    Ensures wanted (outcome >>= next) :=
  bind fun value found => following value (known value found)

theorem map {outcome : Except ε α} {change : α → β}
    (known : Ensures (fun value => wanted (change value)) outcome) :
    Ensures wanted (outcome.map change) := by
  intro result found
  obtain ⟨value, outcomeFound, rfl⟩ := map_eq_ok.mp found
  exact known value outcomeFound

theorem mono {outcome : Except ε α} {weaker : α → Prop} (known : Ensures holds outcome)
    (implied : ∀ value, holds value → weaker value) : Ensures weaker outcome := by
  intro value found
  exact implied value (known value found)

theorem mapM {step : α → Except ε β} {items : List α} {related : α → β → Prop}
    (each : ∀ item ∈ items, Ensures (related item) (step item)) :
    Ensures (List.Forall₂ related items) (items.mapM step) := by
  intro results found
  have yielded := mapM_eq_ok.mp found
  clear found
  induction yielded with
  | nil => exact .nil
  | cons itemFound _ ih =>
      apply List.Forall₂.cons
      · exact each _ List.mem_cons_self _ itemFound
      · exact ih fun item member => each item (List.mem_cons_of_mem _ member)

/-- What each step yields at most holds of all that is yielded. -/
theorem forall_mem_mapM {step : α → Except ε β} {items : List α} {results : List β}
    (each : ∀ item ∈ items, Ensures wanted (step item)) (found : items.mapM step = .ok results) :
    ∀ result ∈ results, wanted result := by
  have related := mapM each results found
  clear found
  induction related with
  | nil => simp
  | cons held _ ih =>
      have restHold := ih fun item member => each item (List.mem_cons_of_mem _ member)
      exact List.forall_mem_cons.mpr ⟨held, restHold⟩

/-- What holds at the start and is kept by every step holds at the end. -/
theorem foldlM {step : β → α → Except ε β} {items : List α} {start : β} (first : wanted start)
    (each : ∀ state item, wanted state → Ensures wanted (step state item)) :
    Ensures wanted (items.foldlM step start) := by
  induction items generalizing start with
  | nil => exact pure_iff.mpr first
  | cons item rest ih =>
      rw [List.foldlM_cons]
      exact andThen (each start item first) fun _ held => ih held

end Ensures

/-- A computation has a value, and something holds of it. -/
def Returns (holds : α → Prop) (outcome : Except ε α) : Prop :=
  ∃ value, outcome = .ok value ∧ holds value

namespace Returns

variable {holds : α → Prop} {wanted : β → Prop}

@[simp] theorem ok_iff {value : α} : Returns holds (.ok value : Except ε α) ↔ holds value := by
  simp [Returns]

@[simp] theorem pure_iff {value : α} : Returns holds (pure value : Except ε α) ↔ holds value :=
  ok_iff

theorem bind {outcome : Except ε α} {next : α → Except ε β} (known : Returns holds outcome)
    (following : ∀ value, holds value → Returns wanted (next value)) :
    Returns wanted (outcome >>= next) := by
  obtain ⟨value, found, held⟩ := known
  obtain ⟨result, resultFound, resultHeld⟩ := following value held
  exact ⟨result, bind_eq_ok.mpr ⟨value, found, resultFound⟩, resultHeld⟩

theorem mono {outcome : Except ε α} {weaker : α → Prop} (known : Returns holds outcome)
    (implied : ∀ value, holds value → weaker value) : Returns weaker outcome := by
  obtain ⟨value, found, held⟩ := known
  exact ⟨value, found, implied value held⟩

/-- There is no other value than the one of which something holds. -/
theorem ensures {outcome : Except ε α} (known : Returns holds outcome) : Ensures holds outcome := by
  obtain ⟨value, found, held⟩ := known
  intro other otherFound
  cases found.symm.trans otherFound
  exact held

theorem mapM {step : α → Except ε β} {items : List α} {related : α → β → Prop}
    (each : ∀ item ∈ items, Returns (related item) (step item)) :
    Returns (List.Forall₂ related items) (items.mapM step) := by
  induction items with
  | nil => exact ⟨[], rfl, .nil⟩
  | cons item rest ih =>
      rw [List.mapM_cons]
      apply bind (each item List.mem_cons_self)
      intro first firstHeld
      apply bind (ih fun other member => each other (List.mem_cons_of_mem item member))
      intro others othersHeld
      exact pure_iff.mpr (.cons firstHeld othersHeld)

/-- What is read off each result is what is read off its item. -/
theorem mapM_map {γ : Type} {step : α → Except ε β} {items : List α} (ofItem : α → γ)
    (ofResult : β → γ)
    (each : ∀ item ∈ items, Returns (fun result => ofResult result = ofItem item) (step item)) :
    Returns (fun results => results.map ofResult = items.map ofItem) (items.mapM step) := by
  apply (mapM each).mono
  intro results related
  clear each
  induction related with
  | nil => rfl
  | cons same _ ih => rw [List.map_cons, List.map_cons, same, ih]

end Returns

/-- A computation has a value. -/
abbrev Succeeds (outcome : Except ε α) : Prop :=
  Returns (fun _ => True) outcome

theorem succeeds_iff {outcome : Except ε α} : Succeeds outcome ↔ ∃ value, outcome = .ok value := by
  simp [Returns]

/-- If every computation of a list has a value, there are as many values. -/
theorem Returns.mapM_length {step : α → Except ε β} {items : List α}
    (each : ∀ item ∈ items, Succeeds (step item)) :
    Returns (fun results => results.length = items.length) (items.mapM step) :=
  (mapM each).mono fun _ related => related.length_eq.symm

theorem Returns.succeeds {holds : α → Prop} {outcome : Except ε α}
    (returns : Returns holds outcome) : Succeeds outcome :=
  returns.mono fun _ _ => trivial

theorem succeeds_bind_iff {outcome : Except ε α} {next : α → Except ε β} :
    Succeeds (outcome >>= next) ↔ ∃ value, outcome = .ok value ∧ Succeeds (next value) := by
  constructor
  · intro succeeds
    obtain ⟨result, found⟩ := succeeds_iff.mp succeeds
    obtain ⟨value, first, second⟩ := bind_eq_ok.mp found
    exact ⟨value, first, succeeds_iff.mpr ⟨result, second⟩⟩
  · rintro ⟨value, rfl, succeeds⟩
    exact succeeds

/-- A list of computations yields results exactly if each of them does. -/
theorem succeeds_mapM_iff {step : α → Except ε β} {items : List α} :
    Succeeds (items.mapM step) ↔ ∀ item ∈ items, Succeeds (step item) := by
  constructor
  · intro succeeds
    obtain ⟨results, found⟩ := succeeds_iff.mp succeeds
    have yielded := mapM_eq_ok.mp found
    clear succeeds found
    induction yielded with
    | nil => simp
    | cons itemFound _ ih =>
        exact List.forall_mem_cons.mpr ⟨succeeds_iff.mpr ⟨_, itemFound⟩, ih⟩
  · intro each
    exact (Returns.mapM each).succeeds

theorem succeeds_of_isOk {outcome : Except ε α} (isOk : outcome.isOk = true) : Succeeds outcome :=
  succeeds_iff.mpr (exists_of_isOk isOk)

/-- What the value of a computation ensures is returned by one that has a value. -/
theorem Succeeds.returns {holds : α → Prop} {outcome : Except ε α} (succeeds : Succeeds outcome)
    (ensures : Ensures holds outcome) : Returns holds outcome := by
  obtain ⟨value, found⟩ := succeeds_iff.mp succeeds
  exact ⟨value, found, ensures value found⟩

theorem Succeeds.map {outcome : Except ε α} {change : α → β} (succeeds : Succeeds outcome) :
    Succeeds (outcome.map change) := by
  obtain ⟨value, found⟩ := succeeds_iff.mp succeeds
  exact succeeds_iff.mpr ⟨change value, map_eq_ok.mpr ⟨value, found, rfl⟩⟩

theorem succeeds_map_iff {outcome : Except ε α} {change : α → β} :
    Succeeds (outcome.map change) ↔ Succeeds outcome := by
  cases outcome <;> simp [Except.map, Returns]

/-- What holds of the fault of a computation, if it ends with one. -/
def Faults (holds : ε → Prop) (outcome : Except ε α) : Prop :=
  ∀ fault, outcome = .error fault → holds fault

namespace Faults

variable {holds : ε → Prop}

@[simp] theorem ok {value : α} : Faults holds (.ok value : Except ε α) := by
  rintro fault impossible
  cases impossible

@[simp] theorem pure {value : α} : Faults holds (pure value : Except ε α) :=
  ok

@[simp] theorem error_iff {fault : ε} : Faults holds (.error fault : Except ε α) ↔ holds fault := by
  constructor
  · intro faults
    exact faults fault rfl
  · rintro held found same
    cases same
    exact held

theorem bind {outcome : Except ε α} {next : α → Except ε β} (first : Faults holds outcome)
    (following : ∀ value, outcome = .ok value → Faults holds (next value)) :
    Faults holds (outcome >>= next) := by
  cases outcome with
  | error fault => exact error_iff.mpr (first fault rfl)
  | ok value => exact following value rfl

theorem map {outcome : Except ε α} {change : α → β} (faults : Faults holds outcome) :
    Faults holds (outcome.map change) := by
  cases outcome with
  | error fault => exact error_iff.mpr (faults fault rfl)
  | ok value => exact ok

theorem mapM {step : α → Except ε β} {items : List α}
    (each : ∀ item ∈ items, Faults holds (step item)) : Faults holds (items.mapM step) := by
  induction items with
  | nil => exact pure
  | cons item rest ih =>
      rw [List.mapM_cons]
      apply bind (each item List.mem_cons_self)
      intro _ _
      apply bind (ih fun other member => each other (List.mem_cons_of_mem item member))
      intro _ _
      exact pure

theorem foldlM {step : β → α → Except ε β} {items : List α} {start : β}
    (each : ∀ state item, Faults holds (step state item)) :
    Faults holds (items.foldlM step start) := by
  induction items generalizing start with
  | nil => exact pure
  | cons item rest ih =>
      rw [List.foldlM_cons]
      exact bind (each start item) fun _ _ => ih

theorem mono {outcome : Except ε α} {weaker : ε → Prop} (faults : Faults holds outcome)
    (implied : ∀ fault, holds fault → weaker fault) : Faults weaker outcome := by
  intro fault found
  exact implied fault (faults fault found)

end Faults

/-- Nothing is to be said of the fault of a computation without one. -/
theorem Succeeds.faults {holds : ε → Prop} {outcome : Except ε α} (succeeds : Succeeds outcome) :
    Faults holds outcome := by
  obtain ⟨value, rfl⟩ := succeeds_iff.mp succeeds
  exact Faults.ok

/-! ### Settings and numbers inside a compiler step -/

theorem require_eq_ok {F : Type} {setting : String} {value : Option α} {found : α} :
    (Result.require setting value : Result F α) = .ok found ↔ value = some found := by
  cases value with
  | none => simp [Result.require, Result.ofTheme]
  | some given => simp [Result.require]

theorem lift_eq_ok {F : Type} {outcome : Except NumberError α} {value : α} :
    (liftM outcome : Result F α) = .ok value ↔ outcome = .ok value := by
  show Result.ofNumber outcome = .ok value ↔ _
  cases outcome <;> simp [Result.ofNumber]

@[simp] theorem ensures_lift {F : Type} {holds : α → Prop} {outcome : Except NumberError α} :
    Ensures holds (liftM outcome : Result F α) ↔ Ensures holds outcome := by
  simp only [Ensures, lift_eq_ok]

@[simp] theorem returns_lift {F : Type} {holds : α → Prop} {outcome : Except NumberError α} :
    Returns holds (liftM outcome : Result F α) ↔ Returns holds outcome := by
  simp only [Returns, lift_eq_ok]

end MapStyle
