import Mathlib.Logic.ExistsUnique
import MapStyle.Layer.PoiLabel
import MapStyle.Proofs.Expr.Verdict
import MapStyle.Proofs.Number.Laws
import MapStyle.Proofs.Road.Group

/-!
# Tiers of points of interest

A point of interest is in the tier of its rank: ranks one and two have a tier each, all ranks after
them share the third one, and a point without a rank counts as one of rank one. The filters of a
category ask for the tier in every way in which they recognise the category, so a point that one of
them lets pass is let pass by exactly one.
-/

namespace MapStyle

set_option autoImplicit false

open MapStyle.Expr (Decides decides_allOf decides_allOf_of_false decides_anyOf decides_equal
  decides_greater decides_has decides_of_meaning)

variable {F : Type} [Arithmetic F]

/-- A rank is an integer from one on; a feature need not have one. -/
def Feature.RankedFromOne (feature : Feature F) : Prop :=
  ∀ value, feature "rank" = some value →
    ∃ (number : Number F) (rank : Int), value = .number number ∧ number.isFlag = false ∧
      number.whole? = some rank ∧ 1 ≤ rank

/-- The categories that are split into tiers. -/
def PoiCategory.tiered : List PoiCategory := [.hospital, .museum, .rail, .school]

/-- The filters of the categories that are split into tiers. -/
def PoiCategory.tierFilter? : PoiCategory → Option (PoiLabel.Tier → Expr F)
  | .hospital => some PoiLabel.hospitalFilter
  | .museum => some PoiLabel.museumFilter
  | .rail => some PoiLabel.railFilter
  | .school => some PoiLabel.schoolFilter
  | _ => none

/-- A quantity is compared as a number. -/
theorem Number.isSame_of_quantity {number : Number F} {other : Int}
    (quantity : number.isFlag = false) :
    (Json.number number).isSame (.number (.int other)) = number.same (.int other) := by
  cases number with
  | flag value => cases quantity
  | int value => rfl
  | real value => rfl

namespace PoiLabel

variable {feature : Feature F}

namespace Tier

/-- Whether a rank belongs to a tier. -/
def covers (tier : Tier) (rank : Int) : Bool :=
  match tier with
  | .first => rank == 1
  | .second => rank == 2
  | .others => 2 < rank

/-- Every rank from one on belongs to one tier. -/
theorem exists_covers {rank : Int} (fromOne : 1 ≤ rank) :
    ∃ own : Tier, ∀ tier : Tier, tier.covers rank = decide (tier = own) := by
  obtain one | two | more : rank = 1 ∨ rank = 2 ∨ 2 < rank := by omega
  · refine ⟨.first, fun tier => ?_⟩
    cases tier <;> simp [covers, one]
  · refine ⟨.second, fun tier => ?_⟩
    cases tier <;> simp [covers, two]
  · refine ⟨.others, fun tier => ?_⟩
    cases tier <;> simp [covers] <;> omega

theorem decides_rank (feature : Feature F) (rank : Int) :
    (Expr.equal (.get "rank") (.number (.int rank))).Decides feature []
      (((feature "rank").getD .null).isSame (.number (.int rank))) :=
  decides_equal rfl

/-- A feature without a rank is in the first tier and in no other one. -/
theorem decides_unranked (unranked : feature "rank" = none) (tier : Tier) :
    tier.filter.Decides feature [] (decide (tier = .first)) := by
  have noRank : (Expr.has "rank").Decides feature [] (feature "rank").isSome := decides_has
  have noNumber := decides_rank feature
  rw [unranked] at noRank noNumber
  cases tier with
  | first => exact decides_anyOf (.cons noRank.negated (.cons (noNumber 1) .nil))
  | second => exact noNumber 2
  | others => exact decides_allOf_of_false noRank

/-- A feature with a rank is in the tier that the rank belongs to. -/
theorem decides_ranked [OrderedArithmetic F] {number : Number F} {rank : Int}
    (ranked : feature "rank" = some (.number number)) (quantity : number.isFlag = false)
    (isRank : number.whole? = some rank) (tier : Tier) :
    tier.filter.Decides feature [] (tier.covers rank) := by
  have hasRank : (Expr.has "rank").Decides feature [] (feature "rank").isSome := decides_has
  have isNumber (other : Int) : (Expr.equal (.get "rank") (.number (.int other))).Decides feature []
      (decide (rank = other)) := by
    have decided := decides_rank feature other
    rw [ranked, Option.getD_some, Number.isSame_of_quantity quantity,
      Number.same_int_of_whole? isRank] at decided
    exact decided
  have found : (Expr.get "rank").valueIn feature [] = some (.number number) := by
    rw [Expr.valueIn_get, ranked, Option.getD_some]
  have above := decides_greater found (rfl : (2 : Expr F).valueIn feature [] = _) quantity rfl
  rw [Number.int_lt_of_whole? isRank] at above
  rw [ranked] at hasRank
  cases tier with
  | first =>
      have decided := decides_anyOf (.cons hasRank.negated (.cons (isNumber 1) .nil))
      rwa [List.any_cons, List.any_cons, List.any_nil, Bool.or_false] at decided
  | second => exact isNumber 2
  | others =>
      have decided := decides_allOf (.cons hasRank (.cons above .nil))
      rwa [List.all_cons, List.all_cons, List.all_nil, Bool.and_true] at decided

/-- Every feature is in one tier. -/
theorem exists_tier [OrderedArithmetic F] (ranked : feature.RankedFromOne) :
    ∃ own : Tier, ∀ tier : Tier, tier.filter.Decides feature [] (decide (tier = own)) := by
  cases rank : feature "rank" with
  | none => exact ⟨.first, decides_unranked rank⟩
  | some value =>
      obtain ⟨number, whole, rfl, quantity, isRank, fromOne⟩ := ranked value rank
      obtain ⟨own, covered⟩ := exists_covers fromOne
      refine ⟨own, fun tier => ?_⟩
      rw [← covered]
      exact decides_ranked rank quantity isRank tier

end Tier

/-! ### Categories and tiers -/

/-- A condition that comes to a verdict on every feature. -/
def Clear (condition : Expr F) : Prop :=
  ∀ feature, ∃ truth, condition.Decides feature [] truth

theorem clear_class {name : String} : Clear (hasClass name : Expr F) :=
  fun _ => ⟨_, decides_of_meaning Expr.meaning_equal_text⟩

theorem clear_subclass {name : String} : Clear (hasSubclass name : Expr F) :=
  fun _ => ⟨_, decides_of_meaning Expr.meaning_equal_text⟩

theorem clear_isOneOf {property : String} {values : List String} :
    Clear (Expr.isOneOf property values : Expr F) :=
  fun _ => ⟨_, decides_of_meaning Expr.meaning_isOneOf_any⟩

theorem clear_subclassOrNone {name : String} : Clear (hasSubclassOrNone name : Expr F) := by
  intro feature
  obtain ⟨_, decided⟩ := clear_subclass (F := F) feature
  exact ⟨_, decides_anyOf (.cons decides_has.negated (.cons decided .nil))⟩

/-- A filter that lets a feature pass by what it is and by its tier. -/
def AsksForTier (filter : Tier → Expr F) : Prop :=
  ∀ feature, ∃ fits : Bool, ∀ (tier : Tier) (inTier : Bool),
    tier.filter.Decides feature [] inTier → (filter tier).Decides feature [] (fits && inTier)

theorem asksForTier_allOf {conditions : List (Expr F)}
    (clear : ∀ condition ∈ conditions, Clear condition) :
    AsksForTier fun tier => Expr.allOf (conditions ++ [tier.filter]) := by
  intro feature
  have exists_truths : ∃ truths, List.Forall₂ (Decides feature []) conditions truths := by
    induction conditions with
    | nil => exact ⟨[], .nil⟩
    | cons condition rest ih =>
        obtain ⟨firstClear, restClear⟩ := List.forall_mem_cons.mp clear
        obtain ⟨truth, first⟩ := firstClear feature
        obtain ⟨truths, others⟩ := ih restClear
        exact ⟨truth :: truths, .cons first others⟩
  obtain ⟨truths, decided⟩ := exists_truths
  refine ⟨truths.all id, fun tier inTier tierDecided => ?_⟩
  have all := decides_allOf (List.rel_append decided (.cons tierDecided .nil))
  simpa using all

/-- A filter with several ways to recognise a feature, each of which asks for the tier. -/
theorem asksForTier_anyOf (alternatives : List (List (Expr F)))
    (clear : ∀ conditions ∈ alternatives, ∀ condition ∈ conditions, Clear condition) :
    AsksForTier fun tier => Expr.anyOf (alternatives.map fun conditions =>
      Expr.allOf (conditions ++ [tier.filter])) := by
  intro feature
  have exists_fits : ∃ fits : List Bool, ∀ (tier : Tier) (inTier : Bool),
      tier.filter.Decides feature [] inTier →
        List.Forall₂ (Decides feature [])
          (alternatives.map fun conditions => Expr.allOf (conditions ++ [tier.filter]))
          (fits.map fun fit => fit && inTier) := by
    induction alternatives with
    | nil => exact ⟨[], fun _ _ _ => .nil⟩
    | cons conditions rest ih =>
        obtain ⟨firstClear, restClear⟩ := List.forall_mem_cons.mp clear
        obtain ⟨fit, firstDecided⟩ := asksForTier_allOf firstClear feature
        obtain ⟨fits, othersDecided⟩ := ih restClear
        exact ⟨fit :: fits, fun tier inTier decided =>
          .cons (firstDecided tier inTier decided) (othersDecided tier inTier decided)⟩
  obtain ⟨fits, decided⟩ := exists_fits
  refine ⟨fits.any id, fun tier inTier tierDecided => ?_⟩
  have any := decides_anyOf (decided tier inTier tierDecided)
  have truth : (fits.map fun fit => fit && inTier).any id = (fits.any id && inTier) := by
    cases inTier <;> simp
  rwa [truth] at any

theorem asksForTier_hospital : AsksForTier (hospitalFilter : Tier → Expr F) :=
  asksForTier_anyOf
    [[Expr.isOneOf "class" ["healthcare"], hasSubclass "hospital"],
      [hasClass "hospital", hasSubclassOrNone "hospital"],
      [Expr.isOneOf "class" ["amenity"], hasSubclass "hospital"]]
    (by simp [clear_isOneOf, clear_class, clear_subclass, clear_subclassOrNone])

theorem asksForTier_museum : AsksForTier (museumFilter : Tier → Expr F) :=
  asksForTier_anyOf
    [[Expr.isOneOf "class" ["entertainment", "tourism"],
        Expr.isOneOf "subclass" ["museum", "gallery"]],
      [hasClass "museum"]]
    (by simp [clear_isOneOf, clear_class])

theorem asksForTier_rail : AsksForTier (railFilter : Tier → Expr F) :=
  asksForTier_anyOf
    [[hasClass "railway", hasSubclass "station"],
      [Expr.isOneOf "class" ["transport"], Expr.isOneOf "subclass" stationSubclasses]]
    (by simp [clear_isOneOf, clear_class, clear_subclass])

theorem asksForTier_school : AsksForTier (schoolFilter : Tier → Expr F) := by
  have clear : ∀ condition ∈ [hasClass "college",
      Expr.isOneOf "subclass" ["university", "college"]], Clear (condition : Expr F) := by
    simp [clear_isOneOf, clear_class]
  exact asksForTier_allOf clear

/-- Every category that is split into tiers asks for the tier wherever it recognises a feature. -/
theorem asksForTier_of_tierFilter? {category : PoiCategory} {filter : Tier → Expr F}
    (found : category.tierFilter? = some filter) : AsksForTier filter := by
  cases category with
  | hospital =>
      cases found
      exact asksForTier_hospital
  | museum =>
      cases found
      exact asksForTier_museum
  | rail =>
      cases found
      exact asksForTier_rail
  | school =>
      cases found
      exact asksForTier_school
  | _ => cases found

/-- A feature that passes a filter for some tier passes it for no other one. -/
theorem AsksForTier.existsUnique [OrderedArithmetic F] {filter : Tier → Expr F}
    (asks : AsksForTier filter) (ranked : feature.RankedFromOne)
    (passed : ∃ tier, (filter tier).passes feature = true) :
    ∃! tier, (filter tier).passes feature = true := by
  obtain ⟨fits, decided⟩ := asks feature
  obtain ⟨own, inTier⟩ := Tier.exists_tier ranked
  have passes_iff (tier : Tier) :
      (filter tier).passes feature = (fits && decide (tier = own)) :=
    (decided tier _ (inTier tier)).passes_eq
  simp only [passes_iff, Bool.and_eq_true, decide_eq_true_eq] at passed ⊢
  obtain ⟨tier, fit, rfl⟩ := passed
  exact ⟨tier, ⟨fit, rfl⟩, fun other both => both.2⟩

end PoiLabel

end MapStyle
