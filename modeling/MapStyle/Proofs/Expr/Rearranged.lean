import Mathlib.Data.List.Find
import Mathlib.Data.List.Nodup
import MapStyle.Proofs.Expr.Choice
import MapStyle.Proofs.Expr.Meaning
import MapStyle.Proofs.Number.Laws

/-!
# Matches whose cases change places

A match is refused if it has no cases, if a group of labels is empty, or if two labels anywhere in
it are equal, and for nothing else. Labels are equal if they have one form: the same tree with the
same numbers in it, however these are written. So no two cases of an accepted match can take the
same input, and neither the order of its cases nor that of the labels within a group matters.
-/

namespace MapStyle

set_option autoImplicit false

variable {F : Type} [Arithmetic F] [OrderedArithmetic F]

/-! ### Equal labels -/

/-- A number that has a place equals the numbers at that place. -/
theorem Number.same_iff_place_eq {left right : Number F} {place : Place}
    (isPlace : left.place? = some place) :
    left.same right = true ↔ left.place? = right.place? := by
  rw [same_iff_places, isPlace]
  constructor
  · rintro ⟨shared, isShared, isRight⟩
    rw [isShared, isRight]
  · intro isRight
    exact ⟨place, rfl, isRight.symm⟩

namespace Expr

mutual

/-- An expression with the place of each number on the line instead of the number. -/
def form : Expr F → Expr (Option Place)
  | .null => .null
  | .number value => .number (.real value.place?)
  | .text value => .text value
  | .list items => .list (formItems items)
  | .mapping entries => .mapping (formEntries entries)
  | .literal value => .literal (form value)
  | .get property => .get property
  | .op operator operands => .op operator (formItems operands)
  | .labels values => .labels (formItems values)
termination_by structural value => value

def formItems : List (Expr F) → List (Expr (Option Place))
  | [] => []
  | item :: rest => form item :: formItems rest
termination_by structural items => items

def formEntries : List (String × Expr F) → List (String × Expr (Option Place))
  | [] => []
  | (key, value) :: rest => (key, form value) :: formEntries rest
termination_by structural entries => entries

end

/-- Every number in an expression has a place on the line, so none of them is undefined. -/
def Placed (value : Expr F) : Prop :=
  Everywhere (fun node => ∀ number, node = .number number → ∃ place, number.place? = some place)
    value

theorem Placed.part {value : Expr F} (placed : value.Placed) :
    ∀ part ∈ value.parts, part.Placed :=
  (everywhere_iff.mp placed).2

mutual

/-- Expressions of which every number has a place are equal if they have one form. -/
theorem same_iff_form : ∀ left right : Expr F, left.Placed →
    (left.same right = true ↔ left.form = right.form)
  | .null, right, _ | .text _, right, _ | .get _, right, _ => by
      cases right <;> simp [same, form]
  | .number value, right, placed => by
      obtain ⟨place, isPlace⟩ := (everywhere_iff.mp placed).1 value rfl
      cases right with
      | number other => simp [same, form, Number.same_iff_place_eq isPlace]
      | _ => simp [same, form]
  | .list items, right, placed => by
      cases right with
      | list others => simp [same, form, sameItems_iff_form items others placed.part]
      | _ => simp [same, form]
  | .mapping entries, right, placed => by
      cases right with
      | mapping others =>
          have values : ∀ entry ∈ entries, entry.2.Placed := fun entry member =>
            placed.part entry.2 (List.mem_map_of_mem member)
          simp [same, form, sameEntries_iff_form entries others values]
      | _ => simp [same, form]
  | .literal value, right, placed => by
      cases right with
      | literal other =>
          simp [same, form, same_iff_form value other (placed.part value List.mem_cons_self)]
      | _ => simp [same, form]
  | .op operator operands, right, placed => by
      cases right with
      | op other others => simp [same, form, sameItems_iff_form operands others placed.part]
      | _ => simp [same, form]
  | .labels values, right, placed => by
      cases right with
      | labels others => simp [same, form, sameItems_iff_form values others placed.part]
      | _ => simp [same, form]

theorem sameItems_iff_form : ∀ items others : List (Expr F), (∀ item ∈ items, item.Placed) →
    (sameItems items others = true ↔ formItems items = formItems others)
  | [], others, _ => by cases others <;> simp [sameItems, formItems]
  | item :: rest, others, placed => by
      obtain ⟨first, tail⟩ := List.forall_mem_cons.mp placed
      cases others with
      | nil => simp [sameItems, formItems]
      | cons other otherRest =>
          simp [sameItems, formItems, same_iff_form item other first,
            sameItems_iff_form rest otherRest tail]

theorem sameEntries_iff_form : ∀ entries others : List (String × Expr F),
    (∀ entry ∈ entries, entry.2.Placed) →
    (sameEntries entries others = true ↔ formEntries entries = formEntries others)
  | [], others, _ => by cases others <;> simp [sameEntries, formEntries]
  | (key, value) :: rest, others, placed => by
      obtain ⟨first, tail⟩ := List.forall_mem_cons.mp placed
      cases others with
      | nil => simp [sameEntries, formEntries]
      | cons other otherRest =>
          obtain ⟨otherKey, otherValue⟩ := other
          simp [sameEntries, formEntries, same_iff_form value otherValue first,
            sameEntries_iff_form rest otherRest tail, and_assoc]

end

theorem placed_exact (value : Expr Rat) : value.Placed :=
  fun _ _ number _ => ⟨_, Number.place?_exact number⟩

theorem distinct_iff_nodup {labels : List (Expr F)} (placed : ∀ label ∈ labels, label.Placed) :
    Distinct labels ↔ (labels.map form).Nodup := by
  rw [List.Nodup, List.pairwise_map, Distinct]
  apply List.Pairwise.iff_of_mem
  intro earlier later _ member
  rw [← Bool.not_eq_true, same_iff_form later earlier (placed later member), eq_comm]

/-! ### Labels of cases -/

section Labels

omit [Arithmetic F] [OrderedArithmetic F]

/-- All labels of a match, those of its groups included. -/
def labelsOf (branches : List (Expr F × Expr F)) : List (Expr F) :=
  (branches.map Prod.fst).flatMap caseLabels

/-- The labels of a case, in any order if they are a group. -/
inductive SameLabels : Expr F → Expr F → Prop where
  | same (label : Expr F) : SameLabels label label
  | group {values others : List (Expr F)} (moved : values.Perm others) :
      SameLabels (.labels values) (.labels others)

/-- Two cases with the same labels and the same output. -/
def SameCase (branch other : Expr F × Expr F) : Prop :=
  SameLabels branch.1 other.1 ∧ branch.2 = other.2

/-- The same cases in any order, each with its labels in any order. -/
def Rearranged (branches others : List (Expr F × Expr F)) : Prop :=
  ∃ between, List.Forall₂ SameCase branches between ∧ between.Perm others

theorem SameLabels.perm {label other : Expr F} (same : SameLabels label other) :
    (caseLabels label).Perm (caseLabels other) := by
  cases same with
  | same => exact .refl _
  | group moved => exact moved

theorem isEmptyGroup_iff {label : Expr F} : isEmptyGroup label = true ↔ label = .labels [] := by
  constructor
  · intro isEmpty
    unfold isEmptyGroup at isEmpty
    split at isEmpty
    · rfl
    · cases isEmpty
  · rintro rfl
    rfl

theorem SameLabels.eq_empty {label : Expr F} (same : SameLabels label (.labels [])) :
    label = .labels [] := by
  cases same with
  | same => rfl
  | group moved => rw [moved.eq_nil]

/-- Each of the cases was there before. -/
theorem Rearranged.exists_case {branches others : List (Expr F × Expr F)}
    (rearranged : Rearranged branches others) {other : Expr F × Expr F} (member : other ∈ others) :
    ∃ branch ∈ branches, SameCase branch other := by
  obtain ⟨between, cases, moved⟩ := rearranged
  exact exists_item_of_forall₂ cases (moved.mem_iff.mpr member)

theorem Rearranged.length_eq {branches others : List (Expr F × Expr F)}
    (rearranged : Rearranged branches others) : branches.length = others.length := by
  obtain ⟨between, cases, moved⟩ := rearranged
  exact cases.length_eq.trans moved.length_eq

theorem perm_labelsOf {branches others : List (Expr F × Expr F)}
    (rearranged : Rearranged branches others) : (labelsOf branches).Perm (labelsOf others) := by
  obtain ⟨between, cases, moved⟩ := rearranged
  have labels : (labelsOf branches).Perm (labelsOf between) := by
    clear moved
    induction cases with
    | nil => exact .refl _
    | cons same _ ih => exact same.1.perm.append ih
  exact labels.trans ((moved.map Prod.fst).flatMap_right caseLabels)

end Labels

/-! ### The output of a case -/

/-- The output of the first case that some label of leads to, or else the default. -/
def outputFor (leads : Expr F → Bool) (branches : List (Expr F × Expr F)) (fallback : Expr F) :
    Expr F :=
  ((branches.find? fun branch => (caseLabels branch.1).any leads).map Prod.snd).getD fallback

/-- Only labels of one form lead to a case. -/
def LeadsByForm (leads : Expr F → Bool) (labels : List (Expr F)) : Prop :=
  ∀ label ∈ labels, ∀ other ∈ labels, leads label = true → leads other = true →
    label.form = other.form

section Output

variable {leads : Expr F → Bool} {branches others : List (Expr F × Expr F)}

omit [Arithmetic F] [OrderedArithmetic F] in
/-- Labels in another order lead to the same cases. -/
theorem outputFor_sameCases (cases : List.Forall₂ SameCase branches others) (fallback : Expr F) :
    outputFor leads branches fallback = outputFor leads others fallback := by
  unfold outputFor
  congr 1
  induction cases with
  | nil => rfl
  | cons same _ ih =>
      obtain ⟨labels, output⟩ := same
      rw [List.find?_cons, List.find?_cons, labels.perm.any_eq]
      split
      · rw [Option.map_some, Option.map_some, output]
      · exact ih

/-- No two cases of a match are led to if no two of its labels have one form. -/
theorem subsingleton_led (distinct : ((labelsOf branches).map form).Nodup)
    (byForm : LeadsByForm leads (labelsOf branches)) :
    Set.Subsingleton {branch ∈ branches | (caseLabels branch.1).any leads = true} := by
  rintro branch ⟨member, led⟩ other ⟨otherMember, otherLed⟩
  obtain ⟨label, inCase, leadsHere⟩ := List.any_eq_true.mp led
  obtain ⟨otherLabel, inOther, leadsThere⟩ := List.any_eq_true.mp otherLed
  have inLabels {label : Expr F} {branch : Expr F × Expr F} (member : branch ∈ branches)
      (inCase : label ∈ caseLabels branch.1) : label ∈ labelsOf branches :=
    List.mem_flatMap.mpr ⟨branch.1, List.mem_map_of_mem member, inCase⟩
  have oneForm : label.form = otherLabel.form :=
    byForm label (inLabels member inCase) otherLabel (inLabels otherMember inOther) leadsHere
      leadsThere
  rw [labelsOf, List.flatMap_map, List.map_flatMap, List.nodup_flatMap] at distinct
  by_contra different
  have symmetric : Std.Symm (Function.onFun List.Disjoint fun branch : Expr F × Expr F =>
      (caseLabels branch.1).map form) :=
    ⟨fun _ _ apart _ inSecond inFirst => apart inFirst inSecond⟩
  refine distinct.2.forall member otherMember different (List.mem_map_of_mem inCase) ?_
  rw [oneForm]
  exact List.mem_map_of_mem inOther

/-- At most one case of a match without equal labels is led to, wherever it stands. -/
theorem outputFor_rearranged (rearranged : Rearranged branches others)
    (distinct : ((labelsOf branches).map form).Nodup)
    (byForm : LeadsByForm leads (labelsOf branches)) (fallback : Expr F) :
    outputFor leads others fallback = outputFor leads branches fallback := by
  obtain ⟨between, cases, moved⟩ := rearranged
  have labels : (labelsOf branches).Perm (labelsOf between) :=
    perm_labelsOf ⟨between, cases, .refl _⟩
  have distinctBetween := ((labels.map form).nodup_iff.mp distinct)
  have byFormBetween : LeadsByForm leads (labelsOf between) := fun label member other otherMember =>
    byForm label (labels.mem_iff.mpr member) other (labels.mem_iff.mpr otherMember)
  rw [outputFor_sameCases cases, outputFor, outputFor,
    List.find?_eq_find?_of_perm moved (subsingleton_led distinctBetween byFormBetween)]

end Output

/-- A label has at most one form if an expression equals it. -/
theorem leadsByForm_same (value : Expr F) {labels : List (Expr F)}
    (placed : ∀ label ∈ labels, label.Placed) :
    LeadsByForm (fun label => label.same value) labels := by
  intro label member other otherMember leadsHere leadsThere
  rw [(same_iff_form label value (placed label member)).mp leadsHere,
    (same_iff_form other value (placed other otherMember)).mp leadsThere]

theorem place?_of_isSame {left right : Number F}
    (isSame : (Json.number left).isSame (.number right) = true) : left.place? = right.place? := by
  have ofSame (same : left.same right = true) : left.place? = right.place? := by
    obtain ⟨place, isLeft, isRight⟩ := Number.same_iff_places.mp same
    rw [isLeft, isRight]
  cases left with
  | flag truth =>
      cases right with
      | flag other => rw [beq_iff_eq.mp isSame]
      | _ => cases isSame
  | _ =>
      cases right with
      | flag other => cases isSame
      | _ => exact ofSame isSame

/-- What the renderer takes for a value has the form of that value. -/
theorem form_of_isLabelOf {value : Json F} {label : Expr F}
    (isLabel : label.isLabelOf value = true) : label.form = (ofJson value).form := by
  cases label with
  | text text =>
      cases value with
      | text other => rw [ofJson, beq_iff_eq.mp isLabel]
      | _ => simp [isLabelOf, Json.isSame] at isLabel
  | number number =>
      cases value with
      | number other => simp only [ofJson, form, place?_of_isSame isLabel]
      | _ => simp [isLabelOf, Json.isSame] at isLabel
  | _ => cases isLabel

theorem leadsByForm_isLabelOf (value : Json F) (labels : List (Expr F)) :
    LeadsByForm (isLabelOf value) labels := by
  intro label _ other _ leadsHere leadsThere
  rw [form_of_isLabelOf leadsHere, form_of_isLabelOf leadsThere]

/-! ### Matches -/

omit [OrderedArithmetic F] in
theorem covers_eq_any (value : Json F) (label : Expr F) :
    label.covers value = (caseLabels label).any (isLabelOf value) := by
  cases label <;> simp [covers, caseLabels]

omit [OrderedArithmetic F] in
/-- A match means what the case means that the value of its input leads to. -/
theorem meaning_matchNode_eq (input fallback : Expr F) (branches : List (Expr F × Expr F))
    (feature : Feature F) :
    (matchNode input branches fallback).meaning feature =
      (input.meaning feature).bind fun value =>
        (outputFor (isLabelOf value) branches fallback).meaning feature := by
  cases found : input.meaning feature with
  | none => exact congrArg (Option.bind · _) found
  | some value => simp only [meaning_matchNode found, covers_eq_any, outputFor, Option.bind_some]

/-- What is asked of the cases of a match: there are some, each has a label, and no two labels
are equal. -/
structure Unambiguous (branches : List (Expr F × Expr F)) : Prop where
  given : branches ≠ []
  labelled : ∀ branch ∈ branches, branch.1 ≠ .labels []
  distinct : ((labelsOf branches).map form).Nodup

theorem Unambiguous.rearranged {branches others : List (Expr F × Expr F)}
    (unambiguous : Unambiguous branches) (rearranged : Rearranged branches others) :
    Unambiguous others where
  given := by
    rw [← List.length_pos_iff, ← rearranged.length_eq, List.length_pos_iff]
    exact unambiguous.given
  labelled := by
    intro other member isEmpty
    obtain ⟨branch, inBranches, labels, _⟩ := rearranged.exists_case member
    rw [isEmpty] at labels
    exact unambiguous.labelled branch inBranches labels.eq_empty
  distinct := ((perm_labelsOf rearranged).map form).nodup_iff.mp unambiguous.distinct

theorem matching_eq_ok_iff {input fallback node : Expr F} {branches : List (Expr F × Expr F)}
    (placed : ∀ label ∈ labelsOf branches, label.Placed) :
    matching input branches fallback = .ok node ↔
      Unambiguous branches ∧ matchNode input branches fallback = node := by
  rw [matching_eq_ok]
  simp only [← Bool.not_eq_true, isEmptyGroup_iff]
  constructor
  · rintro ⟨given, labelled, distinct, same⟩
    exact ⟨⟨given, labelled, (distinct_iff_nodup placed).mp distinct⟩, same⟩
  · rintro ⟨⟨given, labelled, distinct⟩, same⟩
    exact ⟨given, labelled, (distinct_iff_nodup placed).mpr distinct, same⟩

theorem not_unambiguous_iff {branches : List (Expr F × Expr F)} :
    ¬Unambiguous branches ↔ branches = [] ∨ (∃ branch ∈ branches, branch.1 = .labels []) ∨
      ¬((labelsOf branches).map form).Nodup := by
  constructor
  · intro ambiguous
    by_contra none
    push Not at none
    exact ambiguous ⟨none.1, none.2.1, none.2.2⟩
  · rintro (empty | ⟨branch, member, isEmpty⟩ | repeated) unambiguous
    · exact unambiguous.given empty
    · exact unambiguous.labelled branch member isEmpty
    · exact repeated unambiguous.distinct

theorem matching_refused_iff {input fallback : Expr F} {branches : List (Expr F × Expr F)}
    (placed : ∀ label ∈ labelsOf branches, label.Placed) :
    (∃ fault, matching input branches fallback = .error fault) ↔ ¬Unambiguous branches := by
  cases outcome : matching input branches fallback with
  | error fault =>
      refine iff_of_true ⟨fault, rfl⟩ fun unambiguous => ?_
      rw [(matching_eq_ok_iff placed).mpr ⟨unambiguous, rfl⟩] at outcome
      cases outcome
  | ok node =>
      refine iff_of_false (fun ⟨_, impossible⟩ => nomatch impossible) (not_not_intro ?_)
      exact ((matching_eq_ok_iff placed).mp outcome).1

omit [OrderedArithmetic F] in
/-- No match is refused for anything but its cases and labels. -/
theorem matching_invalid (input fallback : Expr F) (branches : List (Expr F × Expr F)) :
    Faults (fun fault => fault.nature = .invalid) (matching input branches fallback) := by
  have one (seen : List (Expr F)) (label : Expr F) :
      Faults (fun fault => fault.nature = .invalid) (addLabel seen label) := by
    unfold addLabel
    split
    · exact Faults.error_iff.mpr rfl
    · exact Faults.ok
  have group (seen : List (Expr F)) (label : Expr F) :
      Faults (fun fault => fault.nature = .invalid) (addLabels seen label) := by
    unfold addLabels
    split
    · exact Faults.error_iff.mpr rfl
    · exact Faults.foldlM one
  unfold matching checkLabels
  split
  · exact Faults.error_iff.mpr rfl
  · exact Faults.bind (Faults.bind (Faults.foldlM group) fun _ _ => Faults.pure)
      fun _ _ => Faults.pure

/-- A match is refused exactly if it has no cases, if a group of labels is empty or if two labels
are equal. An accepted one is accepted with its cases and their labels in any other order, and
means the same for every feature. Whatever its input is found to be, the same output is chosen,
be it by the renderer or where truth values count as the numbers that they equal. -/
theorem matching_rearranged (input fallback : Expr F) (branches : List (Expr F × Expr F))
    (placed : ∀ label ∈ labelsOf branches, label.Placed) :
    ((∃ fault, matching input branches fallback = .error fault) ↔
      branches = [] ∨ (∃ branch ∈ branches, branch.1 = .labels []) ∨
        ¬((labelsOf branches).map form).Nodup) ∧
    Faults (fun fault => fault.nature = .invalid) (matching input branches fallback) ∧
    ∀ node, matching input branches fallback = .ok node →
      ∀ others, Rearranged branches others →
        Returns (fun other => ∀ feature, other.meaning feature = node.meaning feature)
          (matching input others fallback) ∧
        (∀ value, outputFor (isLabelOf value) others fallback =
          outputFor (isLabelOf value) branches fallback) ∧
        ∀ value, outputFor (fun label => label.same value) others fallback =
          outputFor (fun label => label.same value) branches fallback := by
  refine ⟨?refused, matching_invalid input fallback branches, ?moved⟩
  case refused =>
    exact (matching_refused_iff placed).trans not_unambiguous_iff
  case moved =>
    intro node found others rearranged
    obtain ⟨unambiguous, rfl⟩ := (matching_eq_ok_iff placed).mp found
    have placedOthers : ∀ label ∈ labelsOf others, label.Placed := fun label member =>
      placed label ((perm_labelsOf rearranged).mem_iff.mpr member)
    have sameOutput {leads : Expr F → Bool} (byForm : LeadsByForm leads (labelsOf branches)) :
        outputFor leads others fallback = outputFor leads branches fallback :=
      outputFor_rearranged rearranged unambiguous.distinct byForm fallback
    have shown (value : Json F) : outputFor (isLabelOf value) others fallback =
        outputFor (isLabelOf value) branches fallback :=
      sameOutput (leadsByForm_isLabelOf value _)
    refine ⟨⟨_, (matching_eq_ok_iff placedOthers).mpr ⟨unambiguous.rearranged rearranged, rfl⟩,
      fun feature => ?_⟩, shown, fun value => sameOutput (leadsByForm_same value placed)⟩
    simp only [meaning_matchNode_eq, shown]

/-- Colours of roads, one of them for a group of classes. -/
def roadColours : List (Expr Rat × Expr Rat) :=
  [(.labels [.text "motorway", .text "trunk"], .text "#fff"), (.text "primary", .text "#eee")]

/-- The same colours the other way round. -/
def otherRoadColours : List (Expr Rat × Expr Rat) :=
  [(.text "primary", .text "#eee"), (.labels [.text "trunk", .text "motorway"], .text "#fff")]

/-- Roads have the same colours either way; and the integer one repeats the truth value. -/
theorem road_colours_rearranged :
    (∃ node other, matching (.get "class") roadColours .null = .ok node ∧
      matching (.get "class") otherRoadColours .null = .ok other ∧
        ∀ feature, other.meaning feature = node.meaning feature) ∧
    ∃ fault, matching (.get "ramp") [(1, .text "#fff"), (.bool true, .text "#eee")]
      (.null : Expr Rat) = .error fault := by
  constructor
  · obtain ⟨node, found⟩ := exists_of_isOk
      (show (matching (.get "class") roadColours .null).isOk = true by decide +kernel)
    have rearranged : Rearranged roadColours otherRoadColours :=
      ⟨otherRoadColours.reverse, .cons ⟨.group (.swap _ _ _), rfl⟩ (.cons ⟨.same _, rfl⟩ .nil),
        otherRoadColours.reverse_perm⟩
    obtain ⟨_, _, moved⟩ := matching_rearranged (.get "class") .null roadColours
      fun label _ => placed_exact label
    obtain ⟨⟨other, otherFound, same⟩, _⟩ := moved node found otherRoadColours rearranged
    exact ⟨node, other, found, otherFound, same⟩
  · obtain ⟨refused, _⟩ := matching_rearranged (.get "ramp") (.null : Expr Rat)
      [(1, .text "#fff"), (.bool true, .text "#eee")] fun label _ => placed_exact label
    refine refused.mpr (.inr (.inr fun distinct => ?_))
    have twice : (labelsOf [((1 : Expr Rat), .text "#fff"), (.bool true, .text "#eee")]).map form =
        [form (1 : Expr Rat), form (1 : Expr Rat)] := rfl
    simp [twice] at distinct

end Expr

end MapStyle
