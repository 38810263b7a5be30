import MapStyle.Proofs.Expr.Sound

/-!
# Accepted curves, steps, matches and cases

What the functions that build these expressions check, and that the check is all that the
renderer asks for.
-/

namespace MapStyle.Expr

set_option autoImplicit false

variable {F : Type}

theorem forall_mem_alternating {holds : Expr F → Prop} {pairs : List (Expr F × Expr F)} :
    (∀ part ∈ alternating pairs, holds part) ↔ ∀ pair ∈ pairs, holds pair.1 ∧ holds pair.2 := by
  constructor
  · intro all pair member
    constructor
    · exact all pair.1 (List.mem_flatMap.mpr ⟨pair, member, by simp⟩)
    · exact all pair.2 (List.mem_flatMap.mpr ⟨pair, member, by simp⟩)
  · intro each part member
    obtain ⟨pair, pairMember, found⟩ := List.mem_flatMap.mp member
    simp only [List.mem_cons, List.not_mem_nil, or_false] at found
    obtain rfl | rfl := found
    · exact (each pair pairMember).1
    · exact (each pair pairMember).2

/-- Among keys and outputs one after the other, what is no output has an even position. -/
theorem alternating_getElem? {pairs : List (Expr F × Expr F)} {position : Nat} {part : Expr F}
    (found : (alternating pairs)[position]? = some part)
    (noOutput : ∀ pair ∈ pairs, pair.2 ≠ part) :
    position % 2 = 0 ∧ position < (alternating pairs).length := by
  induction pairs generalizing position with
  | nil => simp [alternating] at found
  | cons pair rest ih =>
      have unfolded : alternating (pair :: rest) = pair.1 :: pair.2 :: alternating rest := rfl
      rw [unfolded] at found ⊢
      match position with
      | 0 => simp
      | 1 =>
          have output : pair.2 = part := by simpa using found
          exact absurd output (noOutput pair List.mem_cons_self)
      | later + 2 =>
          have inRest : (alternating rest)[later]? = some part := by simpa using found
          obtain ⟨even, bounded⟩ :=
            ih inRest fun other member => noOutput other (List.mem_cons_of_mem pair member)
          simp only [List.length_cons]
          omega

variable [Arithmetic F] {zoomed : Bool}

/-! ### Cases -/

@[simp] theorem sound_caseNode {branches : List (Expr F × Expr F)} {fallback : Expr F}
    (given : branches ≠ []) :
    Sound zoomed (caseNode branches fallback) ↔
      (∀ branch ∈ branches, Sound zoomed branch.1 ∧ Sound zoomed branch.2) ∧
        Sound zoomed fallback := by
  have parts : (∀ part ∈ (caseNode branches fallback).parts, Sound zoomed part) ↔
      (∀ branch ∈ branches, Sound zoomed branch.1 ∧ Sound zoomed branch.2) ∧
        Sound zoomed fallback := by
    rw [← forall_mem_alternating]
    simp only [caseNode, Expr.parts, List.forall_mem_append, List.forall_mem_singleton]
  rw [← parts]
  constructor
  · intro sound part member
    exact sound.part (by simp [caseNode]) member
  · intro inner
    apply Sound.of_parts inner
    · simp [caseNode]
    · simp [caseNode]
    · simp [caseNode]
    · simp [caseNode]
    · simp [caseNode]
    · intro operands same
      cases same
      exact ⟨branches, fallback, rfl, given⟩

/-! ### Curves and steps -/

theorem increasing?_eq_true {breakpoints : List (Expr F)} :
    increasing? breakpoints = some true ↔ Ascending breakpoints := by
  induction breakpoints with
  | nil => simp [increasing?, Ascending]
  | cons first rest ih =>
      cases rest with
      | nil => simp [increasing?, Ascending]
      | cons second others =>
          simp only [increasing?, Ascending, List.isChain_cons_cons]
          split
          · rename_i unordered
            simp [unordered]
          · rename_i above
            simp [above]
          · rename_i below
            simp only [below, true_and]
            exact ih

theorem checkIncreasing_eq_ok {kind : CurveKind} {breakpoints : List (Expr F)} {value : Unit} :
    checkIncreasing kind breakpoints = .ok value ↔ Ascending breakpoints := by
  rw [← increasing?_eq_true, checkIncreasing]
  split
  · rename_i rising
    simp [rising]
  · rename_i falling
    simp [falling, Result.ofExpr]
  · rename_i unordered
    simp [unordered, Result.ofExpr]

omit [Arithmetic F] in
/-- Curves, steps and matches need pairs, and then are checked. -/
theorem checked_eq_ok {refusal : ExprError F} {pairs : List (Expr F × Expr F)}
    {check : Result F Unit} {passed : Prop} {node value : Expr F}
    (passes : ∀ nothing, check = .ok nothing ↔ passed) :
    (do
      if pairs.isEmpty then Result.ofExpr refusal
      check
      return node : Result F (Expr F)) = .ok value ↔ pairs ≠ [] ∧ passed ∧ node = value := by
  cases pairs with
  | nil =>
      constructor
      · intro impossible
        cases impossible
      · rintro ⟨given, _⟩
        exact absurd rfl given
  | cons first rest =>
      simp only [List.isEmpty_cons, Bool.false_eq_true, if_false, bind_eq_ok, passes]
      constructor
      · rintro ⟨_, holds, same⟩
        cases same
        exact ⟨by simp, holds, rfl⟩
      · rintro ⟨_, holds, rfl⟩
        exact ⟨(), holds, rfl⟩

theorem curve_eq_ok {shape input value : Expr F} {stops : List (Expr F × Expr F)} :
    curve shape input stops = .ok value ↔
      stops ≠ [] ∧ Ascending (stops.map Prod.fst) ∧ curveNode shape input stops = value :=
  checked_eq_ok fun _ => checkIncreasing_eq_ok

/-- Numbers each of which is below the next one. -/
def Climb (numbers : List (Number F)) : Prop :=
  numbers.IsChain fun lower upper => lower.lt upper = true

theorem ascending_of_climb {numbers : List (Number F)} (climb : Climb numbers) :
    Ascending (numbers.map Expr.number) := by
  unfold Ascending
  rw [List.isChain_map]
  apply climb.imp
  intro lower upper below
  exact congrArg some below

/-- A curve through numbers that climb is not refused. -/
theorem curve_of_climb {numbers : List (Number F)} {shape input : Expr F}
    {stops : List (Expr F × Expr F)} (climb : Climb numbers)
    (keys : stops.map Prod.fst = numbers.map Expr.number) (given : numbers ≠ []) :
    curve shape input stops = .ok (curveNode shape input stops) := by
  have stopsGiven : stops ≠ [] := by
    rintro rfl
    exact given (List.map_eq_nil_iff.mp keys.symm)
  exact curve_eq_ok.mpr ⟨stopsGiven, keys ▸ ascending_of_climb climb, rfl⟩

theorem step_eq_ok {input fallback value : Expr F} {pairs : List (Expr F × Expr F)} :
    step input fallback pairs = .ok value ↔
      pairs ≠ [] ∧ Ascending (pairs.map Prod.fst) ∧ stepNode input fallback pairs = value :=
  checked_eq_ok fun _ => checkIncreasing_eq_ok

/-- A stop of a curve lies at a number, and its output is sound. -/
def SoundStop (zoomed : Bool) (stop : Expr F × Expr F) : Prop :=
  IsNumber stop.1 ∧ Sound zoomed stop.2

def SoundStops (zoomed : Bool) (stops : List (Expr F × Expr F)) : Prop :=
  ∀ stop ∈ stops, SoundStop zoomed stop

@[simp] theorem soundStops_nil : SoundStops zoomed ([] : List (Expr F × Expr F)) := by
  simp [SoundStops]

@[simp] theorem soundStops_cons {stop : Expr F × Expr F} {rest : List (Expr F × Expr F)} :
    SoundStops zoomed (stop :: rest) ↔
      (IsNumber stop.1 ∧ Sound zoomed stop.2) ∧ SoundStops zoomed rest :=
  List.forall_mem_cons

@[simp] theorem soundStops_append {first second : List (Expr F × Expr F)} :
    SoundStops zoomed (first ++ second) ↔ SoundStops zoomed first ∧ SoundStops zoomed second :=
  List.forall_mem_append

theorem sound_curveNode {shape input : Expr F} {stops : List (Expr F × Expr F)}
    (isShape : IsShape shape) (shapeSound : Sound zoomed shape) (inputSound : Sound zoomed input)
    (given : stops ≠ []) (ascending : Ascending (stops.map Prod.fst))
    (stopsSound : SoundStops zoomed stops) : Sound zoomed (curveNode shape input stops) := by
  have inner : ∀ part ∈ (curveNode shape input stops).parts, Sound zoomed part := by
    simp only [curveNode, parts, List.forall_mem_cons]
    refine ⟨shapeSound, inputSound, forall_mem_alternating.mpr ?_⟩
    intro stop member
    obtain ⟨⟨value, same⟩, output⟩ := stopsSound stop member
    rw [same]
    exact ⟨sound_number value, output⟩
  apply Sound.of_parts inner
  · simp [curveNode]
  · simp [curveNode]
  · intro operands same
    cases same
    exact ⟨shape, input, stops, rfl, isShape, given, fun stop member => (stopsSound stop member).1,
      ascending⟩
  · simp [curveNode]
  · simp [curveNode]
  · simp [curveNode]

theorem sound_stepNode {input fallback : Expr F} {pairs : List (Expr F × Expr F)}
    (inputSound : Sound zoomed input) (fallbackSound : Sound zoomed fallback)
    (given : pairs ≠ []) (ascending : Ascending (pairs.map Prod.fst))
    (pairsSound : ∀ pair ∈ pairs, Sound zoomed pair.1 ∧ Sound zoomed pair.2) :
    Sound zoomed (stepNode input fallback pairs) := by
  have inner : ∀ part ∈ (stepNode input fallback pairs).parts, Sound zoomed part := by
    simp only [stepNode, parts, List.forall_mem_cons]
    exact ⟨inputSound, fallbackSound, forall_mem_alternating.mpr pairsSound⟩
  apply Sound.of_parts inner
  · simp [stepNode]
  · simp [stepNode]
  · simp [stepNode]
  · intro operands same
    cases same
    exact ⟨input, fallback, pairs, rfl, given, ascending⟩
  · simp [stepNode]
  · simp [stepNode]

theorem ensures_linear {input : Expr F} {stops : List (Expr F × Expr F)}
    (inputSound : Sound zoomed input) (stopsSound : SoundStops zoomed stops) :
    Ensures (Sound zoomed) (linear input stops) := by
  intro value found
  obtain ⟨given, ascending, rfl⟩ := curve_eq_ok.mp found
  apply sound_curveNode .linear _ inputSound given ascending stopsSound
  rw [sound_op (by decide)]
  simp

/-- A curve over the zoom depends on it at the top only. -/
theorem usable_zoomCurve {shape : Expr F} {stops : List (Expr F × Expr F)}
    (isShape : IsShape shape) (shapeSound : Sound false shape) (given : stops ≠ [])
    (ascending : Ascending (stops.map Prod.fst)) (stopsSound : SoundStops false stops) :
    Usable (curveNode shape zoom stops) := by
  constructor
  · have relaxed : SoundStops true stops := by
      intro stop member
      exact ⟨(stopsSound stop member).1, (stopsSound stop member).2.relax⟩
    exact (sound_curveNode isShape shapeSound.relax sound_zoom given ascending relaxed).accepted
  · apply ZoomOnTop.curve shapeSound.zoomFree
    rw [forall_mem_alternating]
    intro stop member
    obtain ⟨⟨value, same⟩, output⟩ := stopsSound stop member
    rw [same]
    exact ⟨(sound_number value).zoomFree, output.zoomFree⟩

theorem ensures_zoomLinear {stops : List (Expr F × Expr F)} (stopsSound : SoundStops false stops) :
    Ensures Usable (linear zoom stops) := by
  intro value found
  obtain ⟨given, ascending, rfl⟩ := curve_eq_ok.mp found
  apply usable_zoomCurve .linear _ given ascending stopsSound
  rw [sound_op (by decide)]
  simp

theorem ensures_zoomExponential {base : Expr F} {stops : List (Expr F × Expr F)}
    (baseSound : Sound false base) (stopsSound : SoundStops false stops) :
    Ensures Usable (exponential base zoom stops) := by
  intro value found
  obtain ⟨given, ascending, rfl⟩ := curve_eq_ok.mp found
  apply usable_zoomCurve (.exponential base) _ given ascending stopsSound
  rw [sound_op (by decide)]
  simpa using baseSound

theorem ensures_step {input fallback : Expr F} {pairs : List (Expr F × Expr F)}
    (inputSound : Sound zoomed input) (fallbackSound : Sound zoomed fallback)
    (pairsSound : ∀ pair ∈ pairs, Sound zoomed pair.1 ∧ Sound zoomed pair.2) :
    Ensures (Sound zoomed) (step input fallback pairs) := by
  intro value found
  obtain ⟨given, ascending, rfl⟩ := step_eq_ok.mp found
  exact sound_stepNode inputSound fallbackSound given ascending pairsSound

theorem ensures_zoomStep {fallback : Expr F} {pairs : List (Expr F × Expr F)}
    (fallbackSound : Sound false fallback)
    (pairsSound : ∀ pair ∈ pairs, Sound false pair.1 ∧ Sound false pair.2) :
    Ensures Usable (step zoom fallback pairs) := by
  intro value found
  obtain ⟨given, ascending, rfl⟩ := step_eq_ok.mp found
  constructor
  · have relaxed : ∀ pair ∈ pairs, Sound true pair.1 ∧ Sound true pair.2 := by
      intro pair member
      exact ⟨(pairsSound pair member).1.relax, (pairsSound pair member).2.relax⟩
    exact (sound_stepNode sound_zoom fallbackSound.relax given ascending relaxed).accepted
  · apply ZoomOnTop.step
    refine List.forall_mem_cons.mpr ⟨fallbackSound.zoomFree, forall_mem_alternating.mpr ?_⟩
    intro pair member
    exact ⟨(pairsSound pair member).1.zoomFree, (pairsSound pair member).2.zoomFree⟩

/-! ### Matches -/

theorem distinct_texts {labels : List String} :
    Distinct (labels.map (Expr.text : String → Expr F)) ↔ labels.Nodup := by
  rw [Distinct, List.pairwise_map]
  constructor
  · intro distinct
    apply distinct.imp
    intro earlier later apart same
    simp [Expr.same, same] at apart
  · intro nodup
    apply nodup.imp
    intro earlier later apart
    simp [Expr.same, Ne.symm apart]

/-- Labels that neither repeat one that was seen before nor one another. -/
def Fresh (seen labels : List (Expr F)) : Prop :=
  (∀ label ∈ labels, ∀ earlier ∈ seen, label.same earlier = false) ∧ Distinct labels

theorem fresh_append {seen first second : List (Expr F)} :
    Fresh seen (first ++ second) ↔ Fresh seen first ∧ Fresh (first.reverse ++ seen) second := by
  simp only [Fresh, Distinct, List.pairwise_append, List.mem_append, List.mem_reverse]
  constructor
  · rintro ⟨apart, firstDistinct, secondDistinct, across⟩
    refine ⟨⟨fun label member => apart label (.inl member), firstDistinct⟩, ?_, secondDistinct⟩
    rintro label member earlier (inFirst | inSeen)
    · exact across earlier inFirst label member
    · exact apart label (.inr member) earlier inSeen
  · rintro ⟨⟨firstApart, firstDistinct⟩, secondApart, secondDistinct⟩
    refine ⟨?_, firstDistinct, secondDistinct, ?_⟩
    · rintro label (inFirst | inSecond) earlier inSeen
      · exact firstApart label inFirst earlier inSeen
      · exact secondApart label inSecond earlier (.inr inSeen)
    · intro earlier inFirst label inSecond
      exact secondApart label inSecond earlier (.inl inFirst)

theorem addLabel_eq_ok {seen known : List (Expr F)} {label : Expr F} :
    addLabel seen label = .ok known ↔ Fresh seen [label] ∧ label :: seen = known := by
  unfold addLabel
  split
  · rename_i repeated
    obtain ⟨earlier, member, same⟩ := List.any_eq_true.mp repeated
    constructor
    · intro impossible
      cases impossible
    · rintro ⟨⟨apart, _⟩, _⟩
      exact absurd same (by simp [apart label (List.mem_singleton_self label) earlier member])
  · rename_i fresh
    simp only [List.any_eq_true, not_exists, not_and, Bool.not_eq_true] at fresh
    have apart : Fresh seen [label] := ⟨by simpa using fresh, List.pairwise_singleton _ _⟩
    simp [apart]

/-- Each step adds fresh labels to those seen so far, the latest first. -/
def Adds (allowed : Expr F → Prop) (added : Expr F → List (Expr F))
    (step : List (Expr F) → Expr F → Result F (List (Expr F))) : Prop :=
  ∀ seen label known, step seen label = .ok known ↔
    allowed label ∧ Fresh seen (added label) ∧ (added label).reverse ++ seen = known

/-- What each step does to the labels seen so far, all steps do together. -/
theorem Adds.foldlM_eq_ok {allowed : Expr F → Prop} {added : Expr F → List (Expr F)}
    {step : List (Expr F) → Expr F → Result F (List (Expr F))} (adds : Adds allowed added step)
    {labels seen known : List (Expr F)} :
    labels.foldlM step seen = .ok known ↔
      (∀ label ∈ labels, allowed label) ∧ Fresh seen (labels.flatMap added) ∧
        (labels.flatMap added).reverse ++ seen = known := by
  induction labels generalizing seen with
  | nil => simp [Fresh, Distinct, pure, Except.pure]
  | cons label rest ih =>
      rw [List.foldlM_cons, bind_eq_ok, List.flatMap_cons, fresh_append, List.forall_mem_cons]
      constructor
      · rintro ⟨next, first, others⟩
        obtain ⟨given, labelFresh, rfl⟩ := (adds _ _ _).mp first
        obtain ⟨restGiven, restFresh, same⟩ := ih.mp others
        exact ⟨⟨given, restGiven⟩, ⟨labelFresh, restFresh⟩, by simpa using same⟩
      · rintro ⟨⟨given, restGiven⟩, ⟨labelFresh, restFresh⟩, same⟩
        exact ⟨_, (adds _ _ _).mpr ⟨given, labelFresh, rfl⟩,
          ih.mpr ⟨restGiven, restFresh, by simpa using same⟩⟩

theorem foldlM_addLabel_eq_ok {labels seen known : List (Expr F)} :
    labels.foldlM addLabel seen = .ok known ↔
      Fresh seen labels ∧ labels.reverse ++ seen = known := by
  have adds : Adds (fun _ => True) (fun label => [label]) (addLabel : List (Expr F) → _) := by
    intro seen label known
    rw [addLabel_eq_ok, true_and]
    rfl
  simpa using (adds.foldlM_eq_ok : labels.foldlM addLabel seen = .ok known ↔ _)

theorem addLabels_eq_ok {seen known : List (Expr F)} {label : Expr F} :
    addLabels seen label = .ok known ↔
      isEmptyGroup label = false ∧ Fresh seen (caseLabels label) ∧
        (caseLabels label).reverse ++ seen = known := by
  rw [← foldlM_addLabel_eq_ok]
  unfold addLabels
  cases isEmptyGroup label with
  | true =>
      constructor
      · intro impossible
        cases impossible
      · rintro ⟨impossible, _⟩
        cases impossible
  | false => simp

theorem foldlM_addLabels_eq_ok {labels seen known : List (Expr F)} :
    labels.foldlM addLabels seen = .ok known ↔
      (∀ label ∈ labels, isEmptyGroup label = false) ∧ Fresh seen (labels.flatMap caseLabels) ∧
        (labels.flatMap caseLabels).reverse ++ seen = known := by
  have adds : Adds (fun label => isEmptyGroup label = false) caseLabels
      (addLabels : List (Expr F) → _) := fun _ _ _ => addLabels_eq_ok
  exact adds.foldlM_eq_ok

/-- A match is refused exactly for an empty group or a label that repeats another one. -/
theorem checkLabels_eq_ok {labels : List (Expr F)} {value : Unit} :
    checkLabels labels = .ok value ↔
      (∀ label ∈ labels, isEmptyGroup label = false) ∧ Distinct (labels.flatMap caseLabels) := by
  unfold checkLabels
  rw [bind_eq_ok]
  constructor
  · rintro ⟨known, found, _⟩
    obtain ⟨given, fresh, _⟩ := foldlM_addLabels_eq_ok.mp found
    exact ⟨given, fresh.2⟩
  · rintro ⟨given, distinct⟩
    exact ⟨_, foldlM_addLabels_eq_ok.mpr ⟨given, ⟨by simp, distinct⟩, rfl⟩, rfl⟩

/-- The labels of a branch and its output are sound. -/
def SoundBranch (zoomed : Bool) (branch : Expr F × Expr F) : Prop :=
  (∀ label ∈ caseLabels branch.1, Sound zoomed label) ∧ Sound zoomed branch.2

theorem label_nodes {label : Expr F} (sound : ∀ value ∈ caseLabels label, Sound zoomed value) :
    Everywhere (NodeSound zoomed) label := by
  cases label with
  | labels values =>
      refine everywhere_iff.mpr ⟨⟨⟨by simp, by simp, by simp, by simp, ?_⟩, by simp⟩, ?_⟩
      · intro position inner found
        exact absurd rfl ((sound _ (List.mem_of_getElem? found)).noGroup inner)
      · intro part member
        exact (sound part member).nodes
  | _ => exact (sound _ (List.mem_singleton_self _)).nodes

omit [Arithmetic F] in
/-- A group of labels that is neither the input of a match nor an output stands where labels do. -/
theorem isLabelPosition_matchNode {input fallback : Expr F} {branches : List (Expr F × Expr F)}
    {position : Nat} {values : List (Expr F)} (noInput : input ≠ .labels values)
    (noFallback : fallback ≠ .labels values)
    (noOutput : ∀ branch ∈ branches, branch.2 ≠ .labels values)
    (found : (matchNode input branches fallback).parts[position]? = some (.labels values)) :
    IsLabelPosition (matchNode input branches fallback) position := by
  refine ⟨_, rfl, ?_⟩
  simp only [matchNode, parts] at found
  cases position with
  | zero =>
      rw [List.getElem?_cons_zero, Option.some_inj] at found
      exact absurd found noInput
  | succ before =>
      rw [List.getElem?_cons_succ, List.getElem?_append] at found
      split at found
      · obtain ⟨even, bounded⟩ := alternating_getElem? found noOutput
        simp only [List.length_cons, List.length_append, List.length_nil]
        omega
      · have last : fallback = .labels values :=
          (List.mem_singleton.mp (List.mem_of_getElem? found)).symm
        exact absurd last noFallback

theorem sound_matchNode {input fallback : Expr F} {branches : List (Expr F × Expr F)}
    (inputSound : Sound zoomed input) (fallbackSound : Sound zoomed fallback)
    (given : branches ≠ []) (groupsGiven : ∀ branch ∈ branches, isEmptyGroup branch.1 = false)
    (distinct : Distinct ((branches.map Prod.fst).flatMap caseLabels))
    (branchesSound : ∀ branch ∈ branches, SoundBranch zoomed branch) :
    Sound zoomed (matchNode input branches fallback) := by
  have inner : ∀ part ∈ (matchNode input branches fallback).parts,
      Everywhere (NodeSound zoomed) part := by
    simp only [matchNode, parts, List.forall_mem_cons, List.forall_mem_append]
    refine ⟨inputSound.nodes, ?_, by simpa using fallbackSound.nodes⟩
    rw [forall_mem_alternating]
    intro branch member
    obtain ⟨labelsSound, outputSound⟩ := branchesSound branch member
    exact ⟨label_nodes labelsSound, outputSound.nodes⟩
  have wellFormed : WellFormed (matchNode input branches fallback) := by
    constructor
    case curve | step | branch => simp [matchNode]
    case choice =>
      intro operands same
      cases same
      exact ⟨input, branches, fallback, rfl, given, groupsGiven, distinct⟩
    case group =>
      intro position values
      exact isLabelPosition_matchNode (inputSound.noGroup values) (fallbackSound.noGroup values)
        fun branch member => (branchesSound branch member).2.noGroup values
  exact ⟨by simp [matchNode], everywhere_iff.mpr ⟨⟨wellFormed, by simp [matchNode]⟩, inner⟩⟩

theorem matching_eq_ok {input fallback value : Expr F} {branches : List (Expr F × Expr F)} :
    matching input branches fallback = .ok value ↔
      branches ≠ [] ∧ (∀ branch ∈ branches, isEmptyGroup branch.1 = false) ∧
        Distinct ((branches.map Prod.fst).flatMap caseLabels) ∧
        matchNode input branches fallback = value := by
  rw [← and_assoc (a := ∀ branch ∈ branches, _)]
  refine checked_eq_ok fun _ => ?_
  rw [checkLabels_eq_ok, List.forall_mem_map]

theorem ensures_matching {input fallback : Expr F} {branches : List (Expr F × Expr F)}
    (inputSound : Sound zoomed input) (fallbackSound : Sound zoomed fallback)
    (branchesSound : ∀ branch ∈ branches, SoundBranch zoomed branch) :
    Ensures (Sound zoomed) (matching input branches fallback) := by
  intro value found
  obtain ⟨given, groupsGiven, distinct, rfl⟩ := matching_eq_ok.mp found
  exact sound_matchNode inputSound fallbackSound given groupsGiven distinct branchesSound

/-- A match on one group of texts. -/
theorem sound_matchTexts {input : Expr F} {values : List String} (inputSound : Sound zoomed input)
    (given : values ≠ []) (nodup : values.Nodup) :
    Sound zoomed
      (matchNode input [(.labels (values.map .text), .bool true)] (.bool false)) := by
  apply sound_matchNode inputSound (sound_bool false)
  · simp
  · cases values with
    | nil => exact absurd rfl given
    | cons first rest => simp [isEmptyGroup]
  · simpa [caseLabels] using distinct_texts.mpr nodup
  · simp [SoundBranch, caseLabels]

theorem sound_isOneOf {property : String} {values : List String} (given : values ≠ [])
    (nodup : values.Nodup) : Sound zoomed (isOneOf property values : Expr F) :=
  sound_matchTexts (sound_get property) given nodup

end MapStyle.Expr
