import MapStyle.Expr.Filter
import MapStyle.Expr.Width
import MapStyle.Proofs.Expr.Choice
import MapStyle.Proofs.Expr.Meaning

/-!
# Matches on the class of a road

The width of a road at one zoom is found in two ways: from the stops of its class, by name, and by
the renderer in a match that has been built from them. The match knows seven classes, one of them
under three labels, and all others by its default; a name leads to the same row either way.
-/

namespace MapStyle

set_option autoImplicit false

namespace RoadClass

/-- The class of road with whose row a name is drawn, if there is one. -/
def drawn? (featureClass : String) : Option RoadClass :=
  ofName? (if residentialAliases.contains featureClass then "residential" else featureClass)

theorem drawn?_name (roadClass : RoadClass) : drawn? roadClass.name = some roadClass := by
  cases roadClass <;> decide

theorem drawn?_empty : drawn? "" = none := by
  decide

theorem mem_all (roadClass : RoadClass) : roadClass ∈ all := by
  cases roadClass <;> decide

/-- A name that leads to the same row and is known to the match, or is empty. -/
def drawnName (featureClass : String) : String :=
  ((drawn? featureClass).map name).getD ""

theorem drawn?_drawnName (featureClass : String) :
    drawn? (drawnName featureClass) = drawn? featureClass := by
  unfold drawnName
  cases drawn? featureClass with
  | none => exact drawn?_empty
  | some roadClass => exact drawn?_name roadClass

theorem drawn?_of_alias {featureClass : String} (isAlias : featureClass ∈ residentialAliases) :
    drawn? featureClass = drawn? "residential" := by
  have contained : residentialAliases.contains featureClass = true := by simpa using isAlias
  rw [drawn?, if_pos contained]
  decide

theorem drawn?_of_unknown {featureClass : String}
    (unknown : featureClass ∉ Filter.normalRoadClasses) : drawn? featureClass = none := by
  rw [Filter.normalRoadClasses, List.mem_append, not_or] at unknown
  obtain ⟨noClass, noAlias⟩ := unknown
  have notContained : ¬ residentialAliases.contains featureClass = true := by simpa using noAlias
  rw [drawn?, if_neg notContained, ofName?, List.find?_eq_none]
  intro roadClass _ named
  have same : roadClass.name = featureClass := by simpa using named
  apply noClass
  rw [← same]
  cases roadClass <;> decide

end RoadClass

variable {F : Type}

/-- The class of a feature, where it is a text. -/
def Feature.IsOfClass (feature : Feature F) (featureClass : String) : Prop :=
  feature "class" = some (.text featureClass)

variable [Arithmetic F]

namespace Expr

/-- An expression with the width of every class of road for its features. -/
def Gives (width : String → Except NumberError (Number F)) (expression : Expr F) : Prop :=
  ∀ (feature : Feature F) (featureClass : String), feature.IsOfClass featureClass →
    ∃ value, width featureClass = .ok value ∧ expression.meaning feature = some (.number value)

end Expr

namespace RoadWidths

open MapStyle.Expr (Gives)

variable {widths : RoadWidths F} {featureClass other : String} {zoom scale start : Number F}

/-! ### Names of classes -/

omit [Arithmetic F] in
theorem rowOf_congr (alike : RoadClass.drawn? featureClass = RoadClass.drawn? other) :
    widths.rowOf featureClass = widths.rowOf other := by
  show ((RoadClass.drawn? featureClass).bind widths.row).getD [] = _
  rw [alike]
  rfl

omit [Arithmetic F] in
theorem rowOf_name (roadClass : RoadClass) :
    widths.rowOf roadClass.name = (widths.row roadClass).getD [] := by
  show ((RoadClass.drawn? roadClass.name).bind widths.row).getD [] = _
  rw [RoadClass.drawn?_name]
  rfl

omit [Arithmetic F] in
theorem rowOf_of_alias (isAlias : featureClass ∈ residentialAliases) :
    widths.rowOf featureClass = widths.residential.getD [] := by
  rw [rowOf_congr (RoadClass.drawn?_of_alias isAlias)]
  exact rowOf_name .residential

omit [Arithmetic F] in
theorem rowOf_of_unknown (unknown : featureClass ∉ Filter.normalRoadClasses) :
    widths.rowOf featureClass = [] := by
  show ((RoadClass.drawn? featureClass).bind widths.row).getD [] = []
  rw [RoadClass.drawn?_of_unknown unknown]
  rfl

theorem stopsOf_congr (alike : RoadClass.drawn? featureClass = RoadClass.drawn? other) :
    widths.stopsOf featureClass = widths.stopsOf other := by
  unfold stopsOf
  rw [rowOf_congr alike]

/-- Classes with the same row have the same width. -/
theorem widthAt_congr (alike : RoadClass.drawn? featureClass = RoadClass.drawn? other) :
    widths.widthAt featureClass zoom scale = widths.widthAt other zoom scale := by
  unfold widthAt
  rw [stopsOf_congr alike]

/-- A class without a row has the stops of the default row. -/
theorem stopsOf_of_unknown (unknown : featureClass ∉ Filter.normalRoadClasses) :
    widths.stopsOf featureClass = Zoom.normalize (widths.fallback.getD []) := by
  unfold stopsOf
  rw [rowOf_of_unknown unknown]
  show (Zoom.normalize (widths.fallback.getD []) >>= pure) = _
  exact bind_pure _

/-- A label covers the names that are drawn with the row of its class. -/
theorem covers_matchLabel (roadClass : RoadClass) :
    (matchLabel roadClass : Expr F).covers (.text featureClass) =
      (roadClass.name ==
        if residentialAliases.contains featureClass then "residential" else featureClass) := by
  have single (name : String) (noAlias : residentialAliases.contains name = false)
      (different : name ≠ "residential") :
      (featureClass == name) = (name ==
        if residentialAliases.contains featureClass then "residential" else featureClass) := by
    split
    · rename_i isAlias
      rw [beq_false_of_ne different]
      apply beq_false_of_ne
      rintro rfl
      rw [isAlias] at noAlias
      cases noAlias
    · exact BEq.comm
  cases roadClass with
  | residential =>
      show (Expr.labels (List.map .text ("residential" :: residentialAliases))).covers _ = _
      rw [Expr.covers_texts, List.contains_cons]
      cases isAlias : residentialAliases.contains featureClass with
      | true => simp [RoadClass.name]
      | false =>
          rw [Bool.or_false]
          exact BEq.comm
  | _ => exact single _ (by decide) (by decide)

/-! ### The match at one zoom -/

/-- The width of a class at a zoom, times a scale. -/
def scaledWidth (widths : RoadWidths F) (zoom scale : Number F) (featureClass : String) :
    Except NumberError (Number F) := do
  (← widths.widthAt featureClass zoom widthWithoutStops).mul scale

def widthBranches (width : String → Number F) : List (Expr F × Expr F) :=
  RoadClass.all.map fun roadClass => (matchLabel roadClass, .number (width roadClass.name))

/-- The match with a width for every class of road and one for all others. -/
def classMatch (width : String → Number F) : Expr F :=
  Expr.matchNode (.get "class") (widthBranches width) (.number (width ""))

theorem meaning_classMatch {width : String → Number F} {feature : Feature F}
    (isOfClass : feature.IsOfClass featureClass) :
    (classMatch width).meaning feature =
      some (.number (width (RoadClass.drawnName featureClass))) := by
  have input : (Expr.get "class" : Expr F).meaning feature = some (.text featureClass) := by
    rw [Expr.meaning_get, isOfClass]
    rfl
  have found : (RoadClass.all.find? fun roadClass =>
      (matchLabel roadClass : Expr F).covers (.text featureClass)) =
      RoadClass.drawn? featureClass := by
    simp only [covers_matchLabel]
    rfl
  rw [classMatch, Expr.meaning_matchNode input, widthBranches, List.find?_map, RoadClass.drawnName]
  simp only [Function.comp_def, found]
  cases RoadClass.drawn? featureClass <;> rfl

theorem scaledWidth_drawnName :
    widths.scaledWidth zoom scale (RoadClass.drawnName featureClass) =
      widths.scaledWidth zoom scale featureClass := by
  unfold scaledWidth
  rw [widthAt_congr (RoadClass.drawn?_drawnName featureClass)]

theorem gives_classMatch {width : String → Number F}
    (widthsFound : ∀ name, widths.scaledWidth zoom scale name = .ok (width name)) :
    Gives (widths.scaledWidth zoom scale) (classMatch width) := by
  intro feature featureClass isOfClass
  refine ⟨width (RoadClass.drawnName featureClass), ?_, meaning_classMatch isOfClass⟩
  rw [← scaledWidth_drawnName, widthsFound]

/-- No label of the match occurs twice. -/
theorem matching_classMatch (width : String → Number F) :
    Expr.matching (.get "class") (widthBranches width) (.number (width "")) =
      .ok (classMatch width) := by
  have texts : Expr.Distinct (["motorway", "trunk", "primary", "secondary", "tertiary",
      "residential", "minor", "unclassified", "service"].map (Expr.text : String → Expr F)) :=
    Expr.distinct_texts.mpr (by decide)
  have distinct : Expr.Distinct
      ((RoadClass.all.map (matchLabel (F := F))).flatMap Expr.caseLabels) :=
    texts
  refine Expr.matching_eq_ok.mpr ⟨by simp [widthBranches, RoadClass.all], ?_, ?_, rfl⟩
  · intro branch member
    obtain ⟨roadClass, _, rfl⟩ := List.mem_map.mp member
    cases roadClass <;> rfl
  · rw [widthBranches, List.map_map]
    exact distinct

omit [Arithmetic F] in
theorem succeeds_of_lift_map {α β : Type} {outcome : Except NumberError α} {change : α → β}
    {result : β} (found : (liftM (outcome.map change) : Result F β) = .ok result) :
    Succeeds outcome := by
  obtain ⟨value, outcomeFound, _⟩ := map_eq_ok.mp (lift_eq_ok.mp found)
  exact succeeds_iff.mpr ⟨value, outcomeFound⟩

/-- The output of the match for one name. -/
theorem scaledOutput_eq (name : String) :
    (do return .number (← (← widths.widthAt name zoom widthWithoutStops).mul scale) :
      Except NumberError (Expr F)) = (widths.scaledWidth zoom scale name).map .number := by
  unfold scaledWidth
  cases widths.widthAt name zoom widthWithoutStops with
  | error fault => rfl
  | ok width => rfl

theorem widthMatch_of_widths {width : String → Number F}
    (found : ∀ name, widths.scaledWidth zoom scale name = .ok (width name)) :
    widths.widthMatch zoom scale = .ok (classMatch width) := by
  have scaled (name : String) :
      (liftM ((widths.scaledWidth zoom scale name).map Expr.number) : Result F (Expr F)) =
        .ok (.number (width name)) := by
    rw [found]
    rfl
  unfold widthMatch
  simp only [scaledOutput_eq]
  refine bind_eq_ok.mpr ⟨widthBranches width, mapM_eq_ok_map fun roadClass _ => ?_, ?_⟩
  · exact bind_eq_ok.mpr ⟨_, scaled roadClass.name, rfl⟩
  · exact bind_eq_ok.mpr ⟨_, scaled "", matching_classMatch width⟩

/-- The match exists exactly if every class has a width. -/
theorem succeeds_widthMatch_iff :
    Succeeds (widths.widthMatch zoom scale) ↔
      ∀ name, Succeeds (widths.scaledWidth zoom scale name) := by
  constructor
  · intro succeeds name
    unfold widthMatch at succeeds
    simp only [scaledOutput_eq] at succeeds
    obtain ⟨branches, branchesFound, rest⟩ := succeeds_bind_iff.mp succeeds
    obtain ⟨fallback, fallbackFound, _⟩ := succeeds_bind_iff.mp rest
    rw [← scaledWidth_drawnName, RoadClass.drawnName]
    cases RoadClass.drawn? name with
    | none => exact succeeds_of_lift_map fallbackFound
    | some roadClass =>
        have branchesSucceed := succeeds_mapM_iff.mp (succeeds_iff.mpr ⟨_, branchesFound⟩)
        obtain ⟨output, outputFound, _⟩ :=
          succeeds_bind_iff.mp (branchesSucceed roadClass roadClass.mem_all)
        exact succeeds_of_lift_map outputFound
  · intro each
    choose width found using fun name => succeeds_iff.mp (each name)
    exact succeeds_iff.mpr ⟨_, widthMatch_of_widths found⟩

theorem gives_widthMatch :
    Ensures (Gives (widths.scaledWidth zoom scale)) (widths.widthMatch zoom scale) := by
  intro result found
  have each := succeeds_widthMatch_iff.mp (succeeds_iff.mpr ⟨result, found⟩)
  choose width widthFound using fun name => succeeds_iff.mp (each name)
  rw [widthMatch_of_widths widthFound] at found
  cases found
  exact gives_classMatch widthFound

end RoadWidths

end MapStyle
