import MapStyle.Presets
import MapStyle.Proofs.Colour.Painted
import MapStyle.Proofs.Colour.Resolved

/-!
# Classes that a category knows

Whether a class has a colour of its own is decided by what its category knows. The match that is
compiled for a category lists the classes that the category knows itself. The resolver goes by the
category whose colours are taken, so both agree on every class but one: a bridge without colours of
its own knows the service roads of the surface, and the match for bridges does not. A colour that a
table gives to a class which the category does not know is not used.
-/

namespace MapStyle

set_option autoImplicit false

variable {F : Type}

namespace Theme

variable {theme : Theme F} {category : Category} {featureClass property : String}

/-! ### Known by inheritance -/

/-- A class that a category knows only because it takes its colours from another one. -/
def KnownByInheritance (theme : Theme F) (category : Category) (featureClass : String) : Prop :=
  featureClass ∈ (theme.inheriting category).classes ∧ featureClass ∉ category.classes

theorem not_knownByInheritance_of_own
    (own : (theme.inheriting category).classes = category.classes) :
    ¬theme.KnownByInheritance category featureClass := by
  rintro ⟨inherited, unknown⟩
  rw [own] at inherited
  exact unknown inherited

/-- Roads know one class more than bridges. -/
theorem mem_road_not_bridge_iff :
    featureClass ∈ Category.road.classes ∧ featureClass ∉ Category.bridge.classes ↔
      featureClass = "service" := by
  constructor
  · rintro ⟨onSurface, notOnBridge⟩
    have eachElse : ∀ name ∈ Category.road.classes,
        name ∈ Category.bridge.classes ∨ name = "service" := by
      decide
    exact (eachElse featureClass onSurface).resolve_left notOnBridge
  · rintro rfl
    decide

/-- Service roads on bridges without colours of their own are all that is known by inheritance. -/
theorem knownByInheritance_iff : theme.KnownByInheritance category featureClass ↔
    category = .bridge ∧ theme.colours.road.bridge = none ∧ featureClass = "service" := by
  cases category with
  | bridge =>
      cases given : theme.colours.road.bridge with
      | none =>
          have source : theme.inheriting .bridge = .road := by
            simp [inheriting, roadVariant, given]
          rw [KnownByInheritance, source, mem_road_not_bridge_iff]
          simp
      | some variant =>
          have source : theme.inheriting .bridge = .bridge := by
            simp [inheriting, roadVariant, given]
          simp [KnownByInheritance, source]
  | tunnel =>
      -- The classes of tunnels are those of roads.
      have own : (theme.inheriting .tunnel).classes = Category.tunnel.classes := by
        unfold inheriting
        dsimp only
        split <;> rfl
      simpa using not_knownByInheritance_of_own own
  | _ => simpa using not_knownByInheritance_of_own rfl

/-- What a category knows by inheritance is resolved for the category that it inherits from. -/
theorem resolveColour_of_knownByInheritance
    (inherited : theme.KnownByInheritance category featureClass) :
    theme.resolveColour category featureClass = theme.resolveColour .road featureClass := by
  obtain ⟨rfl, noTable, _⟩ := knownByInheritance_iff.mp inherited
  have source : theme.inheriting .bridge = .road := by
    simp [inheriting, roadVariant, noTable]
  rw [← resolveColour_inheriting, source]

theorem resolveColour_of_not_mem (unknown : featureClass ∉ category.classes)
    (notInherited : ¬theme.KnownByInheritance category featureClass) :
    theme.resolveColour category featureClass = theme.resolveFallbackColour category := by
  apply resolveColour_of_unknown
  intro inherited
  exact notInherited ⟨inherited, unknown⟩

/-! ### The match against the resolver -/

section Match

variable [Arithmetic F]

/-- An expression that has a colour for every feature of a class. -/
def Colours (property featureClass : String) (colour : Option String) (expression : Expr F) :
    Prop :=
  ∀ feature : Feature F, feature property = some (.text featureClass) →
    expression.meaning feature = some (.ofText? colour)

omit [Arithmetic F] in
theorem resolved_of_override {colour : String}
    (isOverride : theme.overrideColour category = some colour) :
    theme.resolveColour category featureClass = some colour ∧
      theme.resolveFallbackColour category = some colour := by
  have inForce : theme.overrideColour (theme.inheriting category) = some colour := by
    rw [overrideColour_inheriting]
    exact isOverride
  simp [resolveColour, resolveFallbackColour, inForce]

/-- The expression for a category has the resolved colour of each class that the category knows,
and its default colour for all others. -/
theorem returns_classColour (theme : Theme F) (category : Category) (property : String) :
    Returns (fun expression => ∀ featureClass, Colours property featureClass
        (if featureClass ∈ category.classes then theme.resolveColour category featureClass
        else theme.resolveFallbackColour category) expression)
      (theme.classColour category property) := by
  unfold classColour
  split
  · rename_i colour isOverride
    refine Returns.ok_iff.mpr fun featureClass feature _ => ?_
    obtain ⟨resolved, fallback⟩ : theme.resolveColour category featureClass = some colour ∧
        theme.resolveFallbackColour category = some colour := resolved_of_override isOverride
    rw [resolved, fallback, ite_self]
    rfl
  · refine ⟨_, Expr.matching_texts category.classes_ne_nil category.nodup_classes, ?_⟩
    intro featureClass feature isClass
    have input : (Expr.get property : Expr F).meaning feature = some (.text featureClass) := by
      rw [Expr.meaning_get, isClass]
      rfl
    rw [Expr.meaning_matchTexts _ _ _ input]
    split <;> exact Expr.meaning_ofText? _

/-- The expression for a category and the resolver agree on every class, known or not, but for
service roads on bridges that are coloured like roads on the surface: these resolve like them, and
the expression has the default colour. -/
theorem agree_unless_inherited (theme : Theme F) (category : Category)
    (property featureClass : String) :
    Returns (fun expression =>
        (¬theme.KnownByInheritance category featureClass →
          Colours property featureClass (theme.resolveColour category featureClass) expression) ∧
        (featureClass ∉ category.classes →
          Colours property featureClass (theme.resolveFallbackColour category) expression))
      (theme.classColourNamed category.name property) ∧
    (featureClass ∉ category.classes → ¬theme.KnownByInheritance category featureClass →
      theme.resolveColour category featureClass = theme.resolveFallbackColour category) ∧
    (theme.KnownByInheritance category featureClass →
      theme.resolveColour category featureClass = theme.resolveColour .road featureClass) ∧
    (theme.KnownByInheritance category featureClass ↔
      category = .bridge ∧ theme.colours.road.bridge = none ∧ featureClass = "service") := by
  have named : theme.classColourNamed category.name property =
      theme.classColour category property := by
    cases category <;> rfl
  refine ⟨?_, resolveColour_of_not_mem, resolveColour_of_knownByInheritance,
    knownByInheritance_iff⟩
  rw [named]
  apply (returns_classColour theme category property).mono
  intro expression colours
  have ofClass := colours featureClass
  constructor
  · intro notInherited
    by_cases known : featureClass ∈ category.classes
    · rwa [if_pos known] at ofClass
    · rwa [if_neg known, ← resolveColour_of_not_mem known notInherited] at ofClass
  · intro unknown
    rwa [if_neg unknown] at ofClass

end Match

/-! ### Service roads on bridges -/

/-- Service roads of a colour of their own, and a colour for glaciers. -/
def alpineColours : ThemeColours Rat :=
  let parchment := Preset.Parchment.colours
  { parchment with
    land := { parchment.land with classes := ("glacier", "#ffffff") :: parchment.land.classes }
    road := { parchment.road with service := "#f7efdd" } }

def alpine : Theme Rat :=
  Theme.plain "Alpine" alpineColours

def alpineDescription : Json Rat :=
  .object [("name", .text "Alpine"), ("colors", alpineColours.toJson)]

theorem alpine_read : ofJson alpineDescription = .ok alpine := by
  with_unfolding_all rfl

/-- Bridges do not know service roads, and yet such a road does not resolve to their default colour,
which is what the expression for bridges has for it. -/
theorem service_on_bridge_no_default :
    ofJson alpineDescription = .ok alpine ∧ "service" ∉ Category.bridge.classes ∧
      alpine.resolveColour .bridge "service" = some "#f7efdd" ∧
      alpine.resolveFallbackColour .bridge = some "#e8d6b8" ∧
      Returns (Colours "class" "service" (some "#e8d6b8"))
        (alpine.classColourNamed "bridge" "class") := by
  refine ⟨alpine_read, by decide, rfl, rfl, ?_⟩
  exact (returns_classColour alpine .bridge "class").mono fun _ colours => colours "service"

/-! ### Tables of classes -/

/-- The table by which a category is coloured: land and land use have one, tunnels and bridges if
they have colours of their own. -/
def classTable? (theme : Theme F) (category : Category) : Option ClassTable :=
  match category with
  | .land => some theme.colours.land.classes
  | .landuse => some theme.colours.landuse.classes
  | .tunnel | .bridge => (theme.roadVariant category).map RoadVariantColours.classes
  | _ => none

/-- A category with a table is coloured with it and inherits nothing. -/
theorem palette_of_classTable? {table : ClassTable}
    (given : theme.classTable? category = some table) :
    theme.inheriting category = category ∧ (theme.palette category).table = table ∧
      ∀ entry ∈ table, entry.2 ∈ theme.colours.offered category := by
  have inTable (classes : ClassTable) (rest : Option String) :
      ∀ entry ∈ classes, entry.2 ∈ rest :: classes.map Prod.snd :=
    fun _ member => List.mem_cons_of_mem _ (List.mem_map_of_mem member)
  cases category with
  | land | landuse =>
      cases given
      exact ⟨rfl, rfl, inTable _ _⟩
  | tunnel | bridge =>
      obtain ⟨variant, isOwn, rfl⟩ := Option.map_eq_some_iff.mp given
      simp only [roadVariant] at isOwn
      refine ⟨by simp [inheriting, roadVariant, isOwn], by simp [palette, roadVariant, isOwn], ?_⟩
      simp only [ThemeColours.offered, isOwn, Option.map_some, Option.getD_some]
      exact inTable _ _
  | _ => cases given

/-- A category without an override in force has none. -/
theorem overrideColour_eq_none (checked : theme.OffersColours)
    (free : ∀ colour, ¬theme.OverriddenBy category colour) :
    theme.overrideColour category = none := by
  rw [Option.eq_none_iff_forall_ne_some]
  intro colour isOverride
  exact free colour ((overrideColour_eq_some_iff checked).mp isOverride)

variable [Arithmetic F]

/-- A colour that a table gives to a class is the colour of the class if the category knows it. If
not, the class has the default colour of the category. -/
theorem own_colour_if_known {value : Json F} {table : ClassTable} {colour : String}
    (built : ofJson value = .ok theme) (given : theme.classTable? category = some table)
    (free : ∀ override, ¬theme.OverriddenBy category override)
    (maps : table.lookup featureClass = some (some colour)) :
    (featureClass ∈ category.classes → theme.resolveColour category featureClass = some colour) ∧
      (featureClass ∉ category.classes →
        theme.resolveColour category featureClass = theme.resolveFallbackColour category) := by
  have checked := offersColours_ofJson built
  obtain ⟨noSource, isTable, offered⟩ := palette_of_classTable? given
  constructor
  · intro known
    obtain ⟨front, back, isSplit, _⟩ := List.lookup_eq_some_iff.mp maps
    have stands : some colour ∈ theme.colours.offered category :=
      offered (featureClass, some colour) (by simp [isSplit])
    have isColour := checked category colour (.inr stands)
    have own : (theme.palette category).own? featureClass = some colour := by
      rw [Palette.own?, isTable, maps]
      exact givenColour?_of_isColour isColour
    simp [resolveColour, noSource, overrideColour_eq_none checked free, paletteColour, known, own]
  · intro unknown
    exact resolveColour_of_unknown (noSource.symm ▸ unknown)

theorem alpine_wood_followed :
    ofJson alpineDescription = .ok alpine ∧
      alpine.classTable? .land = some alpine.colours.land.classes ∧
      (∀ override, ¬alpine.OverriddenBy .land override) ∧
      alpine.colours.land.classes.lookup "wood" = some (some "#dcd3ad") ∧
      alpine.resolveColour .land "wood" = some "#dcd3ad" := by
  have free : ∀ override, ¬alpine.OverriddenBy .land override := by
    rintro override ⟨config, given, _⟩
    cases given
  have maps : alpine.colours.land.classes.lookup "wood" = some (some "#dcd3ad") := rfl
  obtain ⟨followed, _⟩ := own_colour_if_known alpine_read rfl free maps
  exact ⟨alpine_read, rfl, free, maps, followed (by decide)⟩

/-- Land does not know glaciers, so the colour that its table gives them is not used. -/
theorem glacier_colour_not_used :
    ofJson alpineDescription = .ok alpine ∧
      alpine.classTable? .land = some alpine.colours.land.classes ∧
      (∀ override, ¬alpine.OverriddenBy .land override) ∧
      alpine.colours.land.classes.lookup "glacier" = some (some "#ffffff") ∧
      alpine.resolveColour .land "glacier" = some "#efe3c6" := by
  refine ⟨alpine_read, rfl, ?_, rfl, rfl⟩
  rintro override ⟨config, given, _⟩
  cases given

end Theme

end MapStyle
