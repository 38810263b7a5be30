import MapStyle.Number.Arithmetic
import MapStyle.Presets
import MapStyle.Proofs.Layer.Shields
import MapStyle.Proofs.Sprite.Store

/-!
# Shields that a style refers to

The layers of a style and its sprite sheets are made apart from each other, from the same theme.
Both find the same shields switched on, in the same order; so every icon that a layer asks for is
listed in the sheets, whatever the sheets held before.
-/

namespace MapStyle

set_option autoImplicit false

open SpriteStore (addTheme ratios indexPath)

variable {F : Type} {theme : Theme F} {sprites : List (ShieldSprite F)}

namespace Shield

theorem ofName?_name (kind : ShieldKind) : ShieldKind.ofName? kind.name = some kind := by
  cases kind <;> decide

/-- The sprites of the kinds that are switched on have the names that their layers ask for. -/
theorem map_name_sprites (config : ShieldsConfig F) (kinds : List ShieldKind) :
    (((kinds.map fun kind => (kind, config.style kind)).filter fun entry => entry.2.enabled).map
      fun (kind, style) => ShieldSprite.mk kind.name (style.sprite.getD "null") style).map
        (fun sprite => some sprite.name) = kinds.flatMap (kindIcons config) := by
  induction kinds with
  | nil => rfl
  | cons kind rest ih =>
      rw [List.flatMap_cons, ← ih, kindIcons]
      cases enabled : (config.style kind).enabled with
      | false => simp [enabled]
      | true => simp [enabled]

/-- The sprites of a theme are those that its layers ask for, and their kinds are known. -/
theorem icons_of_shieldSprites (listed : theme.shieldSprites = .ok sprites) :
    sprites ≠ [] ∧ sprites.map (fun sprite => some sprite.name) = icons theme ∧
      ∀ sprite ∈ sprites, ∃ kind, ShieldKind.ofName? sprite.kind = some kind := by
  unfold Theme.shieldSprites at listed
  unfold icons
  split at listed
  · cases listed
  · rename_i config given
    split at listed
    · cases listed
    · rename_i enabled
      simp only [Bool.not_eq_true', Bool.not_eq_false] at enabled
      simp only at listed
      split at listed
      · cases listed
      · rename_i notEmpty
        cases listed
        rw [given, Option.filter_some, if_pos enabled]
        refine ⟨by simpa using notEmpty, map_name_sprites config ShieldKind.all, ?_⟩
        intro sprite member
        obtain ⟨⟨kind, style⟩, _, rfl⟩ := List.mem_map.mp member
        exact ⟨kind, ofName?_name kind⟩

/-- A theme without sprites is refused as a mistake of whoever asked for them, and none of its
layers asks for one. -/
theorem icons_of_refused {fault : Fault F} (refused : theme.shieldSprites = .error fault) :
    fault.nature = .invalid ∧ icons theme = [] := by
  unfold Theme.shieldSprites at refused
  unfold icons
  split at refused
  · rename_i absent
    cases refused
    exact ⟨rfl, by rw [absent]; rfl⟩
  · rename_i config given
    rw [given]
    split at refused
    · rename_i disabled
      cases refused
      simp only [Bool.not_eq_true'] at disabled
      exact ⟨rfl, by simp [Option.filter_some, disabled]⟩
    · rename_i enabled
      simp only [Bool.not_eq_true', Bool.not_eq_false] at enabled
      simp only at refused
      split at refused
      · rename_i empty
        cases refused
        refine ⟨rfl, ?_⟩
        rw [Option.filter_some, if_pos enabled]
        show ShieldKind.all.flatMap (kindIcons config) = []
        rw [← map_name_sprites, List.isEmpty_iff.mp empty, List.map_nil]
      · cases refused

variable [Arithmetic F]

def twoShields : ShieldsConfig Rat :=
  let standard : ShieldsConfig Rat := .standard
  { standard with
    interstate := { standard.interstate with textSize := some [5, 8, 12.5, 11] }
    stateHighway := { standard.stateHighway with enabled := false } }

def twoShieldsTheme : Theme Rat :=
  { Theme.plain "Two shields" Preset.Monochrome.colours with shields := some twoShields }

theorem twoShieldsTheme_ascend : twoShieldsTheme.ShieldsAscend := by
  rintro config given _
  cases given
  refine ⟨rfl, fun kind _ => ?_⟩
  cases kind with
  | interstate =>
      refine ⟨rfl, ?_⟩
      rintro size same
      cases same
      exact .inr ⟨5, 8, 12.5, 11, rfl, by decide +kernel⟩
  | usHighway => exact ⟨rfl, by rintro size ⟨⟩⟩
  | stateHighway => exact ⟨rfl, by rintro size ⟨⟩⟩

theorem twoShieldsTheme_added : ∃ written after,
    (addTheme twoShieldsTheme ⟨"", ["sprites"]⟩ false).Ends ⟨.empty, ""⟩ written after :=
  Work.ends_of_isOk (by decide +kernel)

end Shield

end MapStyle
