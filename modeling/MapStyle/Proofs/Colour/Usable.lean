import MapStyle.Proofs.Colour.Mandatory
import MapStyle.Proofs.Colour.Ramp
import MapStyle.Proofs.Number.Double
import MapStyle.Theme.Colours
import MapStyle.Theme.Places

/-!
# Accepted colours that are computed with

Three settings take only hexadecimal colours, because outlines and depth colours are derived from
them. They accept the hexadecimal colours, with or without a line break at the end. What has none is
read, darkened and made into a ramp without fail; what has one is accepted all the same and then
refused by every one of these computations.
-/

namespace MapStyle.Colour

set_option autoImplicit false

/-! ### Texts with a line break at the end -/

section Texts

variable {text : String}

theorem HexDigits.head_ne_numberSign {digits : List Char} {red green blue : Nat}
    (hex : HexDigits digits red green blue) (rest : List Char) :
    (digits ++ rest).head? ≠ some '#' := by
  cases hex with
  | short isRed | long isRed =>
      simpa using Text.ne_of_isLatinHexDigit isRed.latin (by decide)

/-- A hexadecimal colour with a line break behind it spells nothing. -/
theorem HexColour.not_spells_broken {red green blue : Nat} (hex : HexColour text red green blue)
    (brokenRed brokenGreen brokenBlue : Int) :
    ¬Spells (text.push '\n') brokenRed brokenGreen brokenBlue := by
  intro spells
  obtain ⟨digits, isText, isDigits⟩ := hex
  have behind := spells.behind
  have rest : (text.push '\n').toList.dropWhile (· = '#') = digits ++ ['\n'] := by
    rw [String.toList_push, isText, List.cons_append]
    exact dropWhile_numberSigns 1 (isDigits.head_ne_numberSign ['\n'])
  rw [rest] at behind
  have counted := behind.length
  rw [List.length_append, List.length_singleton] at counted
  obtain three | six := isDigits.latin.2 <;> omega

theorem HexColour.unbroken {red green blue : Nat} (hex : HexColour text red green blue) :
    text.toList.getLast? ≠ some '\n' := by
  obtain ⟨digits, isText, isDigits⟩ := hex
  rw [isText]
  intro broken
  obtain sign | digit := List.mem_cons.mp (List.mem_of_getLast? broken)
  · cases sign
  · exact absurd (isDigits.latin.1 _ digit) (by decide)

/-- What a theme takes for a hexadecimal colour is one, up to a line break at its end. -/
theorem isHex_iff : isHex text = true ↔
    ∃ colour red green blue, HexColour colour red green blue ∧
      (text = colour ∨ text = colour.push '\n') := by
  constructor
  · intro isHex
    by_cases broken : text.toList.getLast? = some '\n'
    · have split : text.toList = text.toList.dropLast ++ ['\n'] :=
        (List.dropLast_append_getLast? _ broken).symm
      simp only [Colour.isHex, withoutFinalBreak, broken, if_true] at isHex
      rw [← String.toList_ofList (l := text.toList.dropLast)] at isHex
      obtain ⟨red, green, blue, hex⟩ := isHexCharacters_iff.mp isHex
      refine ⟨_, red, green, blue, hex, .inr ?_⟩
      rw [← String.toList_inj, String.toList_push, String.toList_ofList]
      exact split
    · obtain ⟨red, green, blue, hex⟩ := exists_hexColour isHex broken
      exact ⟨text, red, green, blue, hex, .inl rfl⟩
  · rintro ⟨colour, red, green, blue, hex, rfl | rfl⟩
    · simp only [Colour.isHex, withoutFinalBreak, hex.unbroken, if_false]
      exact isHexCharacters_iff.mpr ⟨red, green, blue, hex⟩
    · simp only [Colour.isHex, withoutFinalBreak, String.toList_push, List.getLast?_append,
        List.getLast?_singleton, Option.some_or, if_true, List.dropLast_concat]
      exact isHexCharacters_iff.mpr ⟨red, green, blue, hex⟩

end Texts

/-! ### Settings that take hexadecimal colours -/

inductive HexSetting where
  | waterFill
  | densityFill
  | densityFallbackFill

variable {F : Type} [Arithmetic F] {text : String}

/-- A part of a theme that gives the setting as the text is read. -/
def HexSetting.Accepts (F : Type) [Arithmetic F] (text : String) : HexSetting → Prop
  | .waterFill => ∃ description : Description F,
      description.get? "fill" = some (.text text) ∧ Succeeds (WaterColours.read description)
  | .densityFill => ∃ description : Description F,
      description.get? "fill_color" = some (.text text) ∧ Succeeds (DensityRange.read description)
  | .densityFallbackFill => ∃ description : Description F,
      description.get? "default_fill_color" = some (.text text) ∧
        Succeeds (DensityColours.read description)

section Descriptions

omit [Arithmetic F]

variable {description : Description F} {key : String} {hexOnly : Bool}

theorem mandatoryColour_eq_ok (given : description.get? key = some (.text text)) (setting : String)
    (isColour : isColour hexOnly text = true) :
    description.mandatoryColour key setting hexOnly = .ok (some text) := by
  unfold Description.mandatoryColour Description.mandatory
  rw [given]
  simp [check, isColour]

theorem isHex_of_mandatoryColour {setting : String} {colour : Option String}
    (given : description.get? key = some (.text text))
    (found : description.mandatoryColour key setting true = .ok colour) : isHex text = true := by
  have readAs := description.ensures_given key setting true colour found
  rw [given] at readAs
  cases readAs with
  | colour isColour => simpa [Colour.isColour] using isColour

end Descriptions

namespace HexSetting

theorem isHex_of_accepts {setting : HexSetting} (accepted : setting.Accepts F text) :
    isHex text = true := by
  cases setting with
  | waterFill =>
      obtain ⟨description, given, colours, read, _⟩ := accepted
      obtain ⟨fill, found, _⟩ := bind_eq_ok.mp read
      exact isHex_of_mandatoryColour given found
  | densityFill =>
      obtain ⟨description, given, range, read, _⟩ := accepted
      obtain ⟨threshold, _, rest⟩ := bind_eq_ok.mp read
      obtain ⟨fill, found, _⟩ := bind_eq_ok.mp rest
      exact isHex_of_mandatoryColour given found
  | densityFallbackFill =>
      obtain ⟨description, given, colours, read, _⟩ := accepted
      obtain ⟨ranges, _, rest⟩ := bind_eq_ok.mp read
      obtain ⟨fill, found, _⟩ := bind_eq_ok.mp rest
      exact isHex_of_mandatoryColour given found

theorem accepts_of_isHex (setting : HexSetting) (isHex : isHex text = true) :
    setting.Accepts F text := by
  have taken : isColour true text = true := by simp [isColour, isHex]
  cases setting with
  | waterFill =>
      refine ⟨⟨[("fill", .text text), ("line", .text "#000")]⟩, rfl, ?_⟩
      refine succeeds_bind_iff.mpr ⟨_, mandatoryColour_eq_ok rfl _ taken, ?_⟩
      refine succeeds_bind_iff.mpr ⟨_, mandatoryColour_eq_ok rfl _ (by decide), ?_⟩
      exact Returns.ok_iff.mpr trivial
  | densityFill =>
      refine ⟨⟨[("threshold", .number 0), ("fill_color", .text text)]⟩, rfl, ?_⟩
      refine succeeds_bind_iff.mpr ⟨_, rfl, ?_⟩
      refine succeeds_bind_iff.mpr ⟨_, mandatoryColour_eq_ok rfl _ taken, ?_⟩
      exact Returns.ok_iff.mpr trivial
  | densityFallbackFill =>
      refine ⟨⟨[("default_fill_color", .text text)]⟩, rfl, ?_⟩
      refine succeeds_bind_iff.mpr ⟨_, rfl, ?_⟩
      refine succeeds_bind_iff.mpr ⟨_, mandatoryColour_eq_ok rfl _ taken, ?_⟩
      exact Returns.ok_iff.mpr trivial

theorem accepts_iff (setting : HexSetting) : setting.Accepts F text ↔
    ∃ colour red green blue, HexColour colour red green blue ∧
      (text = colour ∨ text = colour.push '\n') :=
  ⟨fun accepted => isHex_iff.mp (isHex_of_accepts accepted),
    fun hex => accepts_of_isHex setting (isHex_iff.mpr hex)⟩

end HexSetting

/-! ### Computations with colours -/

/-- Every computation with the colour has a result. -/
structure Usable (F : Type) [Arithmetic F] (text : String) : Prop where
  channels : Succeeds (hexToRgb (F := F) text)
  darkened : ∀ factor : Number F, Succeeds factor.toReal → Succeeds (darken text factor)
  coordinates : Succeeds (hexToHsl (F := F) text)
  ramp : Returns (fun ramp => ramp.length = (depthFactors (F := F)).length)
    (bathymetryRamp (F := F) text)

/-- Every computation with the text ends because it is no hexadecimal colour. -/
structure Unusable (F : Type) [Arithmetic F] (text : String) : Prop where
  channels : hexToRgb (F := F) text = Result.ofTheme (.notHex text)
  darkened : ∀ factor : Number F, darken text factor = Result.ofTheme (.notHex text)
  coordinates : hexToHsl (F := F) text = Result.ofTheme (.notHex text)
  ramp : bathymetryRamp (F := F) text = Result.ofTheme (.notHex text)

theorem usable_of_read [OrderedArithmetic F] [WholeArithmetic F]
    (read : Succeeds (hexToRgb (F := F) text)) : Usable F text where
  channels := read
  darkened _ factorSucceeds := succeeds_darken_of_read read factorSucceeds
  coordinates := succeeds_hexToHsl read
  ramp := returns_bathymetryRamp read

theorem unusable_of_refused (refused : hexToRgb (F := F) text = Result.ofTheme (.notHex text)) :
    Unusable F text where
  channels := refused
  darkened factor := by
    unfold darken
    rw [refused]
    rfl
  coordinates := by
    unfold hexToHsl
    rw [refused]
    rfl
  ramp := by
    unfold bathymetryRamp hexToHsl
    rw [refused]
    rfl

/-- The settings that take only hexadecimal colours accept these, with or without a line break at
the end, and nothing else. With every accepted text that no line break ends all computations have a
result, and with one that a line break ends none of them has. -/
theorem accepted_usable_unless_broken [OrderedArithmetic F] [WholeArithmetic F]
    (setting : HexSetting) (text : String) :
    (setting.Accepts F text ↔ ∃ colour red green blue, HexColour colour red green blue ∧
      (text = colour ∨ text = colour.push '\n')) ∧
    (setting.Accepts F text → text.toList.getLast? ≠ some '\n' → Usable F text) ∧
    (setting.Accepts F text → text.toList.getLast? = some '\n' → Unusable F text) := by
  refine ⟨setting.accepts_iff, ?_, ?_⟩
  · intro accepted unbroken
    exact usable_of_read (succeeds_hexToRgb (HexSetting.isHex_of_accepts accepted) unbroken)
  · intro accepted broken
    obtain ⟨colour, red, green, blue, hex, rfl | rfl⟩ := setting.accepts_iff.mp accepted
    · exact absurd broken hex.unbroken
    · exact unusable_of_refused (hexToRgb_of_unspelled hex.not_spells_broken)

/-- In double precision all seven depth colours are derived from an accepted fill. -/
theorem deepBlue_usable : HexSetting.waterFill.Accepts Float "#0f1e2e" ∧ Usable Float "#0f1e2e" := by
  have accepted : HexSetting.waterFill.Accepts Float "#0f1e2e" :=
    HexSetting.accepts_of_isHex _ (by decide)
  obtain ⟨_, usable, _⟩ := accepted_usable_unless_broken (F := Float) .waterFill "#0f1e2e"
  exact ⟨accepted, usable accepted (by decide)⟩

/-- The same fill with a line break behind it is accepted and has no depth colours. -/
theorem brokenBlue_unusable : HexSetting.waterFill.Accepts Float "#0f1e2e\n" ∧
    hexToRgb (F := Float) "#0f1e2e\n" = Result.ofTheme (.notHex "#0f1e2e\n") ∧
    bathymetryRamp (F := Float) "#0f1e2e\n" = Result.ofTheme (.notHex "#0f1e2e\n") :=
  ⟨HexSetting.accepts_of_isHex _ (by decide), rfl, rfl⟩

end MapStyle.Colour
