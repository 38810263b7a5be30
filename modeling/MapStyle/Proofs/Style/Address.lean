import Mathlib.Data.List.TakeWhile
import MapStyle.Command.Run
import MapStyle.Proofs.Style.Distinct

/-!
# Addresses from options and variables

A style takes each of its addresses from the option for it, if there is one, or else from a variable
of the environment, or else from the set of addresses that is chosen. The address of the areas of
places is the same whichever of the two it comes from. The address of tiles is not: slashes at its
end are taken off an option but stay in a variable, and then they stand in every style.
-/

namespace MapStyle

set_option autoImplicit false

/-! ### Slashes at the end -/

namespace Text

/-- The last character of a text is no slash. -/
def Unslashed (text : String) : Prop :=
  text.toList.getLast? ≠ some '/'

variable {text : String}

/-- Nothing but slashes is taken off. -/
theorem exists_finalSlashes (text : String) :
    ∃ count, text.toList = (withoutFinalSlashes text).toList ++ List.replicate count '/' := by
  let isSlash (character : Char) : Bool := character = '/'
  let backwards := text.toList.reverse
  have slashes : backwards.takeWhile isSlash =
      List.replicate (backwards.takeWhile isSlash).length '/' := by
    refine List.eq_replicate_of_mem fun character member => ?_
    have passed : isSlash character = true := List.mem_takeWhile_imp member
    exact of_decide_eq_true passed
  refine ⟨(backwards.takeWhile isSlash).length, ?_⟩
  calc text.toList
      = (backwards.takeWhile isSlash ++ backwards.dropWhile isSlash).reverse := by
        rw [List.takeWhile_append_dropWhile, List.reverse_reverse]
    _ = (backwards.dropWhile isSlash).reverse ++ (backwards.takeWhile isSlash).reverse :=
        List.reverse_append
    _ = (withoutFinalSlashes text).toList ++ _ := by
        rw [slashes, List.reverse_replicate, List.length_replicate, withoutFinalSlashes,
          String.toList_ofList]

theorem unslashed_withoutFinalSlashes (text : String) : Unslashed (withoutFinalSlashes text) := by
  rw [Unslashed, withoutFinalSlashes, String.toList_ofList, List.getLast?_reverse]
  intro isSlash
  have first := List.head?_dropWhile_not (fun character => decide (character = '/'))
    text.toList.reverse
  simp [isSlash] at first

/-- A text stays as it is exactly if no slash stands at its end. -/
theorem withoutFinalSlashes_eq_self_iff : withoutFinalSlashes text = text ↔ Unslashed text := by
  constructor
  · intro same
    rw [← same]
    exact unslashed_withoutFinalSlashes text
  · intro unslashed
    obtain ⟨count, isText⟩ := exists_finalSlashes text
    cases count with
    | zero =>
        rw [List.replicate_zero, List.append_nil] at isText
        exact (String.toList_inj.mp isText).symm
    | succ before =>
        rw [Unslashed, isText] at unslashed
        exact absurd (by simp [List.getLast?_append, List.getLast?_replicate]) unslashed

end Text

/-! ### Where an address comes from -/

namespace StyleUrls

/-- No text is given, or an empty one. -/
def Blank (value : Option String) : Prop :=
  ∀ text ∈ value, text = ""

theorem given?_of_blank {value : Option String} (blank : Blank value) : given? value = none := by
  cases value with
  | none => rfl
  | some text =>
      cases blank text rfl
      rfl

theorem given?_of_ne {text : String} (notEmpty : text ≠ "") : given? (some text) = some text :=
  Option.filter_eq_some_iff.mpr ⟨rfl, by simp [notEmpty]⟩

theorem blank_or (value : Option String) : Blank value ∨ ∃ text, value = some text ∧ text ≠ "" := by
  cases value with
  | none => exact .inl (by simp [Blank])
  | some text =>
      by_cases empty : text = ""
      · exact .inl (by simp [Blank, empty])
      · exact .inr ⟨text, rfl, empty⟩

/-- An address comes from an option, from a variable if there is no such option, or else from a set
of addresses. Something may be taken off an option, but off no variable. -/
inductive Chosen (inOptions inVariables : Option String) (clean : String → String)
    (inSet : Option String) : Option String → Prop where
  | byOption {text : String} (given : inOptions = some text) (notEmpty : text ≠ "") :
      Chosen inOptions inVariables clean inSet (some (clean text))
  | byVariable {text : String} (noOption : Blank inOptions) (given : inVariables = some text)
      (notEmpty : text ≠ "") : Chosen inOptions inVariables clean inSet (some text)
  | bySet (noOption : Blank inOptions) (noVariable : Blank inVariables) :
      Chosen inOptions inVariables clean inSet inSet

theorem chosen_or (inOptions inVariables : Option String) (clean : String → String)
    (inSet : Option String) :
    Chosen inOptions inVariables clean inSet
      (((given? inOptions).map clean).or ((given? inVariables).or inSet)) := by
  obtain noOption | ⟨text, rfl, notEmpty⟩ := blank_or inOptions
  · rw [given?_of_blank noOption]
    obtain noVariable | ⟨text, rfl, notEmpty⟩ := blank_or inVariables
    · rw [given?_of_blank noVariable]
      exact .bySet noOption noVariable
    · rw [given?_of_ne notEmpty]
      exact .byVariable noOption rfl notEmpty
  · rw [given?_of_ne notEmpty]
    exact .byOption rfl notEmpty

theorem chosen_getD (inOptions inVariables : Option String) (clean : String → String)
    (inSet : String) :
    Chosen inOptions inVariables clean (some inSet)
      (some (((given? inOptions).map clean).getD ((given? inVariables).getD inSet))) := by
  have found := chosen_or inOptions inVariables clean (some inSet)
  rwa [Option.or_some, Option.or_some] at found

end StyleUrls

namespace Command

open StyleUrls (Blank Chosen Environment given? given?_of_blank given?_of_ne)

/-- The set of addresses of the environment that is named: by an option or else by a variable. -/
inductive ChosenSet (environment : Environment) (options : UrlOptions) : StyleUrls → Prop where
  | published
      (named : options.environment.or environment.environment = some StyleUrls.publishedName) :
      ChosenSet environment options .published
  | onComputer
      (other : options.environment.or environment.environment ≠ some StyleUrls.publishedName) :
      ChosenSet environment options .onComputer

/-- Where all parts of the addresses come from. -/
structure Configured (environment : Environment) (options : UrlOptions) (set urls : StyleUrls) :
    Prop where
  chosen : ChosenSet environment options set
  data : Chosen options.dataUrl environment.dataUrl Text.withoutFinalSlashes (some set.dataBase)
    (some urls.dataBase)
  places : Chosen options.placesUrl environment.placesUrl id set.places urls.places
  glyphs : Chosen none environment.glyphsUrl id (some set.glyphsBase) (some urls.glyphsBase)
  sprite : Chosen none environment.spriteUrl id (some set.spriteBase) (some urls.spriteBase)
  glyphsPath : urls.glyphsPath = set.glyphsPath
  spritePath : urls.spritePath = set.spritePath

theorem chosenSet_ofName (environment : Environment) (options : UrlOptions) :
    ChosenSet environment options
      (.ofName ((options.environment.or environment.environment).getD "local")) := by
  unfold StyleUrls.ofName
  split
  · rename_i same
    refine .published ?_
    cases found : options.environment.or environment.environment with
    | none => simp [found, StyleUrls.publishedName] at same
    | some name => rw [← same, found, Option.getD_some]
  · rename_i different
    refine .onComputer fun named => different ?_
    rw [named, Option.getD_some]

theorem configured_urlsOf (environment : Environment) (options : UrlOptions) :
    Configured environment options
      (.ofName ((options.environment.or environment.environment).getD "local"))
      (urlsOf environment options) where
  chosen := chosenSet_ofName environment options
  data := StyleUrls.chosen_getD _ _ _ _
  places := by
    have found := StyleUrls.chosen_or options.placesUrl environment.placesUrl id
      (StyleUrls.ofName ((options.environment.or environment.environment).getD "local")).places
    rwa [Option.map_id_fun, id] at found
  glyphs := StyleUrls.chosen_getD none _ id _
  sprite := StyleUrls.chosen_getD none _ id _
  glyphsPath := rfl
  spritePath := rfl

/-! ### An option or a variable -/

def withPlaces (value : Option String) (options : UrlOptions) : UrlOptions :=
  { options with placesUrl := value }

def withData (value : Option String) (options : UrlOptions) : UrlOptions :=
  { options with dataUrl := value }

section Routes

variable {environment : Environment} {text : String} {blank : Option String}
  (notEmpty : text ≠ "") (options : UrlOptions)

include notEmpty

theorem urlsOf_places_by_either (noOption : Blank blank) :
    urlsOf { environment with placesUrl := some text } (withPlaces blank options) =
      urlsOf environment (withPlaces (some text) options) := by
  simp only [withPlaces, urlsOf, StyleUrls.ofEnvironment, given?_of_blank noOption,
    given?_of_ne notEmpty, Option.none_or, Option.some_or]

/-- A text that is given as a variable stays as it is. -/
theorem urlsOf_data_by_variable (noOption : Blank blank) :
    urlsOf { environment with dataUrl := some text } (withData blank options) =
      { urlsOf environment (withData (some text) options) with dataBase := text } := by
  simp only [withData, urlsOf, StyleUrls.ofEnvironment, given?_of_blank noOption,
    given?_of_ne notEmpty, Option.map_none, Option.getD_none, Option.getD_some]

theorem dataBase_by_option :
    (urlsOf environment (withData (some text) options)).dataBase =
      Text.withoutFinalSlashes text := by
  simp only [withData, urlsOf, given?_of_ne notEmpty, Option.map_some, Option.getD_some]

theorem urlsOf_data_by_either_iff (noOption : Blank blank) :
    urlsOf { environment with dataUrl := some text } (withData blank options) =
      urlsOf environment (withData (some text) options) ↔ Text.Unslashed text := by
  rw [← Text.withoutFinalSlashes_eq_self_iff, urlsOf_data_by_variable notEmpty options noOption]
  constructor
  · intro same
    rw [← dataBase_by_option notEmpty options, ← same]
  · intro same
    have kept : (urlsOf environment (withData (some text) options)).dataBase = text :=
      (dataBase_by_option notEmpty options).trans same
    generalize urlsOf environment (withData (some text) options) = urls at kept ⊢
    rw [← kept]

end Routes

end Command

/-! ### Documents and runs -/

variable {F : Type} [Arithmetic F]

/-- Every document tells from where its tiles come. -/
theorem StyleDocument.dataBase_eq_of_compile {theme : Theme F} {first second : StyleUrls}
    {style : StyleDocument F} (compiled : compile theme first = .ok style)
    (otherCompiled : compile theme second = .ok style) : first.dataBase = second.dataBase := by
  have same : sourcesOf theme first = sourcesOf theme second :=
    (compile_eq_ok compiled).2.2.symm.trans (compile_eq_ok otherCompiled).2.2
  have firstSource := congrArg List.head? same
  simpa [sourcesOf, Source.global, Source.vector, StyleUrls.archive] using firstSource

namespace Command

open StyleUrls (Blank Environment)

/-- A command with other options for addresses, if it has any. -/
def withUrls (change : UrlOptions → UrlOptions) : Command F → Command F
  | .build preset output options => .build preset output (change options)
  | .all directory options => .all directory (change options)
  | .check preset timeout progress options => .check preset timeout progress (change options)
  | other => other

/-- A command uses its options and the variables for the addresses only. -/
theorem run_eq_of_urls {environment other : Environment}
    {change otherChange : UrlOptions → UrlOptions}
    (same : ∀ options, urlsOf environment (change options) = urlsOf other (otherChange options))
    (network : Reach.Network) (verbose : Bool) (command : Command F) (files : FileTree) :
    run ⟨environment, network⟩ ⟨verbose, command.withUrls change⟩ files =
      run ⟨other, network⟩ ⟨verbose, command.withUrls otherChange⟩ files := by
  have performed : perform ⟨environment, network⟩ ⟨verbose, command.withUrls change⟩ =
      perform ⟨other, network⟩ ⟨verbose, command.withUrls otherChange⟩ := by
    cases command <;> simp only [perform, withUrls, same]
  simp only [run, performed]

/-- A text for the areas of places comes to the same as an option and as a variable: the same
addresses, and the same run of every command. -/
structure PlacesByEither (F : Type) [Arithmetic F] (environment : Environment) (text : String)
    (blank : Option String) : Prop where
  urls : ∀ options,
    urlsOf { environment with placesUrl := some text } (withPlaces blank options) =
      urlsOf environment (withPlaces (some text) options)
  runs : ∀ network verbose (command : Command F) files,
    run ⟨{ environment with placesUrl := some text }, network⟩
        ⟨verbose, command.withUrls (withPlaces blank)⟩ files =
      run ⟨environment, network⟩ ⟨verbose, command.withUrls (withPlaces (some text))⟩ files

/-- A text for the tiles stays as it is as a variable and loses the slashes at its end as an option.
If there are none, it comes to the same both ways, and else to other styles of every theme. -/
structure DataByEither (F : Type) [Arithmetic F] (environment : Environment) (text : String)
    (blank : Option String) : Prop where
  urls : ∀ options,
    urlsOf { environment with dataUrl := some text } (withData blank options) =
      { urlsOf environment (withData (some text) options) with dataBase := text }
  same_iff : ∀ options,
    urlsOf { environment with dataUrl := some text } (withData blank options) =
      urlsOf environment (withData (some text) options) ↔ Text.Unslashed text
  runs : Text.Unslashed text → ∀ network verbose (command : Command F) files,
    run ⟨{ environment with dataUrl := some text }, network⟩
        ⟨verbose, command.withUrls (withData blank)⟩ files =
      run ⟨environment, network⟩ ⟨verbose, command.withUrls (withData (some text))⟩ files
  styles : ∀ options (theme : Theme F) style,
    StyleDocument.compile theme (urlsOf environment (withData (some text) options)) = .ok style →
      (StyleDocument.compile theme
          (urlsOf { environment with dataUrl := some text } (withData blank options)) = .ok style ↔
        Text.Unslashed text)

section Either

variable {environment : Environment} {text : String} {blank : Option String}
  (notEmpty : text ≠ "") (noOption : Blank blank)

include notEmpty noOption

theorem placesByEither : PlacesByEither F environment text blank where
  urls options := urlsOf_places_by_either notEmpty options noOption
  runs := run_eq_of_urls fun options => urlsOf_places_by_either notEmpty options noOption

theorem dataByEither : DataByEither F environment text blank where
  urls options := urlsOf_data_by_variable notEmpty options noOption
  same_iff options := urlsOf_data_by_either_iff notEmpty options noOption
  runs unslashed := run_eq_of_urls fun options =>
    (urlsOf_data_by_either_iff notEmpty options noOption).mpr unslashed
  styles := by
    intro options theme style compiled
    constructor
    · intro otherCompiled
      have sameBase := StyleDocument.dataBase_eq_of_compile otherCompiled compiled
      rw [urlsOf_data_by_variable notEmpty options noOption,
        dataBase_by_option notEmpty options] at sameBase
      exact Text.withoutFinalSlashes_eq_self_iff.mp sameBase.symm
    · intro unslashed
      rwa [(urlsOf_data_by_either_iff notEmpty options noOption).mpr unslashed]

end Either

/-- Every address comes from its option, its variable or the set that is chosen. It does not matter
which of the first two gives the address of the areas of places. For that of the tiles it does
exactly if a slash stands at its end. -/
theorem addresses_chosen (environment : Environment) :
    (∀ options, ∃ set, Configured environment options set (urlsOf environment options)) ∧
    ∀ text blank, text ≠ "" → Blank blank →
      PlacesByEither F environment text blank ∧ DataByEither F environment text blank ∧
        Text.Unslashed (Text.withoutFinalSlashes text) ∧
        ∃ count, text.toList =
          (Text.withoutFinalSlashes text).toList ++ List.replicate count '/' := by
  refine ⟨fun options => ⟨_, configured_urlsOf environment options⟩, ?_⟩
  intro text blank notEmpty noOption
  exact ⟨placesByEither notEmpty noOption, dataByEither notEmpty noOption,
    Text.unslashed_withoutFinalSlashes text, Text.exists_finalSlashes text⟩

/-- The monochrome style with tiles from a server whose address is given with a slash at its end:
with the address as a variable it is another style than with the address as an option. -/
theorem slashed_address_chosen :
    ∃ style, StyleDocument.compile (Preset.monochrome : Theme Rat)
        (urlsOf {} (withData (some "https://cdn.example.com/") ⟨none, none, none⟩)) = .ok style ∧
      StyleDocument.compile Preset.monochrome
        (urlsOf { dataUrl := some "https://cdn.example.com/" } (withData none ⟨none, none, none⟩)) ≠
          .ok style := by
  have drawn : (StyleDocument.layersOf (Preset.monochrome : Theme Rat) (urlsOf {}
      (withData (some "https://cdn.example.com/") ⟨none, none, none⟩))).isOk = true := by
    decide +kernel
  obtain ⟨style, compiled⟩ := succeeds_iff.mp
    (StyleDocument.succeeds_compile_iff.mpr (succeeds_of_isOk drawn))
  obtain ⟨_, either⟩ := addresses_chosen (F := Rat) {}
  obtain ⟨_, data, _, _⟩ := either "https://cdn.example.com/" none (by decide) (by simp [Blank])
  refine ⟨style, compiled, fun sameStyle => ?_⟩
  have unslashed := (data.styles ⟨none, none, none⟩ _ style compiled).mp sameStyle
  exact unslashed (by decide)

/-- The option is cleaned of the slash at its end, the variable is not. -/
theorem slash_kept_in_variable :
    let environment : Environment := { dataUrl := some "https://cdn.example.com/" }
    let options : UrlOptions := ⟨none, some "https://cdn.example.com/", none⟩
    (urlsOf environment ⟨none, none, none⟩).dataBase = "https://cdn.example.com/" ∧
      (urlsOf {} options).dataBase = "https://cdn.example.com" ∧
      urlsOf environment ⟨none, none, none⟩ ≠ urlsOf {} options := by
  decide +kernel

end Command

end MapStyle
