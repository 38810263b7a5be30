import Mathlib.Data.List.Nodup
import MapStyle.Proofs.Text.Beginning
import MapStyle.Style.Reach

/-!
# Addresses that are collected

Every address is collected once. Those of sources and sprites are remote, and that of the glyphs is
if its template is; a template that is not remote is filled in all the same.
-/

namespace MapStyle.Reach

set_option autoImplicit false

open MapStyle.Text

/-! ### Each once -/

section Distinct

variable {values found : List String}

/-- A value is noted unless it has been found before. -/
def noted (found : List String) (value : String) : List String :=
  if found.contains value then found else value :: found

theorem mem_noted {value other : String} :
    other ∈ noted found value ↔ other = value ∨ other ∈ found := by
  unfold noted
  split_ifs with known
  · have member : value ∈ found := List.contains_iff_mem.mp known
    constructor
    · exact Or.inr
    · rintro (rfl | isFound)
      · exact member
      · exact isFound
  · exact List.mem_cons

theorem nodup_noted (nodup : found.Nodup) (value : String) : (noted found value).Nodup := by
  unfold noted
  split_ifs with known
  · exact nodup
  · exact List.nodup_cons.mpr ⟨fun member => known (List.contains_iff_mem.mpr member), nodup⟩

theorem mem_foldl_noted {value : String} :
    value ∈ values.foldl noted found ↔ value ∈ values ∨ value ∈ found := by
  induction values generalizing found with
  | nil => simp
  | cons first rest ih =>
      rw [List.foldl_cons, ih, mem_noted, List.mem_cons]
      tauto

theorem nodup_foldl_noted (nodup : found.Nodup) : (values.foldl noted found).Nodup := by
  induction values generalizing found with
  | nil => exact nodup
  | cons first rest ih => exact ih (nodup_noted nodup first)

theorem mem_distinct {value : String} : value ∈ distinct values ↔ value ∈ values := by
  show value ∈ (values.foldl noted []).reverse ↔ _
  rw [List.mem_reverse, mem_foldl_noted]
  simp

theorem nodup_distinct (values : List String) : (distinct values).Nodup := by
  show (values.foldl noted []).reverse.Nodup
  exact List.nodup_reverse.mpr (nodup_foldl_noted List.nodup_nil)

end Distinct

/-! ### Remote addresses -/

/-- An address in a network. -/
def Remote (url : String) : Prop :=
  ∃ rest, url = "http://" ++ rest ∨ url = "https://" ++ rest

theorem isRemote_iff {url : String} : isRemote url = true ↔ Remote url := by
  rw [isRemote, Bool.or_eq_true, startsWith_iff, startsWith_iff, ← exists_or]
  rfl

theorem Remote.append {url : String} (remote : Remote url) (more : String) :
    Remote (url ++ more) := by
  obtain ⟨rest, rfl | rfl⟩ := remote
  · exact ⟨rest ++ more, .inl (String.append_assoc)⟩
  · exact ⟨rest ++ more, .inr (String.append_assoc)⟩

/-- A template that is remote stays so when places in it are filled. -/
theorem Remote.replaced {template place : String} {others : List Char}
    (isPlace : place.toList = '\x7b' :: others) (remote : Remote template) (replacement : String) :
    Remote (Text.replaced template place replacement) := by
  obtain ⟨rest, rfl | rfl⟩ := remote
  · exact ⟨_, .inl (replaced_append isPlace (by decide) replacement)⟩
  · exact ⟨_, .inr (replaced_append isPlace (by decide) replacement)⟩

section Style

variable {F : Type} {style : Json F} {url : String}

theorem remote_of_mem_sourceUrls (member : url ∈ sourceUrls style) : Remote url := by
  obtain ⟨entry, _, found⟩ := List.mem_filterMap.mp member
  dsimp only at found
  split_ifs at found with isRemote
  cases found
  exact isRemote_iff.mp isRemote

/-- A source whose address is remote, be it behind the name of its archive format, is collected. -/
theorem mem_sourceUrls {name : String} {source : Json F} (remote : Remote url)
    (isSource : (name, source) ∈ entriesOf (style.get? "sources"))
    (isUrl : source.get? "url" = some (.text url) ∨
      source.get? "url" = some (.text ("pmtiles://" ++ url))) : url ∈ sourceUrls style := by
  have target : withoutBeginning ((textOf (source.get? "url")).getD "") archivePrefix = url := by
    obtain plain | archived := isUrl
    · have noArchive : ¬startsWith url archivePrefix = true := by
        obtain ⟨rest, rfl | rfl⟩ := remote <;> simp [startsWith, archivePrefix]
      rw [plain]
      exact withoutBeginning_of_not noArchive
    · rw [archived]
      exact withoutBeginning_append
  apply List.mem_filterMap.mpr ⟨(name, source), isSource, ?_⟩
  dsimp only
  rw [target, if_pos (isRemote_iff.mpr remote)]

theorem remote_of_mem_spriteUrls (member : url ∈ spriteUrls style) : Remote url := by
  unfold spriteUrls at member
  split at member
  · split_ifs at member with isRemote
    · have remote := isRemote_iff.mp isRemote
      simp at member
      obtain rfl | rfl := member
      · exact remote.append ".json"
      · exact remote.append ".png"
    · cases member
  · cases member

/-- The address of the glyphs is remote if their template is. -/
theorem remote_of_mem_glyphUrls {template : String}
    (isTemplate : style.get? "glyphs" = some (.text template)) (remote : Remote template)
    (member : url ∈ glyphUrls style) : Remote url := by
  unfold glyphUrls at member
  split at member
  · rename_i glyphs fonts found _
    rw [isTemplate] at found
    have isGlyphs : some template = some glyphs := (Option.mem_filter_iff.mp found).1
    cases isGlyphs
    rw [List.mem_singleton.mp member]
    exact Remote.replaced rfl (Remote.replaced rfl remote _) _
  · cases member

theorem mem_urls : url ∈ urls style ↔
    url ∈ sourceUrls style ∨ url ∈ glyphUrls style ∨ url ∈ spriteUrls style := by
  rw [urls, mem_distinct, List.mem_append, List.mem_append, or_assoc]

theorem nodup_urls (style : Json F) : (urls style).Nodup :=
  nodup_distinct _

end Style

/-- Every address is collected once. All of them are remote but for one: the address of the glyphs
is collected in any case, and may be no remote one if their template is none. All sources with
remote addresses are among them, whether or not the name of the archive format stands before. -/
theorem remote_unless_glyphs {F : Type} (style : Json F) :
    (urls style).Nodup ∧
    (∀ url ∈ urls style, Remote url ∨ (url ∈ glyphUrls style ∧
      ∀ template, style.get? "glyphs" = some (.text template) → ¬Remote template)) ∧
    ∀ name source url, (name, source) ∈ entriesOf (style.get? "sources") →
      (source.get? "url" = some (.text url) ∨
        source.get? "url" = some (.text ("pmtiles://" ++ url))) →
      Remote url → url ∈ urls style := by
  refine ⟨nodup_urls style, ?_, ?_⟩
  · intro url member
    obtain inSources | inGlyphs | inSprites := mem_urls.mp member
    · exact .inl (remote_of_mem_sourceUrls inSources)
    · by_cases remote : Remote url
      · exact .inl remote
      · exact .inr ⟨inGlyphs, fun template isTemplate isRemote =>
          remote (remote_of_mem_glyphUrls isTemplate isRemote inGlyphs)⟩
    · exact .inl (remote_of_mem_spriteUrls inSprites)
  · intro name source url isSource isUrl remote
    exact mem_urls.mpr (.inl (mem_sourceUrls remote isSource isUrl))

/-- A style with a remote archive, whose glyphs lie in the files beside it. -/
def ownGlyphs : Json Float :=
  .object [
    ("sources", .object [
      ("world", .object [("url", .text "pmtiles://https://tiles.example.com/a")])]),
    ("glyphs", .text "/fonts/\x7bfontstack\x7d/\x7brange\x7d.pbf"),
    ("layers", .list [.object [("layout", .object [("text-font", .list [.text "Noto Sans"])])]])]

/-- Its archive is collected, and nothing twice. -/
theorem ownGlyphs_collected :
    (urls ownGlyphs).Nodup ∧ "https://tiles.example.com/a" ∈ urls ownGlyphs := by
  obtain ⟨nodup, _, sources⟩ := remote_unless_glyphs ownGlyphs
  have remote : Remote "https://tiles.example.com/a" := ⟨"tiles.example.com/a", .inr rfl⟩
  exact ⟨nodup, sources "world" _ _ List.mem_cons_self (.inr rfl) remote⟩

/-- The address of its glyphs is collected, although it is not remote. -/
theorem ownGlyphs_not_remote : "/fonts/Noto%20Sans/0-255.pbf" ∈ urls ownGlyphs ∧
    ¬Remote "/fonts/Noto%20Sans/0-255.pbf" := by
  rw [← isRemote_iff]
  decide +kernel

end MapStyle.Reach
