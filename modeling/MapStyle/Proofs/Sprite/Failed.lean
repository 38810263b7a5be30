import MapStyle.Proofs.Files.Failed
import MapStyle.Proofs.Number.Rounding
import MapStyle.Proofs.Sprite.Kept

/-!
# Shields that cannot be added

A shield of an unknown kind, and an entry of an index that does not tell where its sprite ends, are
found before the first file is written. So a run that fails because of them leaves its sheet, the
directory and all other files as they were, wherever in the list the shield stands and wherever in
the index the entry does.
-/

namespace MapStyle

set_option autoImplicit false

/-! ### Numbers that are zero -/

/-- What is nearest to zero is zero. -/
class ExactZero (F : Type) [Arithmetic F] [OrderedArithmetic F] : Prop where
  place?_nearest : ∀ nearest : F, Arithmetic.ofRat? 0 = some nearest →
    OrderedArithmetic.place? nearest = some (.ofRat 0)

instance : ExactZero Rat where
  place?_nearest nearest found := by
    cases found
    rfl

instance : ExactZero Float where
  place?_nearest nearest found := by
    have zero : Double.ofRat? 0 = some (Float.ofBits 0) := by decide +kernel
    cases zero.symm.trans found
    exact OrderedArithmetic.place?_zero

variable {F : Type} [Arithmetic F] [OrderedArithmetic F] [ScalingArithmetic F] [ExactZero F]

namespace Number

omit [ScalingArithmetic F] [ExactZero F] in
theorem place?_of_isZero {number : Number F} (isZero : number.isZero = true) :
    number.place? = some (.ofRat 0) := by
  have zero : (0 : Number F).place? = some (.ofRat 0) := rfl
  change number.same 0 = true at isZero
  cases found : number.place? with
  | none =>
      rw [same, order?_eq_place, found] at isZero
      cases isZero
  | some place =>
      rw [same_of_places found zero, decide_eq_true_eq] at isZero
      rw [isZero]

omit [ScalingArithmetic F] in
/-- What is zero is zero as a fractional number, too. -/
theorem place?_of_toReal_of_isZero {number : Number F} (isZero : number.isZero = true) {value : F}
    (found : number.toReal = .ok value) : OrderedArithmetic.place? value = some (.ofRat 0) := by
  have isPlace := place?_of_isZero isZero
  unfold place? at isPlace
  unfold toReal at found
  split at found
  · rename_i whole viewed
    have nothing : whole = 0 := by simpa [viewed] using isPlace
    subst nothing
    split at found
    · rename_i nearest isNearest
      cases found
      exact ExactZero.place?_nearest _ isNearest
    · cases found
  · rename_i real viewed
    cases found
    simpa [viewed] using isPlace

/-- Nothing is divided by zero. -/
theorem div_ne_ok_of_isZero {left right : Number F} (isZero : right.isZero = true)
    (quotient : Number F) : left.div right ≠ .ok quotient := by
  intro divided
  unfold div at divided
  split at divided
  · rename_i whole other _ viewed
    have isPlace := place?_of_isZero isZero
    have nothing : other = 0 := by simpa [place?, viewed] using isPlace
    rw [if_pos nothing] at divided
    cases divided
  · obtain ⟨_, _, further⟩ := bind_eq_ok.mp divided
    obtain ⟨divisor, isDivisor, ended⟩ := bind_eq_ok.mp further
    have same : Arithmetic.same divisor 0.0 = true := by
      rw [Arithmetic.same, OrderedArithmetic.order?_eq, place?_of_toReal_of_isZero isZero isDivisor,
        ScalingArithmetic.zero]
      exact beq_iff_eq.mpr (congrArg some (Place.order_self _))
    rw [if_pos same] at ended
    cases ended

end Number

/-! ### Entries and shields that spoil a sheet -/

namespace SpriteIndex

/-- An entry that does not tell where its sprite ends, or has no pixels for a pixel of the map
page. -/
inductive Endless : Json F → Prop
  | incomplete {fields : List (String × Json F)} (name : String)
      (needed : name = "y" ∨ name = "height") (missing : fields.lookup name = none) :
      Endless (.object fields)
  | flat {fields : List (String × Json F)} (ratio : Number F)
      (given : fields.lookup "pixelRatio" = some (.number ratio)) (zero : ratio.isZero = true) :
      Endless (.object fields)

theorem Endless.entryBottom_ne_ok {entry : Json F} (endless : Endless entry)
    (bottom : Number F) : entryBottom entry ≠ .ok bottom := by
  intro found
  cases endless with
  | incomplete name needed missing =>
      obtain ⟨y, isY, further⟩ := bind_eq_ok.mp found
      obtain ⟨height, isHeight, _⟩ := bind_eq_ok.mp further
      obtain rfl | rfl := needed
      · rw [field, missing] at isY
        cases isY
      · rw [field, missing] at isHeight
        cases isHeight
  | flat ratio given zero =>
      obtain ⟨_, _, further⟩ := bind_eq_ok.mp found
      obtain ⟨_, _, further⟩ := bind_eq_ok.mp further
      obtain ⟨_, _, further⟩ := bind_eq_ok.mp further
      obtain ⟨_, _, further⟩ := bind_eq_ok.mp further
      obtain ⟨sum, _, further⟩ := bind_eq_ok.mp further
      obtain ⟨divisor, isDivisor, divided⟩ := bind_eq_ok.mp further
      rw [given] at isDivisor
      cases isDivisor
      exact Number.div_ne_ok_of_isZero zero bottom (lift_eq_ok.mp divided)

end SpriteIndex

namespace SpriteStore

/-- What makes it impossible to add shields to an index: a shield of an unknown kind, or an entry
that is kept and does not tell where its sprite ends. -/
inductive Spoiled (index : SpriteIndex F) (shields : List (ShieldSprite F)) : Prop
  | unknownKind (shield : ShieldSprite F) (listed : shield ∈ shields)
      (unknown : ShieldKind.ofName? shield.kind = none)
  | endlessEntry (name : String) (entry : Json F) (listed : (name, entry) ∈ index)
      (unnamed : name ∉ shields.map ShieldSprite.name) (endless : SpriteIndex.Endless entry)

theorem Spoiled.make_ne_ok {index : SpriteIndex F} {shields : List (ShieldSprite F)}
    (spoiled : Spoiled index shields) (ratio : Nat) (plan : SheetPlan F) :
    SheetPlan.make index shields ratio ≠ .ok plan := by
  intro made
  obtain ⟨bottom, images, found, rendered, _⟩ := SheetPlan.make_eq_ok.mp made
  cases spoiled with
  | unknownKind shield listed unknown =>
      obtain ⟨image, _, _, isImage⟩ := SheetPlan.Rendered.exists_image rendered listed
      obtain ⟨kind, known, _⟩ := ShieldSprite.render_eq_ok isImage
      rw [unknown] at known
      cases known
  | endlessEntry name entry listed unnamed endless =>
      obtain ⟨bottoms, bottomsFound, _⟩ := bind_eq_ok.mp found
      obtain ⟨own, _, isOwn⟩ :=
        exists_mem_of_mapM bottomsFound (SheetPlan.mem_without.mpr ⟨listed, unnamed⟩)
      exact endless.entryBottom_ne_ok own isOwn

variable {directory : Path} {ratio : Nat} {before : Session}

/-! ### Preparing and writing -/

section Steps

omit [OrderedArithmetic F] [ScalingArithmetic F] [ExactZero F]

theorem leaves_readIndex (path : Path) : (readIndex path : Work F (SpriteIndex F)).Leaves := by
  apply Work.Leaves.ifThere
  apply (Work.Leaves.readText path).bind
  intro text
  exact Work.Leaves.ofResult _

omit [Arithmetic F] in
theorem leaves_readImage (path : Path) : (readImage path : Work F (Option Image)).Leaves := by
  apply Work.Leaves.ifThere
  apply (Work.Leaves.readImage path).bind
  intro image
  exact Work.Leaves.pure _

/-- Nothing is written while a sheet is prepared. -/
theorem leaves_prepare (directory : Path) (shields : List (ShieldSprite F)) (ratio : Nat)
    (verbose : Bool) : (prepare directory shields ratio verbose).Leaves := by
  apply (leaves_readIndex _).bind
  intro old
  apply (Work.Leaves.sayAll _).bind
  intro _
  apply (Work.Leaves.ofResult _).bind
  intro plan
  apply (leaves_readImage _).bind
  intro oldImage
  apply (Work.Leaves.ofResult _).bind
  intro image
  apply (Work.Leaves.sayAll _).bind
  intro _
  exact Work.Leaves.pure _

/-- Once a sheet has been prepared, only files can be in the way of it. -/
theorem finish_failsOnFiles (directory : Path) (ratio : Nat) (prepared : SheetPlan F × Image) :
    (finish directory ratio prepared).FailsOnFiles := by
  apply (Work.FailsOnFiles.ensureDirectory directory).bind
  intro _
  apply (Work.FailsOnFiles.write _ _).bind
  intro _
  apply (Work.FailsOnFiles.write _ _).bind
  intro _
  exact Work.FailsOnFiles.pure _

end Steps

/-- A run that fails for another reason than a file leaves the directory, the sheet and everything
else as they were. That is how a run fails for a sheet that is spoiled. -/
theorem addShields_failed_unchanged (directory : Path) (shields : List (ShieldSprite F))
    (ratio : Nat) (verbose : Bool) (before : Session) :
    (∀ fault after, (addShields directory shields ratio verbose).Fails before fault after →
      (∀ cause, fault ≠ .file cause) → after.files = before.files) ∧
    ∀ sheet, Holds before.files directory ratio sheet → Spoiled sheet.index shields →
      ∃ fault after, (addShields directory shields ratio verbose).Fails before fault after ∧
        after.files = before.files := by
  rw [addShields_eq]
  constructor
  · intro fault after failed noFile
    rcases Work.fails_bind.mp failed with failed | ⟨prepared, between, _, failed⟩
    · exact (leaves_prepare directory shields ratio verbose).of_fails failed
    · obtain ⟨cause, isFile⟩ := finish_failsOnFiles directory ratio prepared _ _ _ failed
      exact absurd isFile (noFile cause)
  · intro sheet holds spoiled
    rcases Work.ends_or_fails (prepare directory shields ratio verbose) before with
      ⟨prepared, between, ended⟩ | ⟨fault, after, failed⟩
    · obtain ⟨_, old, isOld, made, _⟩ := ends_prepare ended
      rw [isOld.unique holds] at made
      exact absurd made (spoiled.make_ne_ok ratio prepared.1)
    · exact ⟨fault, after, Work.fails_bind.mpr (.inl failed),
        (leaves_prepare directory shields ratio verbose).of_fails failed⟩

/-- A shield that cannot be drawn. -/
def oval : ShieldSprite Rat :=
  ⟨"oval", "shield-oval", .plain "shield-oval" "#ffffff" 6⟩

/-- A shield that could be drawn comes to nothing, too, if the one behind it cannot. -/
theorem oval_unchanged : Holds (poiFiles 2) here 2 poiSheet ∧
    Spoiled poiSheet.index [interstate, oval] ∧ ∃ after,
      (addShields here [interstate, oval] 2 false).Fails ⟨poiFiles 2, ""⟩
        (.sprite (.unknownKind "oval")) after ∧ after.files = poiFiles 2 := by
  have unknown : (match ((addShields here [interstate, oval] 2 false).run ⟨poiFiles 2, ""⟩).1 with
      | .error (.sprite cause) => decide (cause = .unknownKind "oval")
      | _ => false) = true := by decide +kernel
  have holds := holds_poiFiles 2 (by decide)
  have spoiled : Spoiled poiSheet.index [interstate, oval] := .unknownKind oval (by simp) rfl
  obtain ⟨unchanged, fails⟩ :=
    addShields_failed_unchanged here [interstate, oval] 2 false ⟨poiFiles 2, ""⟩
  obtain ⟨fault, after, failed, _⟩ := fails poiSheet holds spoiled
  rw [failed] at unknown
  cases fault with
  | sprite cause =>
      obtain rfl := of_decide_eq_true unknown
      exact ⟨holds, spoiled, after, failed, unchanged _ after failed (by simp)⟩
  | _ => cases unknown

end SpriteStore

end MapStyle
