import MapStyle.Json.Reader
import MapStyle.Proofs.Entries
import MapStyle.Proofs.Json.Plain
import MapStyle.Proofs.Json.Token

/-!
# Values that are read back

A value is written as a text, and reading the text gives the value: the machine goes through the text
of a part as it goes through a single token, whatever frames are open around it. An object that gives a
key twice would come back with one entry for it. No value that has been read has such an object.
-/

namespace MapStyle.Json

set_option autoImplicit false

variable {F : Type}

/-- In no object of the value is a key given twice. -/
inductive WellKeyed : Json F → Prop
  | null : WellKeyed .null
  | number (value : Number F) : WellKeyed (.number value)
  | text (value : String) : WellKeyed (.text value)
  | list {items : List (Json F)} (each : ∀ item ∈ items, WellKeyed item) : WellKeyed (.list items)
  | object {entries : List (String × Json F)} (distinct : (entries.map Prod.fst).Nodup)
      (each : ∀ entry ∈ entries, WellKeyed entry.2) : WellKeyed (.object entries)

variable [Arithmetic F]

/-! ### From one state of the machine to another -/

variable {machine next last : Machine F} {characters : List Char}

/-- The machine goes from one state to another over a text, wherever a value may end behind it. -/
def Goes (machine : Machine F) (characters : List Char) (next : Machine F) : Prop :=
  ∀ length position rest, Followed rest → ∃ behind,
    readTokens length machine (tokens position (characters ++ rest)) =
      readTokens length next (tokens behind rest)

omit [Arithmetic F] in
theorem readTokens_cons {token : Token F} (stepped : machine.step token = .ok next)
    (length start : Nat) (rest : List (Nat × Token F)) :
    readTokens length machine ((start, token) :: rest) = readTokens length next rest := by
  rw [readTokens, stepped]

theorem Goes.of_lexes {token : Token F} (lexes : Lexes characters token)
    (stepped : machine.step token = .ok next) : Goes machine characters next := by
  intro length position rest followed
  obtain ⟨behind, taken⟩ := lexes position rest followed
  exact ⟨behind, by rw [taken, readTokens_cons stepped]⟩

/-- A mark does not care for what comes behind it. -/
theorem Goes.mark {mark : Char} (isMark : isMark mark = true)
    (stepped : machine.step (.mark mark) = .ok next) (goes : Goes next characters last) :
    Goes machine (mark :: characters) last := by
  intro length position rest followed
  obtain ⟨behind, same⟩ := goes length (position + 1) rest followed
  exact ⟨behind, by rw [List.cons_append, tokens_mark isMark, readTokens_cons stepped, same]⟩

theorem Goes.blanks {blanks : List Char} (blank : ∀ character ∈ blanks, isJsonBlank character = true)
    (goes : Goes machine characters next) : Goes machine (blanks ++ characters) next := by
  intro length position rest followed
  obtain ⟨behind, same⟩ := goes length (position + blanks.length) rest followed
  exact ⟨behind, by rw [List.append_assoc, tokens_blanks blanks blank, same]⟩

theorem Goes.text {text : String} (stepped : machine.step (.text text) = .ok next)
    (goes : Goes next characters last) :
    Goes machine ((escaped text).toList ++ characters) last := by
  intro length position rest followed
  obtain ⟨between, taken⟩ := tokens_escaped (F := F) text position (characters ++ rest)
  obtain ⟨behind, same⟩ := goes length between rest followed
  exact ⟨behind, by rw [List.append_assoc, taken, readTokens_cons stepped, same]⟩

theorem Goes.append {others : List Char} (goes : Goes machine characters next)
    (further : Goes next others last)
    (apart : ∀ rest, Followed rest → Followed (others ++ rest)) :
    Goes machine (characters ++ others) last := by
  intro length position rest followed
  obtain ⟨between, same⟩ := goes length position (others ++ rest) (apart rest followed)
  obtain ⟨behind, alsoSame⟩ := further length between rest followed
  exact ⟨behind, by rw [List.append_assoc, same, alsoSame]⟩

theorem Goes.nil : Goes machine [] machine :=
  fun _ position _ _ => ⟨position, rfl⟩

/-! ### Parts between brackets -/

theorem blank_of_mem_lineBreak (depth : Nat) {character : Char}
    (member : character ∈ (lineBreak depth).toList) : isJsonBlank character = true := by
  rw [lineBreak, String.toList_ofList] at member
  rcases List.mem_cons.mp member with rfl | inBlanks
  · rfl
  · rw [List.eq_of_mem_replicate inBlanks]
    rfl

theorem followed_lineBreak (depth : Nat) (rest : List Char) :
    Followed ((lineBreak depth).toList ++ rest) := by
  rw [lineBreak, String.toList_ofList]
  exact .cons (.inr (.inl rfl)) _

/-- The parts behind the first one, each behind a comma on a line of its own. -/
def following (depth : Nat) (parts : List String) : List Char :=
  parts.flatMap fun part => ',' :: ((lineBreak depth).toList ++ part.toList)

theorem toList_intercalate_cons (depth : Nat) (first : String) (others : List String) :
    (("," ++ lineBreak depth).intercalate (first :: others)).toList =
      first.toList ++ following depth others := by
  induction others generalizing first with
  | nil => simp [following]
  | cons second rest ih =>
      rw [String.intercalate_cons_cons, String.toList_append, ih]
      simp [following]

theorem followed_following {rest : List Char} (depth : Nat) (parts : List String)
    (followed : Followed rest) : Followed (following depth parts ++ rest) := by
  cases parts with
  | nil => exact followed
  | cons part others => exact .cons (.inl rfl) _

/-- How the machine takes parts between two brackets. The parts that are done come in reverse
order. -/
structure Brackets {A : Type} (holds : A → String → Prop) (opening closing : Char)
    (machine : Machine F) (final : List A → Machine F) where
  /-- The states behind the opening bracket, behind a part, and behind a comma. -/
  opened : Machine F
  behind : List A → Machine F
  ready : List A → Machine F
  opens : machine.step (.mark opening) = .ok opened
  first : ∀ item part, holds item part → Goes opened part.toList (behind [item])
  comma : ∀ item done, (behind (item :: done)).step (.mark ',') = .ok (ready (item :: done))
  later : ∀ item part, holds item part → ∀ done, Goes (ready done) part.toList (behind (item :: done))
  closes : ∀ item done, (behind (item :: done)).step (.mark closing) = .ok (final (item :: done))
  closesAtOnce : opened.step (.mark closing) = .ok (final [])

namespace Brackets

variable {A : Type} {holds : A → String → Prop} {opening closing : Char} {final : List A → Machine F}
  {items done : List A} {parts : List String}

/-- Part after part is taken. -/
theorem goes_following (brackets : Brackets holds opening closing machine final) (depth : Nat)
    (each : List.Forall₂ holds items parts) (item : A) (done : List A) :
    Goes (brackets.behind (item :: done)) (following depth parts)
      (brackets.behind (items.reverse ++ item :: done)) := by
  induction each generalizing item done with
  | nil => exact .nil
  | @cons next part items parts nextHolds _ ih =>
      have taken := brackets.later next part nextHolds (item :: done)
      have goes := (Goes.mark rfl (brackets.comma item done)
        (taken.blanks fun _ => blank_of_mem_lineBreak depth)).append (ih next (item :: done))
        fun rest => followed_following depth parts
      rw [List.reverse_cons, List.append_assoc]
      exact goes

/-- The machine takes all parts and the bracket behind them. -/
theorem goes (brackets : Brackets holds opening closing machine final)
    {openingText closingText : String} (isOpening : openingText.toList = [opening])
    (isClosing : closingText.toList = [closing]) (marks : isMark opening = true ∧ isMark closing = true)
    (depth : Nat) (each : List.Forall₂ holds items parts) :
    Goes machine (block openingText closingText depth parts).toList (final items.reverse) := by
  cases each with
  | nil =>
      have written : (block openingText closingText depth []).toList = [opening, closing] := by
        rw [block, if_pos List.isEmpty_nil, String.toList_append, isOpening, isClosing]
        rfl
      rw [written]
      exact .mark marks.1 brackets.opens (.mark marks.2 brackets.closesAtOnce .nil)
  | @cons item part items parts holdsFirst each =>
      have written : (block openingText closingText depth (part :: parts)).toList =
          opening :: ((lineBreak (depth + 1)).toList ++ (part.toList ++
            (following (depth + 1) parts ++ ((lineBreak depth).toList ++ [closing])))) := by
        rw [block, if_neg (by simp)]
        simp only [String.toList_append, toList_intercalate_cons, isOpening, isClosing]
        simp
      have last : Goes (brackets.behind (items.reverse ++ [item]))
          ((lineBreak depth).toList ++ [closing]) (final (items.reverse ++ [item])) := by
        apply Goes.blanks fun _ => blank_of_mem_lineBreak depth
        obtain ⟨newest, done, same⟩ : ∃ newest done, items.reverse ++ [item] = newest :: done :=
          List.exists_cons_of_ne_nil (by simp)
        rw [same]
        exact .mark marks.2 (brackets.closes newest done) .nil
      rw [written, List.reverse_cons]
      apply Goes.mark marks.1 brackets.opens
      apply Goes.blanks fun _ => blank_of_mem_lineBreak (depth + 1)
      apply (brackets.first item part holdsFirst).append
      · apply (brackets.goes_following (depth + 1) each item []).append last
        intro rest _
        rw [List.append_assoc]
        exact followed_lineBreak depth _
      · intro rest _
        rw [List.append_assoc, List.append_assoc]
        exact followed_following (depth + 1) parts (followed_lineBreak depth _)

end Brackets

/-! ### Values -/

/-- A text that is read as a value wherever one may come. -/
def Reads (text : String) (value : Json F) : Prop :=
  ∀ frames expected, expected = .value ∨ expected = .valueOrClosing →
    Goes ⟨frames, expected⟩ text.toList (Machine.complete frames value)

omit [Arithmetic F] in
/-- A token other than a closing bracket is taken as a value. -/
theorem step_value {frames : List (Frame F)} {expected : Expected F} {token : Token F}
    (isValue : expected = .value ∨ expected = .valueOrClosing) (notClosing : token ≠ .mark ']') :
    Machine.step ⟨frames, expected⟩ token = Machine.acceptValue ⟨frames, expected⟩ token := by
  rcases isValue with rfl | rfl
  · rfl
  · unfold Machine.step
    dsimp only
    split
    · exact absurd rfl notClosing
    · rfl

theorem Reads.of_lexes {text : String} {value : Json F}
    (lexes : Lexes text.toList (.constant value)) : Reads text value := by
  intro frames expected isValue
  exact .of_lexes lexes (step_value isValue (by simp))

theorem reads_escaped (text : String) : Reads (F := F) (escaped text) (.text text) := by
  intro frames expected isValue
  rw [← List.append_nil (escaped text).toList]
  exact .text (step_value isValue (by simp)) .nil

def listBrackets (frames : List (Frame F)) (expected : Expected F)
    (isValue : expected = .value ∨ expected = .valueOrClosing) :
    Brackets (fun item part => Reads part item) '[' ']' ⟨frames, expected⟩
      fun done => Machine.complete frames (.list done.reverse) where
  opened := ⟨.list [] :: frames, .valueOrClosing⟩
  behind done := ⟨.list done :: frames, .delimiter⟩
  ready done := ⟨.list done :: frames, .value⟩
  opens := step_value isValue (by simp)
  first _ _ reads := reads _ _ (.inr rfl)
  comma _ _ := rfl
  later _ _ reads _ := reads _ _ (.inl rfl)
  closes _ _ := rfl
  closesAtOnce := rfl

/-- The text of an entry: its key and, behind a colon, its value. -/
def ReadsEntry (entry : String × Json F) (part : String) : Prop :=
  ∃ text, part = escaped entry.1 ++ ": " ++ text ∧ Reads text entry.2

theorem ReadsEntry.goes {entry : String × Json F} {part : String} (reads : ReadsEntry entry part)
    {frames : List (Frame F)} {entries : List (String × Json F)}
    (isKey : machine.step (.text entry.1) = .ok ⟨frames, .colon entries entry.1⟩) :
    Goes machine part.toList ⟨.object (entry :: entries) entry.1 :: frames, .delimiter⟩ := by
  obtain ⟨text, rfl, readsValue⟩ := reads
  have written : (escaped entry.1 ++ ": " ++ text).toList =
      (escaped entry.1).toList ++ (':' :: ([' '] ++ text.toList)) := by
    simp
  rw [written]
  apply Goes.text isKey
  exact .mark rfl rfl ((readsValue _ _ (.inl rfl)).blanks (by simp [isJsonBlank]))

def objectBrackets (frames : List (Frame F)) (expected : Expected F)
    (isValue : expected = .value ∨ expected = .valueOrClosing) :
    Brackets ReadsEntry '\x7b' '\x7d' ⟨frames, expected⟩
      fun done => Machine.complete frames (closed done) where
  opened := ⟨frames, .keyOrClosing⟩
  behind done := ⟨.object done ((done.head?.map Prod.fst).getD "") :: frames, .delimiter⟩
  ready done := ⟨frames, .key done⟩
  opens := step_value isValue (by simp)
  first _ _ reads := reads.goes rfl
  comma _ _ := rfl
  later _ _ reads _ := reads.goes rfl
  closes _ _ := rfl
  closesAtOnce := rfl

omit [Arithmetic F] in
theorem closed_of_nodup {entries : List (String × Json F)} (distinct : (entries.map Prod.fst).Nodup) :
    closed entries.reverse = .object entries := by
  rw [closed, List.reverse_reverse, Entries.merge_of_nodup distinct]

theorem forall₂_indentedItems {items : List (Json F)} {depth : Nat}
    (each : ∀ item ∈ items, Reads (item.indented depth) item) :
    List.Forall₂ (fun item part => Reads part item) items (indentedItems depth items) := by
  induction items with
  | nil => exact .nil
  | cons item rest ih =>
      obtain ⟨first, others⟩ := List.forall_mem_cons.mp each
      exact .cons first (ih others)

theorem forall₂_indentedEntries {entries : List (String × Json F)} {depth : Nat}
    (each : ∀ entry ∈ entries, Reads (entry.2.indented depth) entry.2) :
    List.Forall₂ ReadsEntry entries (indentedEntries depth entries) := by
  induction entries with
  | nil => exact .nil
  | cons entry rest ih =>
      obtain ⟨first, others⟩ := List.forall_mem_cons.mp each
      exact .cons ⟨_, rfl, first⟩ (ih others)

variable [WrittenArithmetic F]

/-- What is written for a value is read as the value. -/
theorem reads_indented {value : Json F} (wellKeyed : WellKeyed value) (depth : Nat) :
    Reads (value.indented depth) value := by
  induction wellKeyed generalizing depth with
  | null => exact .of_lexes (lexes_constant (.head _))
  | number value => exact .of_lexes (lexes_numberText value)
  | text value => exact reads_escaped value
  | @list items _ ih =>
      intro frames expected isValue
      have goes := (listBrackets frames expected isValue).goes
        (show "[".toList = ['['] from rfl) (show "]".toList = [']'] from rfl) (by decide) depth
        (forall₂_indentedItems fun item member => ih item member (depth + 1))
      rw [List.reverse_reverse] at goes
      exact goes
  | @object entries distinct _ ih =>
      intro frames expected isValue
      have goes := (objectBrackets frames expected isValue).goes
        (show "\x7b".toList = ['\x7b'] from rfl) (show "\x7d".toList = ['\x7d'] from rfl)
        (by decide) depth
        (forall₂_indentedEntries fun entry member => ih entry member (depth + 1))
      rw [closed_of_nodup distinct] at goes
      exact goes

theorem read_indented {value : Json F} (wellKeyed : WellKeyed value) :
    read (value.indented 0) = .ok value := by
  obtain ⟨behind, same⟩ := reads_indented wellKeyed 0 [] .value (.inl rfl)
    (value.indented 0).toList.length 0 [] .nil
  rw [List.append_nil, tokens] at same
  have noMark : (value.indented 0).toList.head? ≠ some '\ufeff' := by
    intro first
    have plain := allPlain_indented 0 value _ (List.mem_of_head? first)
    exact absurd plain (by decide)
  unfold read
  dsimp only
  rw [if_neg noMark, same]
  rfl

/-! ### Values that have been read -/

section WellKeyed

omit [WrittenArithmetic F]

def Frame.IsWellKeyed : Frame F → Prop
  | .list items => ∀ item ∈ items, WellKeyed item
  | .object entries _ => ∀ entry ∈ entries, WellKeyed entry.2

def Expected.IsWellKeyed : Expected F → Prop
  | .key entries => ∀ entry ∈ entries, WellKeyed entry.2
  | .colon entries _ => ∀ entry ∈ entries, WellKeyed entry.2
  | .nothing result => WellKeyed result
  | _ => True

def Token.IsWellKeyed : Token F → Prop
  | .constant value => WellKeyed value
  | _ => True

/-- Everything that the machine has read so far. -/
structure Machine.IsWellKeyed (machine : Machine F) : Prop where
  frames : ∀ frame ∈ machine.frames, frame.IsWellKeyed
  expected : machine.expected.IsWellKeyed

omit [Arithmetic F]

theorem wellKeyed_closed {entries : List (String × Json F)}
    (each : ∀ entry ∈ entries, WellKeyed entry.2) : WellKeyed (closed entries) := by
  have distinct : ((Entries.merge entries.reverse).map Prod.fst).Nodup :=
    Entries.nodup_keys_foldl_put List.nodup_nil
  apply WellKeyed.object distinct
  intro entry member
  exact each entry (List.mem_reverse.mp (Entries.mem_merge member))

theorem isWellKeyed_complete {frames : List (Frame F)} {value : Json F}
    (framesWellKeyed : ∀ frame ∈ frames, frame.IsWellKeyed) (valueWellKeyed : WellKeyed value) :
    (Machine.complete frames value).IsWellKeyed := by
  cases frames with
  | nil => exact ⟨framesWellKeyed, valueWellKeyed⟩
  | cons frame rest =>
      obtain ⟨first, others⟩ := List.forall_mem_cons.mp framesWellKeyed
      cases frame with
      | list items =>
          exact ⟨List.forall_mem_cons.mpr ⟨List.forall_mem_cons.mpr ⟨valueWellKeyed, first⟩, others⟩,
            trivial⟩
      | object entries key =>
          exact ⟨List.forall_mem_cons.mpr ⟨List.forall_mem_cons.mpr ⟨valueWellKeyed, first⟩, others⟩,
            trivial⟩

section Step

variable {token : Token F}

theorem isWellKeyed_acceptValue (machineWellKeyed : machine.IsWellKeyed)
    (tokenWellKeyed : token.IsWellKeyed) (accepted : machine.acceptValue token = .ok next) :
    next.IsWellKeyed := by
  have frames := machineWellKeyed.frames
  unfold Machine.acceptValue at accepted
  split at accepted
  · cases accepted
    exact isWellKeyed_complete frames tokenWellKeyed
  · cases accepted
    exact isWellKeyed_complete frames (.text _)
  · cases accepted
  · cases accepted
    exact ⟨List.forall_mem_cons.mpr ⟨by simp [Frame.IsWellKeyed], frames⟩, trivial⟩
  · cases accepted
    exact ⟨frames, trivial⟩
  · cases accepted

theorem isWellKeyed_acceptKey (machineWellKeyed : machine.IsWellKeyed)
    {entries : List (String × Json F)} (each : ∀ entry ∈ entries, WellKeyed entry.2)
    (accepted : machine.acceptKey entries token = .ok next) : next.IsWellKeyed := by
  unfold Machine.acceptKey at accepted
  split at accepted
  · cases accepted
    exact ⟨machineWellKeyed.frames, each⟩
  · cases accepted
  · cases accepted

theorem isWellKeyed_acceptDelimiter (machineWellKeyed : machine.IsWellKeyed)
    (accepted : machine.acceptDelimiter token = .ok next) : next.IsWellKeyed := by
  have all := machineWellKeyed.frames
  unfold Machine.acceptDelimiter at accepted
  split at accepted
  · rename_i frames
    rw [frames] at all
    obtain ⟨first, others⟩ := List.forall_mem_cons.mp all
    cases accepted
    exact isWellKeyed_complete others
      (.list fun item member => first item (List.mem_reverse.mp member))
  · cases accepted
    exact ⟨all, trivial⟩
  · rename_i frames
    rw [frames] at all
    obtain ⟨first, others⟩ := List.forall_mem_cons.mp all
    cases accepted
    exact isWellKeyed_complete others (wellKeyed_closed first)
  · rename_i frames
    rw [frames] at all
    obtain ⟨first, others⟩ := List.forall_mem_cons.mp all
    cases accepted
    exact ⟨others, first⟩
  · cases accepted

/-- Every token leaves the machine with well-keyed values. -/
theorem isWellKeyed_step (machineWellKeyed : machine.IsWellKeyed)
    (tokenWellKeyed : token.IsWellKeyed) (stepped : machine.step token = .ok next) :
    next.IsWellKeyed := by
  have frames := machineWellKeyed.frames
  have expected := machineWellKeyed.expected
  unfold Machine.step at stepped
  split at stepped
  · exact isWellKeyed_acceptValue machineWellKeyed tokenWellKeyed stepped
  · split at stepped
    · rename_i isFrames
      rw [isFrames] at frames
      cases stepped
      exact isWellKeyed_complete (List.forall_mem_cons.mp frames).2 (.list (by simp))
    · exact isWellKeyed_acceptValue machineWellKeyed tokenWellKeyed stepped
  · rename_i isExpected
    rw [isExpected] at expected
    exact isWellKeyed_acceptKey machineWellKeyed expected stepped
  · split at stepped
    · cases stepped
      exact isWellKeyed_complete frames (.object (by simp) (by simp))
    · exact isWellKeyed_acceptKey machineWellKeyed (by simp) stepped
  · rename_i isExpected
    rw [isExpected] at expected
    split at stepped
    · cases stepped
      exact ⟨List.forall_mem_cons.mpr ⟨expected, frames⟩, trivial⟩
    · cases stepped
  · exact isWellKeyed_acceptDelimiter machineWellKeyed stepped
  · cases stepped

end Step

/-- A constant is a number or nothing. -/
theorem isWellKeyed_firstToken [Arithmetic F] (position : Nat) (character : Char) (rest : List Char) :
    (firstToken (F := F) position character rest).1.IsWellKeyed := by
  have named : ∀ entry ∈ constants (F := F), WellKeyed entry.2 := by
    simp only [constants, List.forall_mem_cons, List.not_mem_nil, false_implies, implies_true,
      and_true]
    exact ⟨.null, .number _, .number _, .number _, .number _, .number _⟩
  unfold firstToken
  split
  · split <;> trivial
  · split
    · trivial
    · dsimp only
      split
      · rename_i name value found
        exact named (name, value) (List.mem_of_find?_eq_some found)
      · split
        · exact .number _
        · trivial

theorem isWellKeyed_tokens [Arithmetic F] (position : Nat) (characters : List Char) :
    ∀ entry ∈ tokens (F := F) position characters, entry.2.IsWellKeyed := by
  induction position, characters using tokens.induct (F := F) with
  | case1 position => simp [tokens]
  | case2 position character rest blank ih =>
      rw [tokens, if_pos blank]
      exact ih
  | case3 position character rest notBlank token taken isFirst ih =>
      rw [tokens, if_neg notBlank, isFirst]
      refine List.forall_mem_cons.mpr ⟨?_, ih⟩
      have first := isWellKeyed_firstToken (F := F) position character rest
      rwa [isFirst] at first

theorem wellKeyed_of_readTokens {length : Nat} {taken : List (Nat × Token F)} {value : Json F}
    (machineWellKeyed : machine.IsWellKeyed) (each : ∀ entry ∈ taken, entry.2.IsWellKeyed)
    (ended : readTokens length machine taken = .ok value) : WellKeyed value := by
  induction taken generalizing machine with
  | nil =>
      have expected := machineWellKeyed.expected
      unfold readTokens Machine.finish at ended
      split at ended
      · rename_i isExpected
        rw [isExpected] at expected
        cases ended
        exact expected
      all_goals cases ended
  | cons entry rest ih =>
      obtain ⟨first, others⟩ := List.forall_mem_cons.mp each
      obtain ⟨start, token⟩ := entry
      unfold readTokens at ended
      split at ended
      · rename_i next stepped
        exact ih (isWellKeyed_step machineWellKeyed first stepped) others ended
      · cases ended
      · cases ended

/-- No value that has been read gives a key twice in one object. -/
theorem wellKeyed_of_read [Arithmetic F] {source : String} {value : Json F}
    (found : read source = .ok value) : WellKeyed value := by
  unfold read at found
  dsimp only at found
  split at found
  · cases found
  · cases isRead : readTokens source.toList.length (⟨[], .value⟩ : Machine F)
        (tokens 0 source.toList) with
    | error fault =>
        rw [isRead] at found
        cases found
    | ok read =>
        rw [isRead] at found
        cases found
        have start : (⟨[], .value⟩ : Machine F).IsWellKeyed := ⟨by simp, trivial⟩
        exact wellKeyed_of_readTokens start (isWellKeyed_tokens 0 source.toList) isRead

end WellKeyed

end MapStyle.Json
