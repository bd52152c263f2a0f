import Sqlwright.Proofs.Outcomes

/-!
# Encoded statements

To the reader of statements all characters beyond ASCII are alike, and it makes
no difference how many of them stand next to each other.  So numbering and
listing words give the same for a text and for its bytes.

The main theorem says that the loops over the bytes of a statement are safe,
whatever the statement is: each step moves on within the text, a number is only
written between characters, and the numbered copy is an encoded text, in which
decoding replaces nothing.  Below 4 GiB the loops give what the reader of
characters gives.
-/

namespace Sqlwright.Lexical

open Sqlwright.Weaving

/-! ## Characters beyond ASCII -/

theorem ne_of_le
    {character other : Char} (foreign : 128 ≤ character.toNat)
    (ascii : other.toNat < 128) :
    character ≠ other := by
  rintro rfl
  exact Nat.not_lt_of_le foreign ascii

theorem not_mem_of_le
    {character : Char} {others : List Char} (foreign : 128 ≤ character.toNat)
    (ascii : others.all (·.toNat < 128) = true) :
    character ∉ others := by
  intro member
  have below := List.all_eq_true.1 ascii character member
  exact Nat.not_lt_of_le foreign (of_decide_eq_true below)

theorem isNeutral_of_le
    {character : Char} (foreign : 128 ≤ character.toNat) :
    isNeutral character = true :=
  decide_eq_true (not_mem_of_le foreign (by decide))

/-- The mode behind a character that no mode knows. -/
def Mode.beyond : Mode → Mode
  | plain | hyphen | slash | closed _ => plain
  | quoted quotation => quoted quotation
  | lineComment => lineComment
  | blockComment outer | blockSlash outer | blockStar outer =>
      blockComment outer

theorem Mode.next_of_le
    {character : Char} (foreign : 128 ≤ character.toNat) (mode : Mode) :
    mode.next character = mode.beyond := by
  have slash : character ≠ '/' := ne_of_le foreign (by decide)
  have star : character ≠ '*' := ne_of_le foreign (by decide)
  have line : character ≠ '\n' := ne_of_le foreign (by decide)
  cases mode with
  | plain | hyphen | slash | closed _ =>
      exact next_of_isNeutral rfl (isNeutral_of_le foreign)
  | quoted quotation =>
      apply if_neg
      apply ne_of_le foreign
      cases quotation <;> decide
  | lineComment => exact if_neg line
  | blockComment outer => exact (if_neg slash).trans (if_neg star)
  | blockSlash outer => exact (if_neg star).trans (if_neg slash)
  | blockStar outer => exact (if_neg slash).trans (if_neg star)

/-- Any number of characters that no mode knows are like one. -/
theorem Mode.after_of_le
    {front : List Char} (nonempty : front ≠ [])
    (foreign : ∀ character ∈ front, 128 ≤ character.toNat) (mode : Mode) :
    mode.after front = mode.beyond := by
  induction front generalizing mode with
  | nil => exact absurd rfl nonempty
  | cons character rest induction =>
      rw [List.forall_mem_cons] at foreign
      rw [Mode.after_cons, Mode.next_of_le foreign.1]
      cases rest with
      | nil => rfl
      | cons second rest =>
          rw [induction (List.cons_ne_nil _ _) foreign.2]
          cases mode <;> rfl

theorem after_spelled
    {character : Char} (foreign : 128 ≤ character.toNat) (mode : Mode) :
    mode.after (spelled character) = mode.next character := by
  rw [Mode.after_of_le (spelled_ne_nil character) (le_of_mem_spelled foreign),
    Mode.next_of_le foreign]

/-! ## Numbering -/

theorem placeholdersFrom_eq_zero
    {text : List Char} (none : '?' ∉ text) (mode : Mode) :
    placeholdersFrom mode text = 0 := by
  induction text generalizing mode with
  | nil => rfl
  | cons character rest induction =>
      rw [List.mem_cons, not_or] at none
      rw [placeholdersFrom, induction none.2, if_neg]
      rw [Bool.and_eq_true, beq_iff_eq]
      exact fun mark => none.1 mark.2.symm

theorem not_mem_spelled
    {character : Char} (foreign : 128 ≤ character.toNat) :
    '?' ∉ spelled character := by
  intro member
  exact absurd (le_of_mem_spelled foreign '?' member) (by decide)

theorem placeholdersFrom_spelled (mode : Mode) (text : List Char) :
    placeholdersFrom mode (text.flatMap spelled) =
      placeholdersFrom mode text := by
  induction text generalizing mode with
  | nil => rfl
  | cons character rest induction =>
      rw [List.flatMap_cons]
      by_cases ascii : character.toNat < 128
      · rw [spelled_of_lt ascii, List.singleton_append, placeholdersFrom,
          placeholdersFrom, induction]
      · have foreign := Nat.le_of_not_lt ascii
        have other : character ≠ '?' := ne_of_le foreign (by decide)
        rw [placeholdersFrom_append,
          placeholdersFrom_eq_zero (not_mem_spelled foreign),
          after_spelled foreign, induction, placeholdersFrom,
          if_neg (by simp [other]), Nat.zero_add, Nat.add_zero]

/-- Bytes are numbered as characters are. -/
theorem numberFrom_spelled
    (style : NumberStyle) (mode : Mode) (number : Nat) (text : List Char) :
    numberFrom style mode number (text.flatMap spelled) =
      (numberFrom style mode number text).flatMap spelled := by
  induction text generalizing mode number with
  | nil => rfl
  | cons character rest induction =>
      rw [List.flatMap_cons]
      by_cases ascii : character.toNat < 128
      · rw [spelled_of_lt ascii, List.singleton_append, numberFrom, numberFrom]
        split
        · have mark :
              ∀ character ∈ style.mark number, character.toNat < 128 :=
            fun character member =>
              lt_of_isWordChar
                ((mark_spec style number).1 character member)
          rw [induction, List.flatMap_append, flatMap_spelled mark]
        · rw [induction, List.flatMap_cons, spelled_of_lt ascii]
          rfl
      · have foreign := Nat.le_of_not_lt ascii
        have silent :=
          placeholdersFrom_eq_zero (not_mem_spelled foreign) mode
        have other : character ≠ '?' := ne_of_le foreign (by decide)
        rw [numberFrom_append, silent,
          numberFrom_of_placeholdersFrom_eq_zero style mode number _ silent,
          after_spelled foreign, induction, numberFrom,
          if_neg (by simp [other]), List.flatMap_cons]
        rfl

/-! ## Words -/

theorem isInert_of_le
    {character : Char} (foreign : 128 ≤ character.toNat) :
    isInert character = true := by
  have noWord : isWordChar character = false := by
    rw [← Bool.not_eq_true]
    intro inWord
    exact Nat.not_lt_of_le foreign (lt_of_isWordChar inWord)
  have other : character ∉ ['(', ')', ';'] :=
    not_mem_of_le foreign (by decide)
  rw [isInert, noWord, Bool.not_false, Bool.true_and, decide_eq_true_eq]
  exact other

theorem isInert_exposedFrom
    {text : List Char}
    (foreign : ∀ character ∈ text, 128 ≤ character.toNat) (mode : Mode) :
    ∀ character ∈ exposedFrom mode text, isInert character = true := by
  induction text generalizing mode with
  | nil => exact fun _ member => absurd member List.not_mem_nil
  | cons character rest induction =>
      rw [List.forall_mem_cons] at foreign
      rw [exposedFrom, List.forall_mem_cons]
      refine ⟨?_, induction foreign.2 _⟩
      split
      · exact isInert_of_le foreign.1
      · rfl

/-- Characters that no word has end the word in front of them. -/
theorem listed_exposedFrom_of_le
    (depth : Nat) (reversed : List Char) (current : List Word) (mode : Mode)
    {front : List Char} (nonempty : front ≠ [])
    (foreign : ∀ character ∈ front, 128 ≤ character.toNat)
    (back : List Char) :
    listed depth reversed current (exposedFrom mode (front ++ back)) =
      listed depth [] (current ++ finishWord depth reversed)
        (exposedFrom mode.beyond back) := by
  have inert := isInert_exposedFrom foreign mode
  rw [exposedFrom_append, Mode.after_of_le nonempty foreign]
  cases shown : exposedFrom mode front with
  | nil =>
      have lengths := congrArg List.length shown
      rw [length_exposedFrom] at lengths
      exact absurd (List.length_eq_zero_iff.1 lengths) nonempty
  | cons character rest =>
      rw [shown, List.forall_mem_cons] at inert
      rw [List.cons_append, listed_of_isInert _ _ _ inert.1,
        listed_append_of_isInert _ _ inert.2]

/-- Bytes have the words that characters have. -/
theorem listed_spelled
    (depth : Nat) (reversed : List Char) (current : List Word) (mode : Mode)
    (text : List Char) :
    listed depth reversed current (exposedFrom mode (text.flatMap spelled)) =
      listed depth reversed current (exposedFrom mode text) := by
  induction text generalizing depth reversed current mode with
  | nil => rfl
  | cons character rest induction =>
      rw [List.flatMap_cons]
      by_cases ascii : character.toNat < 128
      · rw [spelled_of_lt ascii, List.singleton_append, exposedFrom,
          exposedFrom]
        simp only [listed, induction]
      · have foreign := Nat.le_of_not_lt ascii
        have single : ∀ other ∈ [character], 128 ≤ other.toNat :=
          List.forall_mem_singleton.2 foreign
        rw [listed_exposedFrom_of_le _ _ _ _ (spelled_ne_nil character)
            (le_of_mem_spelled foreign),
          induction, ← List.singleton_append,
          listed_exposedFrom_of_le _ _ _ _ (List.cons_ne_nil _ _) single]

/-! ## Whole loops -/

/-- What holds between any two steps of the loop that numbers. -/
structure Copying.Sound (style : NumberStyle) (bytes : ByteArray)
    (state : Copying) : Prop where
  inside : state.index ≤ bytes.size
  valid : (state.whole bytes).IsValidUTF8
  follows :
    bytes.size < 2 ^ 32 →
      state.outcome style bytes =
          copyFrom style .plain 1 [] none (octets bytes) ∧
        state.enclosure.Within state.index

/-- What holds between any two steps of the loop that lists words. -/
structure Listing.Sound (bytes : ByteArray) (state : Listing) : Prop where
  inside : state.index ≤ bytes.size
  follows :
    bytes.size < 2 ^ 32 →
      state.outcome bytes = listed 0 [] [] (exposed (octets bytes)) ∧
        state.enclosure.Within state.index ∧ state.depth.toNat ≤ state.index

theorem Copying.sound_start
    (style : NumberStyle) {bytes : ByteArray} (valid : bytes.IsValidUTF8) :
    Copying.start.Sound style bytes where
  inside := Nat.zero_le _
  valid := by
    have whole : Copying.start.whole bytes = bytes := by
      show bytes.extract 0 0 ++ bytes.extract 0 bytes.size = bytes
      rw [ByteArray.extract_same, ByteArray.extract_zero_size,
        ByteArray.empty_append]
    rw [whole]
    exact valid
  follows _ := ⟨rfl, trivial⟩

theorem Copying.Moves.sound
    {style : NumberStyle} {bytes : ByteArray} {state next : Copying}
    (moves : state.Moves style bytes next) (sound : state.Sound style bytes) :
    next.Sound style bytes where
  inside := moves.index_lt.2
  valid := moves.valid_whole sound.valid
  follows small := by
    rcases sound.follows small with ⟨same, within⟩
    rcases moves.outcome_eq within small with ⟨kept, next⟩
    exact ⟨kept.trans same, next⟩

theorem Listing.sound_start (bytes : ByteArray) :
    Listing.start.Sound bytes where
  inside := Nat.zero_le _
  follows _ := ⟨rfl, trivial, Nat.le_refl 0⟩

theorem Listing.Moves.sound
    {bytes : ByteArray} {state next : Listing}
    (moves : state.Moves bytes next) (sound : state.Sound bytes) :
    next.Sound bytes where
  inside := moves.index_lt.2
  follows small := by
    rcases sound.follows small with ⟨same, within, counted⟩
    rcases moves.outcome_eq within counted small with ⟨kept, next⟩
    exact ⟨kept.trans same, next⟩

/-- The loop that numbers comes to the end. -/
theorem exists_copying
    (style : NumberStyle) {bytes : ByteArray} (valid : bytes.IsValidUTF8) :
    ∃ last,
      run bytes.size Copying.index (Copying.step style bytes) Copying.start =
          .ok last ∧
        last.index = bytes.size ∧ last.Sound style bytes := by
  have moves (state : Copying) (sound : state.Sound style bytes)
      (inside : state.index < bytes.size) :
      ∃ next,
        state.step style bytes = .ok next ∧ state.index < next.index ∧
          next.Sound style bytes := by
    rcases Copying.exists_step style inside with ⟨next, stepped, moves⟩
    exact ⟨next, stepped, moves.index_lt.1, moves.sound sound⟩
  rcases
    exists_run (Copying.Sound style bytes) (Copying.sound_start style valid)
      moves with
    ⟨last, ran, ends, sound⟩
  exact ⟨last, ran, Nat.le_antisymm sound.inside ends, sound⟩

/-- The loop that lists words comes to the end. -/
theorem exists_listing (bytes : ByteArray) :
    ∃ last,
      run bytes.size Listing.index (Listing.step bytes) Listing.start =
          .ok last ∧
        last.index = bytes.size ∧ last.Sound bytes := by
  have moves (state : Listing) (sound : state.Sound bytes)
      (inside : state.index < bytes.size) :
      ∃ next,
        state.step bytes = .ok next ∧ state.index < next.index ∧
          next.Sound bytes := by
    rcases Listing.exists_step inside with ⟨next, stepped, moves⟩
    exact ⟨next, stepped, moves.index_lt.1, moves.sound sound⟩
  rcases exists_run (Listing.Sound bytes) (Listing.sound_start bytes) moves with
    ⟨last, ran, ends, sound⟩
  exact ⟨last, ran, Nat.le_antisymm sound.inside ends, sound⟩

theorem drop_size (bytes : ByteArray) :
    (octets bytes).drop bytes.size = [] := by
  rw [← length_octets, List.drop_length]

/-- At the end a copy is an encoded text. -/
theorem Copying.Sound.isValidUTF8
    {style : NumberStyle} {bytes copy : ByteArray} {last : Copying}
    (sound : last.Sound style bytes) (ends : last.index = bytes.size)
    (copied : last.copy = some copy) :
    copy.IsValidUTF8 := by
  have valid := sound.valid
  rw [Copying.whole, Copying.written, copied, ends, ByteArray.extract_same,
    ByteArray.append_empty] at valid
  exact valid

/-- At the end the copy is that of the reader of characters. -/
theorem Copying.Sound.copy_eq
    {style : NumberStyle} {sql : String} {last : Copying}
    (sound : last.Sound style sql.toByteArray)
    (ends : last.index = sql.toByteArray.size)
    (small : sql.toByteArray.size < 2 ^ 32) :
    last.copy =
      if placeholders sql = 0 then none
      else some (Lexical.number style sql).toByteArray := by
  have injective : Function.Injective octets :=
    fun _ _ same => octets_inj.1 same
  apply Option.map_injective injective
  have same := (sound.follows small).1
  rw [outcome, ends, drop_size, copyFrom, Option.map_map, copyFrom_none,
    octets_toByteArray, placeholdersFrom_spelled, numberFrom_spelled] at same
  rw [apply_ite (Option.map octets), Option.map_none, Option.map_some,
    octets_toByteArray, Lexical.number, String.toList_ofList]
  refine Eq.trans ?_ same
  apply Option.map_congr
  intro copy _
  exact (List.reverse_reverse _).symm

theorem renumberEncoded_eq
    (style : NumberStyle) {sql : String}
    (small : sql.toByteArray.size < 2 ^ 32) :
    renumberEncoded style sql = .ok (renumber style sql) := by
  rcases exists_copying style sql.isValidUTF8 with ⟨last, ran, ends, sound⟩
  rw [renumberEncoded, ran, renumber_eq]
  simp only [bind, Except.bind, sound.copy_eq ends small]
  by_cases none : placeholders sql = 0
  · rw [if_pos none, if_pos none]
    rfl
  · rw [if_neg none, if_neg none]
    simp only [Text.decode_toByteArray]
    rfl

theorem encodedWords_eq
    {sql : String} (small : sql.toByteArray.size < 2 ^ 32) :
    encodedWords sql = .ok (statementWords sql) := by
  rcases exists_listing sql.toByteArray with ⟨last, ran, ends, sound⟩
  have same := (sound.follows small).1
  rw [Listing.outcome, ends, drop_size, octets_toByteArray, exposed,
    listed_spelled] at same
  have nothing :
      listed last.depth.toNat [] last.current
          (exposedFrom last.enclosure.mode []) =
        [last.current] :=
    congrArg (fun words => [words]) (List.append_nil last.current)
  rw [encodedWords, ran, statementWords_eq_listed, exposed, ← same, nothing]
  rfl

/-- Where a number is written, there are boundaries of characters around it. -/
theorem Copying.Moves.isValid
    {style : NumberStyle} {sql : String} {state next : Copying}
    (moves : state.Moves style sql.toByteArray next)
    (numbered : next.number ≠ state.number) :
    String.Pos.Raw.IsValid sql ⟨state.index⟩ ∧
      String.Pos.Raw.IsValid sql ⟨next.index⟩ := by
  cases moves with
  | pass | plain => exact absurd rfl numbered
  | mark here _ => exact isValid_around here

/--
The loops over the bytes of a statement are safe, whatever the statement is.
From every index in the text a step is made: no byte and no slice is taken that
the text does not have, the index grows, and it does not pass the end.  Where a
number is written, there are boundaries of characters on both sides.  So both
loops end, the copy is an encoded text, and decoding replaces nothing in it.
Below 4 GiB, where depths do not wrap around, they give the numbered statement
and its words.
-/
theorem encoded_safe (style : NumberStyle) (sql : String) :
    let bytes := sql.toByteArray
    Proceeds bytes.size Copying.index (Copying.step style bytes) ∧
      Proceeds bytes.size Listing.index (Listing.step bytes) ∧
      (∀ state next,
        state.index < bytes.size → Copying.step style bytes state = .ok next →
          next.number ≠ state.number →
            String.Pos.Raw.IsValid sql ⟨state.index⟩ ∧
              String.Pos.Raw.IsValid sql ⟨next.index⟩) ∧
      (∃ last,
        run bytes.size Copying.index (Copying.step style bytes)
              Copying.start =
            .ok last ∧
          ∀ copy,
            last.copy = some copy →
              ∃ valid : copy.IsValidUTF8,
                Text.decode copy = String.ofByteArray copy valid) ∧
      (∃ handed, renumberEncoded style sql = .ok handed) ∧
      (∃ words, encodedWords sql = .ok words) ∧
      (bytes.size < 2 ^ 32 →
        renumberEncoded style sql = .ok (renumber style sql) ∧
          encodedWords sql = .ok (statementWords sql)) := by
  intro bytes
  rcases exists_copying style sql.isValidUTF8 with ⟨copying, ran, ends, sound⟩
  rcases exists_listing bytes with ⟨listing, listed, -, -⟩
  refine ⟨?_, ?_, ?_, ⟨copying, ran, ?_⟩, ?_, ?_, ?_⟩
  · intro state inside
    rcases Copying.exists_step style inside with ⟨next, stepped, moves⟩
    exact ⟨next, stepped, moves.index_lt⟩
  · intro state inside
    rcases Listing.exists_step inside with ⟨next, stepped, moves⟩
    exact ⟨next, stepped, moves.index_lt⟩
  · intro state next inside stepped numbered
    rcases Copying.exists_step style inside with ⟨other, same, moves⟩
    cases stepped.symm.trans same
    exact moves.isValid numbered
  · intro copy copied
    have valid := sound.isValidUTF8 ends copied
    exact ⟨valid, Text.decode_toByteArray (String.ofByteArray copy valid)⟩
  · rw [renumberEncoded, ran]
    rcases copying with ⟨index, enclosure, number, _ | copy⟩
    · exact ⟨.given sql, rfl⟩
    · exact ⟨.rewritten (Text.decode copy), rfl⟩
  · rw [encodedWords, listed]
    exact ⟨_, rfl⟩
  · intro small
    exact ⟨renumberEncoded_eq style small, encodedWords_eq small⟩

/-- A placeholder behind a long character, and a comment that does not end. -/
theorem encoded_safe_interrupted :
    String.Pos.Raw.IsValid "é?/*" ⟨2⟩ ∧ String.Pos.Raw.IsValid "é?/*" ⟨3⟩ ∧
      renumberEncoded .dollar "é?/*" = .ok (.rewritten "é$1/*") ∧
        encodedWords "é?/*" = .ok [] := by
  rcases encoded_safe .dollar "é?/*" with ⟨-, -, boundaries, -, -, -, same⟩
  have stepped :
      Copying.step .dollar "é?/*".toByteArray ⟨2, .none, 1, none⟩ =
        .ok ⟨3, .none, 2, some "é$1".toByteArray⟩ := by
    rfl
  rcases boundaries _ _ (by decide) stepped (by decide) with ⟨before, behind⟩
  rcases same (by decide) with ⟨numbered, words⟩
  refine ⟨before, behind, numbered, words⟩

end Sqlwright.Lexical
