import Sqlwright.Proofs.Octets
import Sqlwright.Proofs.Wording

/-!
# Indices that stay in a text

Both loops over the bytes of a text are followed step by step.  `Copying.Moves`
and `Listing.Moves` say what a step can do; at every index of a text there is a
step, it moves on, and it does not leave the text.  So a loop takes no byte and
no slice that is not there, and it comes to the end.

A number is written in place of one byte that is a character by itself.  Hence
the index in front of it and the index behind it are boundaries of characters,
and what has been written goes together with what is left to an encoded text.
-/

namespace Sqlwright.Lexical

/-! ## Loops -/

section

variable {State : Type} {size : Nat} {index : State → Nat}
  {step : State → Except Overrun State} {start : State}

/--
From every index in a text the loop makes a step, which moves on and does not
leave the text.
-/
def Proceeds (size : Nat) (index : State → Nat)
    (step : State → Except Overrun State) : Prop :=
  ∀ state,
    index state < size →
      ∃ next,
        step state = .ok next ∧ index state < index next ∧ index next ≤ size

/-- A loop of which every step moves on comes to the end of the text. -/
theorem exists_run
    (Invariant : State → Prop) (initial : Invariant start)
    (moves :
      ∀ state,
        Invariant state → index state < size →
          ∃ next,
            step state = .ok next ∧ index state < index next ∧
              Invariant next) :
    ∃ last,
      run size index step start = .ok last ∧ size ≤ index last ∧
        Invariant last := by
  fun_induction run size index step start with
  | case1 state inside overrun failed =>
      rcases moves state initial inside with ⟨next, stepped, -⟩
      cases failed.symm.trans stepped
  | case2 state inside next stepped further induction =>
      rcases moves state initial inside with ⟨other, same, -, kept⟩
      cases stepped.symm.trans same
      exact induction kept
  | case3 state inside next stepped stalled =>
      rcases moves state initial inside with ⟨other, same, further, -⟩
      cases stepped.symm.trans same
      exact absurd further stalled
  | case4 state outside =>
      exact ⟨state, rfl, Nat.le_of_not_lt outside, initial⟩

end

variable {bytes : ByteArray}

theorem slice_of_le
    {start stop : Nat} (ordered : start ≤ stop) (inside : stop ≤ bytes.size) :
    slice bytes start stop = .ok (bytes.extract start stop) :=
  if_pos ⟨ordered, inside⟩

/-- What stands at an index does not reach beyond the text. -/
theorem le_size_of_drop
    {index : Nat} {seen behind : List Char} (nonempty : seen ≠ [])
    (here : (octets bytes).drop index = seen ++ behind) :
    index < index + seen.length ∧ index + seen.length ≤ bytes.size := by
  have sizes := congrArg List.length here
  rw [List.length_drop, length_octets, List.length_append] at sizes
  have := List.length_pos_of_ne_nil nonempty
  omega

/-! ## Numbering -/

namespace Copying

/-- What has been copied, or would have been if a copy had been begun. -/
def written (bytes : ByteArray) (state : Copying) : ByteArray :=
  state.copy.getD (bytes.extract 0 state.index)

/-- The state behind some bytes that are copied. -/
def kept (bytes : ByteArray) (state : Copying) (enclosure : Enclosure)
    (width : Nat) : Copying :=
  { state with
    index := state.index + width
    enclosure := enclosure
    copy :=
      state.copy.map fun copy =>
        copy ++ bytes.extract state.index (state.index + width) }

/-- The state behind a byte that has been numbered. -/
def marked (style : NumberStyle) (bytes : ByteArray) (state : Copying) :
    Copying :=
  { state with
    index := state.index + 1
    number := state.number + 1
    copy :=
      some
        (state.written bytes ++
          (String.ofList (style.mark state.number)).toByteArray) }

/-- What a step can do. -/
inductive Moves (style : NumberStyle) (bytes : ByteArray) (state : Copying) :
    Copying → Prop where
  | pass {seen behind : List Char} {next : Enclosure} :
      (octets bytes).drop state.index = seen ++ behind →
        state.enclosure.Passes seen behind next →
          Moves style bytes state (state.kept bytes next seen.length)
  | plain {octet : Char} {behind : List Char} :
      (octets bytes).drop state.index = octet :: behind →
        state.enclosure = .none → Unmarked octet behind → octet ≠ '?' →
          Moves style bytes state (state.kept bytes .none 1)
  | mark {behind : List Char} :
      (octets bytes).drop state.index = '?' :: behind →
        state.enclosure = .none →
          Moves style bytes state (state.marked style bytes)

variable {style : NumberStyle} {state next : Copying}

theorem keep_eq
    {width : Nat} (inside : state.index + width ≤ bytes.size)
    (enclosure : Enclosure) :
    state.keep bytes enclosure width =
      .ok (state.kept bytes enclosure width) := by
  have taken := slice_of_le (Nat.le_add_right state.index width) inside
  rcases state with ⟨index, within, number, _ | copy⟩
  · rfl
  · simp only [keep, taken]
    rfl

theorem mark_eq (style : NumberStyle) (inside : state.index ≤ bytes.size) :
    state.mark style bytes = .ok (state.marked style bytes) := by
  have taken := slice_of_le (Nat.zero_le state.index) inside
  rcases state with ⟨index, within, number, _ | copy⟩
  · simp only [mark, taken]
    rfl
  · rfl

/-- At every index of a text there is a step. -/
theorem exists_step (style : NumberStyle) (inside : state.index < bytes.size) :
    ∃ next,
      state.step style bytes = .ok next ∧ state.Moves style bytes next := by
  rcases exists_octet inside with ⟨octet, behind, here⟩
  rcases Enclosure.exists_pass here state.enclosure with
    ⟨seen, rest, next, split, passes, passed⟩ | ⟨outside, stays, unmarked⟩
  · have bounded :=
      (le_size_of_drop passes.ne_nil (here.trans split)).2
    refine
      ⟨state.kept bytes next seen.length, ?_,
        .pass (here.trans split) passes⟩
    rw [step, passed]
    exact keep_eq bounded next
  · rw [step, stays]
    simp only [bind, Except.bind, octetAt_of_drop here]
    split
    · rename_i placeholder
      subst placeholder
      exact ⟨_, mark_eq style (Nat.le_of_lt inside), .mark here outside⟩
    · rename_i other
      exact ⟨_, keep_eq inside .none, .plain here outside unmarked other⟩

/-- Each step moves on and stays in the text. -/
theorem Moves.index_lt (moves : state.Moves style bytes next) :
    state.index < next.index ∧ next.index ≤ bytes.size := by
  cases moves with
  | pass here passes => exact le_size_of_drop passes.ne_nil here
  | plain here _ _ _ | mark here _ =>
      exact le_size_of_drop (List.cons_ne_nil _ []) here

end Copying

/-! ## Boundaries -/

theorem getElem_of_drop
    {index : Nat} {octet : Char} {behind : List Char}
    (here : (octets bytes).drop index = octet :: behind) :
    ∃ inside : index < bytes.size, bytes[index] = octet.toUInt8 := by
  have inside := (le_size_of_drop (List.cons_ne_nil octet []) here).2
  have found := octetAt?_of_drop here
  rw [octetAt?, getElem?_pos bytes index inside, Option.map_some] at found
  refine ⟨inside, ?_⟩
  rw [← Option.some.inj found, toUInt8_ofUInt8]

/-- On both sides of a placeholder there are boundaries of characters. -/
theorem isValid_around
    {text : String} {index : Nat} {behind : List Char}
    (here : (octets text.toByteArray).drop index = '?' :: behind) :
    String.Pos.Raw.IsValid text ⟨index⟩ ∧
      String.Pos.Raw.IsValid text ⟨index + 1⟩ := by
  rcases getElem_of_drop here with ⟨inside, byte⟩
  have first : UInt8.IsUTF8FirstByte text.toByteArray[index] := by
    rw [byte]
    decide
  have front : String.Pos.Raw.IsValid text ⟨index⟩ :=
    String.Pos.Raw.isValid_iff_isUTF8FirstByte.2 (.inr ⟨inside, first⟩)
  have single : [text.toByteArray[index]].toByteArray = ['?'].utf8Encode := by
    rw [byte]
    rfl
  refine
    ⟨front,
      String.Pos.Raw.isValid_iff_isValidUTF8_extract_zero.2 ⟨inside, ?_⟩⟩
  show (text.toByteArray.extract 0 (index + 1)).IsValidUTF8
  rw [ByteArray.extract_eq_extract_append_extract index (Nat.zero_le index)
      (Nat.le_succ index),
    ByteArray.extract_add_one inside, single]
  exact
    front.isValidUTF8_extract_zero.append ByteArray.isValidUTF8_utf8Encode

/-- A placeholder can be taken out between two encoded texts. -/
theorem valid_around
    {front back : ByteArray} {behind : List Char}
    (whole : (front ++ back).IsValidUTF8)
    (here : octets back = '?' :: behind) :
    front.IsValidUTF8 ∧ (back.extract 1 back.size).IsValidUTF8 := by
  have between :
      (octets (String.ofByteArray (front ++ back) whole).toByteArray).drop
          front.size =
        '?' :: behind := by
    show (octets (front ++ back)).drop front.size = _
    rw [octets_append, ← length_octets, List.drop_left, here]
  rcases isValid_around between with ⟨before, after⟩
  have frontValid := before.isValidUTF8_extract_zero
  have backValid := after.isValidUTF8_extract_utf8ByteSize
  constructor
  · rwa [ByteArray.extract_append_eq_left rfl] at frontValid
  · rw [String.utf8ByteSize_ofByteArray, ByteArray.size_append,
      ByteArray.extract_append_size_add] at backValid
    exact backValid

namespace Copying

variable {style : NumberStyle} {state next : Copying}

/-- What has been written, and what is left to be read. -/
def whole (bytes : ByteArray) (state : Copying) : ByteArray :=
  state.written bytes ++ bytes.extract state.index bytes.size

theorem written_kept (enclosure : Enclosure) (width : Nat) :
    (state.kept bytes enclosure width).written bytes =
      state.written bytes ++
        bytes.extract state.index (state.index + width) := by
  rcases state with ⟨index, within, number, _ | copy⟩
  · exact
      ByteArray.extract_eq_extract_append_extract index (Nat.zero_le index)
        (Nat.le_add_right index width)
  · rfl

/-- Bytes that are copied are taken from what is left to what is written. -/
theorem whole_kept
    {width : Nat} (inside : state.index + width ≤ bytes.size)
    (enclosure : Enclosure) :
    (state.kept bytes enclosure width).whole bytes = state.whole bytes := by
  rw [whole, written_kept, ByteArray.append_assoc, whole,
    ByteArray.extract_eq_extract_append_extract (state.index + width)
      (Nat.le_add_right state.index width) inside]
  rfl

/-- Numbers do not break characters apart. -/
theorem Moves.valid_whole
    (moves : state.Moves style bytes next)
    (valid : (state.whole bytes).IsValidUTF8) :
    (next.whole bytes).IsValidUTF8 := by
  have inside := moves.index_lt.2
  cases moves with
  | pass | plain =>
      rw [whole_kept inside]
      exact valid
  | @mark behind here outside =>
      have left :
          octets (bytes.extract state.index bytes.size) = '?' :: behind := by
        rw [octets_extract, here, List.take_of_length_le]
        rw [← here, List.length_drop, length_octets]
      have behindMark :
          (bytes.extract state.index bytes.size).extract 1
              (bytes.extract state.index bytes.size).size =
            bytes.extract (state.index + 1) bytes.size := by
        rw [ByteArray.extract_extract, ByteArray.size_extract]
        congr 1
        omega
      rcases valid_around valid left with ⟨front, back⟩
      rw [behindMark] at back
      exact (front.append (String.isValidUTF8 _)).append back

end Copying

/-! ## Listing words -/

theorem wordEnd_eq (bytes : ByteArray) (index : Nat) :
    wordEnd bytes index =
      index + (((octets bytes).drop index).takeWhile isWordChar).length := by
  fun_induction wordEnd bytes index with
  | case1 index inside inWord induction =>
      rcases exists_octet inside with ⟨octet, behind, here⟩
      rw [octetAt?_of_drop here, Option.any_some] at inWord
      rw [drop_succ here] at induction
      rw [induction, here, List.takeWhile_cons_of_pos inWord, List.length_cons]
      omega
  | case2 index inside noWord =>
      rcases exists_octet inside with ⟨octet, behind, here⟩
      rw [octetAt?_of_drop here, Option.any_some] at noWord
      rw [here, List.takeWhile_cons_of_neg noWord]
      rfl
  | case3 index outside =>
      rw [List.drop_eq_nil_of_le]
      · rfl
      · rw [length_octets]
        exact Nat.le_of_not_lt outside

namespace Listing

/-- The state behind a region or a part of one. -/
def passed (state : Listing) (enclosure : Enclosure) (width : Nat) : Listing :=
  { state with
    index := state.index + width
    enclosure := enclosure }

/-- The state behind a word. -/
def taken (bytes : ByteArray) (state : Listing) (width : Nat) : Listing :=
  { state with
    index := state.index + width
    current :=
      state.current ++
        [⟨Text.upper
            (Text.decode
              (bytes.extract state.index (state.index + width))),
          state.depth.toNat⟩] }

/-- What a step can do. -/
inductive Moves (bytes : ByteArray) (state : Listing) : Listing → Prop where
  | pass {seen behind : List Char} {next : Enclosure} :
      (octets bytes).drop state.index = seen ++ behind →
        state.enclosure.Passes seen behind next →
          Moves bytes state (state.passed next seen.length)
  | part {octet : Char} {behind : List Char} :
      (octets bytes).drop state.index = octet :: behind →
        state.enclosure = .none → Unmarked octet behind →
          isWordChar octet = false → Moves bytes state (state.part octet)
  | word {word behind : List Char} :
      (octets bytes).drop state.index = word ++ behind →
        state.enclosure = .none → word ≠ [] → word.all isWordChar = true →
          Apart behind → Moves bytes state (state.taken bytes word.length)

variable {state next : Listing}

theorem apart_dropWhile (text : List Char) :
    Apart (text.dropWhile isWordChar) := by
  have ends := List.head?_dropWhile_not isWordChar text
  rw [Apart]
  cases found : (text.dropWhile isWordChar).head? with
  | none => rfl
  | some octet =>
      rw [found] at ends
      exact ends

/-- At every index of a text there is a step. -/
theorem exists_step (inside : state.index < bytes.size) :
    ∃ next, state.step bytes = .ok next ∧ state.Moves bytes next := by
  rcases exists_octet inside with ⟨octet, behind, here⟩
  rcases Enclosure.exists_pass here state.enclosure with
    ⟨seen, rest, next, split, passes, passed⟩ | ⟨outside, stays, unmarked⟩
  · refine ⟨_, ?_, .pass (here.trans split) passes⟩
    rw [step, passed]
    rfl
  · rw [step, stays]
    simp only [bind, Except.bind, octetAt_of_drop here]
    cases inWord : isWordChar octet with
    | false =>
        exact ⟨_, rfl, .part here outside unmarked inWord⟩
    | true =>
        have split :
            (octets bytes).drop state.index =
              ((octets bytes).drop state.index).takeWhile isWordChar ++
                ((octets bytes).drop state.index).dropWhile isWordChar :=
          List.takeWhile_append_dropWhile.symm
        have nonempty :
            ((octets bytes).drop state.index).takeWhile isWordChar ≠ [] := by
          rw [here, List.takeWhile_cons_of_pos inWord]
          exact List.cons_ne_nil _ _
        have bounds := le_size_of_drop nonempty split
        refine
          ⟨_, ?_,
            .word split outside nonempty List.all_takeWhile
              (apart_dropWhile _)⟩
        rw [if_pos rfl, take, wordEnd_eq,
          slice_of_le (Nat.le_of_lt bounds.1) bounds.2]
        rfl

/-- Each step moves on and stays in the text. -/
theorem Moves.index_lt (moves : state.Moves bytes next) :
    state.index < next.index ∧ next.index ≤ bytes.size := by
  cases moves with
  | pass here passes => exact le_size_of_drop passes.ne_nil here
  | part here _ _ _ => exact le_size_of_drop (List.cons_ne_nil _ []) here
  | word here _ nonempty _ _ => exact le_size_of_drop nonempty here

end Listing

end Sqlwright.Lexical
