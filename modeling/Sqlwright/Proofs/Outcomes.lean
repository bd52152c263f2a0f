import Sqlwright.Proofs.Agreement
import Sqlwright.Proofs.Lexemes
import Sqlwright.Proofs.Placement

/-!
# Outcomes of byte loops

The outcome of a state is what would come of it if all that is left were read
character by character: for `Copying` the numbered copy, if there is to be one,
and for `Listing` the words of all statements.  At the beginning this is what
the reader of characters makes of the bytes of the whole text, and at the end it
is what the loop has made.

No step of a loop changes the outcome.  This needs depths that do not wrap
around, hence texts below 4 GiB.
-/

namespace Sqlwright.Lexical

open Sqlwright.Weaving

/-- Words are of ASCII. -/
theorem lt_of_isWordChar
    {character : Char} (inWord : isWordChar character = true) :
    character.toNat < 128 :=
  Nat.lt_of_le_of_lt (toNat_of_isWordChar inWord).2 (by decide)

/-! ## Numbering -/

theorem copyFrom_append_of_silent
    (style : NumberStyle) {mode : Mode} (number : Nat)
    (front : List Char) (copy : Option (List Char)) {seen : List Char}
    (silent : placeholdersFrom mode seen = 0) (rest : List Char) :
    copyFrom style mode number front copy (seen ++ rest) =
      copyFrom style (mode.after seen) number (seen.reverse ++ front)
        (copy.map (seen.reverse ++ ·)) rest := by
  induction seen generalizing mode front copy with
  | nil => cases copy <;> rfl
  | cons character seen induction =>
      rcases silent_of_cons silent with ⟨noMark, remaining⟩
      rw [List.cons_append, copyFrom, if_neg noMark, induction _ _ remaining,
        Mode.after_cons, List.reverse_cons, List.append_assoc, Option.map_map]
      congr 1
      cases copy with
      | none => rfl
      | some copy =>
          rw [Option.map_some, Option.map_some, List.append_assoc]
          rfl

variable {bytes : ByteArray}

theorem take_of_drop
    {index : Nat} {seen behind : List Char}
    (here : (octets bytes).drop index = seen ++ behind) :
    (octets bytes).take (index + seen.length) =
        (octets bytes).take index ++ seen ∧
      (octets bytes).drop (index + seen.length) = behind ∧
      octets (bytes.extract index (index + seen.length)) = seen := by
  refine ⟨?_, ?_, ?_⟩
  · rw [List.take_add, here, List.take_left]
  · rw [← List.drop_drop, here, List.drop_left]
  · rw [octets_extract, here, Nat.add_sub_cancel_left, List.take_left]

namespace Copying

variable {style : NumberStyle} {state next : Copying}

/-- What numbering makes of all that is left, as far as there is a copy. -/
def outcome (style : NumberStyle) (bytes : ByteArray) (state : Copying) :
    Option (List Char) :=
  copyFrom style state.enclosure.mode state.number
    ((octets bytes).take state.index).reverse
    (state.copy.map fun copy => (octets copy).reverse)
    ((octets bytes).drop state.index)

/-- Copied bytes are those that numbering leaves as they are. -/
theorem outcome_kept
    {seen behind : List Char} {enclosure : Enclosure}
    (here : (octets bytes).drop state.index = seen ++ behind)
    (silent : placeholdersFrom state.enclosure.mode seen = 0)
    (agrees :
      Mode.Agrees (state.enclosure.mode.after seen) enclosure.mode behind) :
    (state.kept bytes enclosure seen.length).outcome style bytes =
      state.outcome style bytes := by
  rcases take_of_drop here with ⟨taken, left, extracted⟩
  have copied :
      ((state.kept bytes enclosure seen.length).copy.map fun copy =>
          (octets copy).reverse) =
        (state.copy.map fun copy => (octets copy).reverse).map
          (seen.reverse ++ ·) := by
    rw [kept, Option.map_map, Option.map_map]
    apply Option.map_congr
    intro copy _
    show (octets (copy ++ _)).reverse = _
    rw [octets_append, extracted, List.reverse_append]
    rfl
  rw [outcome, copied, outcome, here,
    copyFrom_append_of_silent style _ _ _ silent, agrees.copyFrom_eq]
  show copyFrom style enclosure.mode state.number
      ((octets bytes).take (state.index + seen.length)).reverse _
      ((octets bytes).drop (state.index + seen.length)) = _
  rw [taken, left, List.reverse_append]

theorem octets_mark (style : NumberStyle) (number : Nat) :
    octets (String.ofList (style.mark number)).toByteArray =
      style.mark number := by
  rw [octets_toByteArray, String.toList_ofList]
  apply flatMap_spelled
  intro character member
  exact lt_of_isWordChar ((mark_spec style number).1 character member)

theorem octets_written (bytes : ByteArray) (state : Copying) :
    octets (state.written bytes) =
      ((state.copy.map fun copy => (octets copy).reverse).getD
        ((octets bytes).take state.index).reverse).reverse := by
  cases copied : state.copy with
  | none =>
      rw [written, copied, Option.getD_none, octets_extract, List.drop_zero,
        Nat.sub_zero, Option.map_none, Option.getD_none, List.reverse_reverse]
  | some copy =>
      rw [written, copied, Option.getD_some, Option.map_some,
        Option.getD_some, List.reverse_reverse]

theorem outcome_marked
    {behind : List Char}
    (here : (octets bytes).drop state.index = '?' :: behind)
    (outside : state.enclosure = .none) :
    (state.marked style bytes).outcome style bytes =
      state.outcome style bytes := by
  have single : (octets bytes).drop state.index = ['?'] ++ behind := here
  rcases take_of_drop single with ⟨taken, left, -⟩
  have placeholder : (Enclosure.none.mode.isPlain && '?' == '?') = true := rfl
  rw [outcome, outcome, here, copyFrom, outside, if_pos placeholder]
  show copyFrom style state.enclosure.mode (state.number + 1)
      ((octets bytes).take (state.index + ['?'].length)).reverse
      (some (octets (_ ++ _)).reverse)
      ((octets bytes).drop (state.index + ['?'].length)) = _
  rw [octets_append, octets_mark, octets_written, outside, taken, left,
    List.reverse_append, List.reverse_append, List.reverse_reverse]
  rfl

theorem Moves.outcome_eq
    (moves : state.Moves style bytes next)
    (within : state.enclosure.Within state.index)
    (small : bytes.size < 2 ^ 32) :
    next.outcome style bytes = state.outcome style bytes ∧
      next.enclosure.Within next.index := by
  have inside := Nat.lt_of_le_of_lt moves.index_lt.2 small
  cases moves with
  | pass here passes =>
      exact
        ⟨outcome_kept here passes.placeholdersFrom_eq
            (passes.agrees within inside),
          passes.within within inside⟩
  | @plain octet behind here outside unmarked other =>
      have silent : placeholdersFrom state.enclosure.mode [octet] = 0 := by
        rw [outside, placeholdersFrom, if_neg (by simpa using fun _ => other)]
        rfl
      refine ⟨outcome_kept here silent ?_, trivial⟩
      rw [outside]
      exact unmarked.agrees.2
  | mark here outside =>
      refine ⟨outcome_marked here outside, ?_⟩
      show state.enclosure.Within _
      rw [outside]
      trivial

end Copying

/-! ## Words -/

namespace Listing

variable {state next : Listing}

/-- All words of a text, those that have been found and those that are left. -/
def outcome (bytes : ByteArray) (state : Listing) : List (List Word) :=
  state.finished ++
    listed state.depth.toNat [] state.current
      (exposedFrom state.enclosure.mode ((octets bytes).drop state.index))

theorem outcome_passed
    {seen behind : List Char} {enclosure : Enclosure}
    (here : (octets bytes).drop state.index = seen ++ behind)
    (inert :
      ∀ character ∈ exposedFrom state.enclosure.mode seen,
        isInert character = true)
    (agrees :
      Mode.Agrees (state.enclosure.mode.after seen) enclosure.mode behind) :
    (state.passed enclosure seen.length).outcome bytes =
      state.outcome bytes := by
  rw [outcome, outcome, here, exposedFrom_append,
    listed_append_of_isInert _ _ inert, agrees.exposedFrom_eq,
    ← (take_of_drop here).2.1]
  rfl

/-- The word that is cut out is the one that stands there. -/
theorem decode_extract
    {index : Nat} {word behind : List Char}
    (here : (octets bytes).drop index = word ++ behind)
    (inWord : word.all isWordChar = true) :
    Text.decode (bytes.extract index (index + word.length)) =
      String.ofList word := by
  have ascii : ∀ character ∈ word, character.toNat < 128 :=
    fun character member =>
      lt_of_isWordChar (List.all_eq_true.1 inWord character member)
  have encoded :
      bytes.extract index (index + word.length) =
        (String.ofList word).toByteArray := by
    rw [← octets_inj, (take_of_drop here).2.2, octets_toByteArray,
      String.toList_ofList, flatMap_spelled ascii]
  rw [encoded, Text.decode_toByteArray]

theorem outcome_taken
    {word behind : List Char}
    (here : (octets bytes).drop state.index = word ++ behind)
    (outside : state.enclosure = .none) (nonempty : word ≠ [])
    (inWord : word.all isWordChar = true) (apart : Apart behind) :
    (state.taken bytes word.length).outcome bytes = state.outcome bytes := by
  have neutral : word.all isNeutral = true := by
    rw [List.all_eq_true] at inWord ⊢
    exact fun character member =>
      isNeutral_of_isWordChar (inWord character member)
  have isPlain : Enclosure.none.mode.isPlain = true := rfl
  rw [outcome, outcome, here, outside, exposedFrom_append,
    exposedFrom_neutral isPlain neutral,
    (read_neutral isPlain neutral).1 nonempty,
    listed_word _ _ nonempty inWord (apart_exposedFrom apart .plain)]
  show state.finished ++
      listed state.depth.toNat []
        (state.current ++ [⟨Text.upper (Text.decode _), _⟩])
        (exposedFrom state.enclosure.mode
          ((octets bytes).drop (state.index + word.length))) = _
  rw [decode_extract here inWord, (take_of_drop here).2.1, outside, Text.upper,
    String.toList_ofList]
  rfl

/-- Depths that do not wrap around are counted as depths of characters are. -/
theorem toNat_depthBehind
    {depth : UInt32} (small : depth.toNat + 1 < 2 ^ 32) {octet : Char}
    (stays : octet ≠ ';') :
    (depthBehind depth octet).toNat = depthAfter depth.toNat octet := by
  rw [depthBehind, depthAfter]
  split
  · exact Enclosure.toNat_succ small
  · split
    · split
      · rename_i zero
        rw [zero]
        rfl
      · rename_i several
        apply Enclosure.toNat_pred
        apply Nat.pos_of_ne_zero
        exact fun zero => several (UInt32.toNat_inj.1 zero)
    · rfl

theorem toNat_depthBehind_le
    {depth : UInt32} (small : depth.toNat + 1 < 2 ^ 32) (octet : Char) :
    (depthBehind depth octet).toNat ≤ depth.toNat + 1 := by
  by_cases ends : octet = ';'
  · rw [ends]
    exact Nat.zero_le _
  · rw [toNat_depthBehind small ends, depthAfter]
    split
    · exact Nat.le_refl _
    · split <;> omega

/-- A byte between words does to them what it does as a character. -/
theorem outcome_part
    {octet : Char} {behind : List Char}
    (here : (octets bytes).drop state.index = octet :: behind)
    (outside : state.enclosure = .none) (unmarked : Unmarked octet behind)
    (noWord : isWordChar octet = false)
    (small : state.depth.toNat + 1 < 2 ^ 32) :
    (state.part octet).outcome bytes = state.outcome bytes := by
  have exposes : Mode.plain.exposes octet = true := by
    rw [Mode.exposes, unmarked.agrees.1]
    rfl
  have read :
      exposedFrom .plain (octet :: behind) =
        octet :: exposedFrom .plain behind := by
    rw [exposedFrom, if_pos exposes, unmarked.agrees.2.exposedFrom_eq]
  have none : finishWord state.depth.toNat [] = [] := rfl
  have left : (octets bytes).drop (state.part octet).index = behind :=
    drop_succ here
  rw [outcome, left, outcome, here, part, outside]
  show _ = state.finished ++ listed _ [] _ (exposedFrom .plain _)
  rw [read, listed, none, List.append_nil, noWord, if_neg Bool.false_ne_true]
  by_cases ends : octet = ';'
  · rw [if_pos ends, if_pos ends, if_pos ends, ends, List.append_assoc]
    rfl
  · rw [if_neg ends, if_neg ends, if_neg ends, toNat_depthBehind small ends]
    rfl

theorem Moves.outcome_eq
    (moves : state.Moves bytes next)
    (within : state.enclosure.Within state.index)
    (counted : state.depth.toNat ≤ state.index)
    (small : bytes.size < 2 ^ 32) :
    next.outcome bytes = state.outcome bytes ∧
      next.enclosure.Within next.index ∧ next.depth.toNat ≤ next.index := by
  have inside := Nat.lt_of_le_of_lt moves.index_lt.2 small
  have further := Nat.le_of_lt moves.index_lt.1
  cases moves with
  | pass here passes =>
      exact
        ⟨outcome_passed here passes.isInert_of_mem
            (passes.agrees within inside),
          passes.within within inside, Nat.le_trans counted further⟩
  | @part octet behind here outside unmarked noWord =>
      have small : state.depth.toNat + 1 < 2 ^ 32 :=
        Nat.lt_of_le_of_lt (Nat.succ_le_succ counted) inside
      refine
        ⟨outcome_part here outside unmarked noWord small, ?_,
          Nat.le_trans (toNat_depthBehind_le small octet)
            (Nat.succ_le_succ counted)⟩
      show state.enclosure.Within _
      rw [outside]
      trivial
  | word here outside nonempty inWord apart =>
      refine
        ⟨outcome_taken here outside nonempty inWord apart, ?_,
          Nat.le_trans counted further⟩
      show state.enclosure.Within _
      rw [outside]
      trivial

end Listing

end Sqlwright.Lexical
