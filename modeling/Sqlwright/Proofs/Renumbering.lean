import Sqlwright.Proofs.Grammar
import Sqlwright.Proofs.Placement

/-!
# Numbered text is settled

A numbered text has no placeholders left, so numbering it again in any style
hands it on as it is.  That is no matter of the marks alone: a mark might end
in front of a character with which it begins a comment, or stand where a
placeholder kept two quotes apart.

`InStep` says that a text and its numbered form are divided in step.  Each
region of one is a region of the other, character by character, and what stands
in place of a placeholder is plain text.  The reader sees the same: behind each
part of a text it is in the mode in which it is behind the numbered part.
-/

namespace Sqlwright.Lexical

open Sqlwright.Weaving

/-! ## Texts divided in step -/

/--
A text and another one that has the same regions and the same plain characters,
and marks with the numbers from `number` on in place of the placeholders.
-/
inductive InStep (style : NumberStyle) :
    Nat → List Char → List Char → Prop where
  | empty {number : Nat} : InStep style number [] []
  /-- No region begins with any of the characters of a mark. -/
  | placeholder {number : Nat} {rest numbered : List Char} :
      '?' ∉ style.mark number →
        (∀ tail ≠ [], tail <:+ style.mark number →
          ∀ kind : RegionKind, ¬ kind.mark <+: tail ++ numbered) →
          InStep style (number + 1) rest numbered →
            InStep style number ('?' :: rest) (style.mark number ++ numbered)
  | plain {number : Nat} {character : Char} {rest numbered : List Char} :
      character ≠ '?' →
        (∀ kind : RegionKind, ¬ kind.mark <+: character :: rest) →
          (∀ kind : RegionKind, ¬ kind.mark <+: character :: numbered) →
            InStep style number rest numbered →
              InStep style number (character :: rest) (character :: numbered)
  | region {number : Nat} {kind : RegionKind}
      {region behind numbered : List Char} :
      Region kind region → kind.EndsBefore behind →
        kind.EndsBefore numbered → InStep style number behind numbered →
          InStep style number (region ++ behind) (region ++ numbered)
  /-- A region that is begun and never completed. -/
  | unterminated {number : Nat} {kind : RegionKind} {text : List Char} :
      kind.mark <+: text →
        (∀ region behind, Region kind region → kind.EndsBefore behind →
          text ≠ region ++ behind) →
          InStep style number text text

/-! ## First characters -/

/-- A text begins as another one does, or with a neutral character. -/
def BeginsLike (text other : List Char) : Prop :=
  other.head? = text.head? ∨
    ∃ first, other.head? = some first ∧ isNeutral first = true

theorem RegionKind.not_mark_of_isNeutral
    (kind : RegionKind) {character : Char}
    (neutral : isNeutral character = true) (rest : List Char) :
    ¬ kind.mark <+: character :: rest := by
  intro begun
  cases kind with
  | quoted quotation =>
      rcases List.cons_prefix_cons.1 begun with ⟨rfl, -⟩
      cases quotation <;> cases neutral
  | lineComment | blockComment =>
      rcases List.cons_prefix_cons.1 begun with ⟨rfl, -⟩
      cases neutral

namespace BeginsLike

variable {text other : List Char}

/-- A second character that is neutral is no part of a mark. -/
theorem head?_eq
    (begins : BeginsLike text other) {special : Char}
    (noted : isNeutral special = false)
    (first : other.head? = some special) : text.head? = some special := by
  rcases begins with same | ⟨neutral, same, isNeutral⟩
  · rw [← same, first]
  · rw [first] at same
    cases same
    rw [noted] at isNeutral
    cases isNeutral

theorem not_mark
    (begins : BeginsLike text other) {kind : RegionKind} {character : Char}
    (unmarked : ¬ kind.mark <+: character :: text) :
    ¬ kind.mark <+: character :: other := by
  have pair {first second : Char} (noted : isNeutral second = false)
      (begun : [first, second] <+: character :: other) :
      [first, second] <+: character :: text := by
    rcases begun with ⟨rest, split⟩
    cases split
    rcases List.head?_eq_some_iff.1 (begins.head?_eq noted rfl) with
      ⟨behind, rfl⟩
    exact ⟨behind, rfl⟩
  intro begun
  apply unmarked
  cases kind with
  | quoted quotation =>
      rcases begun with ⟨rest, split⟩
      cases split
      exact ⟨text, rfl⟩
  | lineComment => exact pair rfl begun
  | blockComment => exact pair rfl begun

theorem endsBefore
    (begins : BeginsLike text other) {kind : RegionKind}
    (ends : kind.EndsBefore text) : kind.EndsBefore other := by
  cases kind with
  | quoted quotation =>
      intro first
      have noted : isNeutral quotation.closing = false := by
        cases quotation <;> rfl
      exact ends (begins.head?_eq noted first)
  | lineComment | blockComment => trivial

end BeginsLike

theorem InStep.beginsLike
    {style : NumberStyle} {number : Nat} {text numbered : List Char}
    (inStep : InStep style number text numbered) :
    BeginsLike text numbered := by
  cases inStep with
  | empty => exact .inl rfl
  | @placeholder number rest numbered _ _ _ =>
      rcases neutral_mark style number with ⟨neutral, nonempty⟩
      rcases List.exists_cons_of_ne_nil nonempty with ⟨first, others, mark⟩
      rw [mark] at neutral ⊢
      exact
        .inr ⟨first, rfl, List.all_eq_true.1 neutral first List.mem_cons_self⟩
  | plain _ _ _ _ => exact .inl rfl
  | region complete _ _ _ =>
      rcases List.exists_cons_of_ne_nil complete.ne_nil with ⟨_, _, rfl⟩
      exact .inl rfl
  | unterminated _ _ => exact .inl rfl

/-! ## Numbers between pieces -/

theorem joinNumbered_onFirst
    (style : NumberStyle) (number : Nat) (character : Char)
    (pieces : List (List Char)) :
    joinNumbered style number (onFirst character pieces) =
      character :: joinNumbered style number pieces := by
  cases pieces with
  | nil => rfl
  | cons piece rest => cases rest <;> rfl

theorem joinNumbered_prefixFirst
    (style : NumberStyle) (number : Nat) (front : List Char)
    (pieces : List (List Char)) :
    joinNumbered style number (prefixFirst front pieces) =
      front ++ joinNumbered style number pieces := by
  cases pieces with
  | nil => exact (List.append_nil front).symm
  | cons piece rest =>
      cases rest with
      | nil => rfl
      | cons next rest => simp [prefixFirst, joinNumbered]

theorem Divided.joinNumbered_cons
    {rest : List Char} {pieces : List (List Char)}
    (divided : Divided rest pieces) (style : NumberStyle) (number : Nat) :
    joinNumbered style number ([] :: pieces) =
      style.mark number ++ joinNumbered style (number + 1) pieces := by
  rcases exists_piecesFrom .plain rest with ⟨piece, more, split⟩
  rw [divided.eq_piecesFrom, split, joinNumbered_cons_cons]
  rfl

/-- A divided text and its pieces with numbers between them are in step. -/
theorem Divided.inStep
    {text : List Char} {pieces : List (List Char)}
    (divided : Divided text pieces) (style : NumberStyle) (number : Nat) :
    InStep style number text (joinNumbered style number pieces) := by
  induction divided generalizing number with
  | empty => exact .empty
  | @placeholder rest pieces divided induction =>
      rcases neutral_mark style number with ⟨neutral, -⟩
      rw [divided.joinNumbered_cons]
      refine .placeholder ?_ ?_ (induction (number + 1))
      · intro member
        exact absurd ((mark_spec style number).1 '?' member) (by decide)
      · intro tail nonempty suffix kind
        rcases List.exists_cons_of_ne_nil nonempty with ⟨first, others, rfl⟩
        apply kind.not_mark_of_isNeutral
        exact
          List.all_eq_true.1 neutral first (suffix.subset List.mem_cons_self)
  | plain other unmarked _ induction =>
      rw [joinNumbered_onFirst]
      have rest := induction number
      exact
        .plain other unmarked
          (fun kind => rest.beginsLike.not_mark (unmarked kind)) rest
  | region complete ends _ induction =>
      rw [joinNumbered_prefixFirst]
      have rest := induction number
      exact .region complete ends (rest.beginsLike.endsBefore ends) rest
  | unterminated begun incomplete => exact .unterminated begun incomplete

theorem InStep.exists_divided
    {style : NumberStyle} {number : Nat} {text numbered : List Char}
    (inStep : InStep style number text numbered) :
    ∃ pieces, Divided text pieces ∧
      numbered = joinNumbered style number pieces := by
  induction inStep with
  | empty => exact ⟨_, .empty, rfl⟩
  | placeholder _ _ _ induction =>
      rcases induction with ⟨pieces, divided, rfl⟩
      exact
        ⟨_, .placeholder divided, (divided.joinNumbered_cons _ _).symm⟩
  | plain other unmarked _ _ induction =>
      rcases induction with ⟨pieces, divided, rfl⟩
      exact
        ⟨_, .plain other unmarked divided,
          (joinNumbered_onFirst _ _ _ pieces).symm⟩
  | region complete ends _ _ induction =>
      rcases induction with ⟨pieces, divided, rfl⟩
      exact
        ⟨_, .region complete ends divided,
          (joinNumbered_prefixFirst _ _ _ pieces).symm⟩
  | unterminated begun incomplete =>
      exact ⟨_, .unterminated begun incomplete, rfl⟩

/-- The numbered form of a text is the only one that is in step with it. -/
theorem inStep_iff
    (style : NumberStyle) (number : Nat) (text other : List Char) :
    InStep style number text other ↔
      other = numberFrom style .plain number text := by
  rw [numberFrom_eq_joinNumbered]
  constructor
  · intro inStep
    rcases inStep.exists_divided with ⟨pieces, divided, rfl⟩
    rw [divided.eq_piecesFrom]
  · rintro rfl
    exact ((divided_iff text _).2 rfl).inStep style number

/-! ## The reader of numbered text -/

/--
Numbered text has no placeholders, and behind it the reader is in the mode in
which it is behind the text itself.
-/
theorem read_numberFrom
    (style : NumberStyle) (mode : Mode) (number : Nat) (text : List Char) :
    placeholdersFrom mode (numberFrom style mode number text) = 0 ∧
      mode.after (numberFrom style mode number text) = mode.after text := by
  induction text generalizing mode number with
  | nil => exact ⟨rfl, rfl⟩
  | cons character rest induction =>
      rw [numberFrom, Mode.after_cons]
      split
      · rename_i placeholder
        rw [Bool.and_eq_true, beq_iff_eq] at placeholder
        rcases placeholder with ⟨isPlain, rfl⟩
        rcases neutral_mark style number with ⟨neutral, nonempty⟩
        have read := read_neutral isPlain neutral
        have none : (style.mark number).count '?' = 0 := by
          apply List.count_eq_zero_of_not_mem
          intro member
          exact absurd ((mark_spec style number).1 '?' member) (by decide)
        have others := induction .plain (number + 1)
        rw [next_of_isNeutral isPlain rfl, placeholdersFrom_append,
          Mode.after_append, read.1 nonempty, read.2, none, others.1]
        exact ⟨rfl, others.2⟩
      · rename_i noPlaceholder
        have others := induction (mode.next character) number
        rw [placeholdersFrom, if_neg noPlaceholder, others.1, Mode.after_cons]
        exact ⟨rfl, others.2⟩

/--
Numbering a numbered text again, in whatever style, hands it on as it was
given: there is no placeholder left in it.  The numbered form is the one text
that is divided in step with the text, so no region is begun, ended or changed
by a number, and behind each front of the text the reader is in the mode in
which it is behind the numbered front.
-/
theorem renumber_renumber (first second : NumberStyle) (sql : String) :
    renumber second (renumber first sql).text =
        .given (renumber first sql).text ∧
      placeholders (renumber first sql).text = 0 ∧
      (∀ other, InStep first 1 sql.toList other ↔
        other = (renumber first sql).text.toList) ∧
      ∀ front behind : String, sql = front ++ behind →
        ∃ numbered,
          (renumber first sql).text =
              (renumber first front).text ++ numbered ∧
            Mode.plain.after (renumber first front).text.toList =
              Mode.plain.after front.toList := by
  have none : placeholders (number first sql) = 0 := by
    rw [placeholders, number, String.toList_ofList]
    exact (read_numberFrom first .plain 1 sql.toList).1
  rw [text_renumber]
  refine ⟨?_, none, ?_, ?_⟩
  · rw [renumber_eq, if_pos none]
  · rw [number, String.toList_ofList]
    exact inStep_iff first 1 sql.toList
  · rintro front behind rfl
    rw [text_renumber, number, number, String.toList_append,
      numberFrom_append, String.ofList_append, String.toList_ofList]
    exact ⟨_, rfl, (read_numberFrom first .plain 1 front.toList).2⟩

/-- Marks beside hyphens, slashes and quotes, and an open comment behind. -/
example :
    renumber .atP "-?-/?*'a'?'b?'[?]]?]/*?" =
        .rewritten "-@P1-/@P2*'a'@P3'b?'[?]]?]/*?" ∧
      renumber .dollar "-@P1-/@P2*'a'@P3'b?'[?]]?]/*?" =
        .given "-@P1-/@P2*'a'@P3'b?'[?]]?]/*?" := by
  decide

end Sqlwright.Lexical
