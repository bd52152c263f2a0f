import Sqlwright.Lexical.Routing
import Sqlwright.Proofs.Enclosing
import Sqlwright.Proofs.Wording

/-!
# Regions read as blanks

A literal, a quoted name or a comment keeps apart what stands on its two sides,
and does nothing else: a statement has the same words, verbs and placeholders
if a blank stands in its place.  So nothing that a driver decides about a
statement depends on what is inside of its regions.

Of a region nothing is exposed but blanks and, maybe, the first character of
its mark.  That is idle text, and all idle texts keep the words on their two
sides apart alike.
-/

namespace Sqlwright.Lexical

open Sqlwright.Weaving

/-! ## Idle text -/

/-- A character that is in no word, ends no statement and changes no depth. -/
def isIdle (character : Char) : Bool :=
  !isWordChar character && character != ';' && character != '(' &&
    character != ')'

/-- Some text of idle characters. -/
structure Idle (text : List Char) : Prop where
  nonempty : text ≠ []
  each : ∀ character ∈ text, isIdle character = true

theorem isIdle_iff (character : Char) :
    isIdle character = true ↔
      isWordChar character = false ∧ character ≠ ';' ∧ character ≠ '(' ∧
        character ≠ ')' := by
  simp [isIdle, and_assoc]

/-- Idle characters in front of a text have no words. -/
theorem wordsFrom_of_isIdle
    (depth : Nat) {idle : List Char}
    (each : ∀ character ∈ idle, isIdle character = true) (behind : List Char) :
    wordsFrom depth [] (idle ++ behind) = wordsFrom depth [] behind := by
  induction idle with
  | nil => rfl
  | cons character rest induction =>
      rw [List.forall_mem_cons, isIdle_iff] at each
      rcases each with ⟨⟨outside, -, opens, closes⟩, others⟩
      rw [List.cons_append, wordsFrom, outside, depthAfter, if_neg opens,
        if_neg closes, induction others]
      rfl

namespace Idle

variable {idle other : List Char}

theorem apart (isIdle : Idle idle) (behind : List Char) :
    Apart (idle ++ behind) := by
  cases idle with
  | nil => exact absurd rfl isIdle.nonempty
  | cons character rest =>
      exact ((isIdle_iff character).1 (isIdle.each character
        List.mem_cons_self)).1

theorem within (isIdle : Idle idle) : ';' ∉ idle := by
  intro member
  exact ((isIdle_iff ';').1 (isIdle.each ';' member)).2.1 rfl

/-- All idle texts keep the words on their two sides apart alike. -/
theorem wordsOf_eq
    (isIdle : Idle idle) (otherIdle : Idle other) (front behind : List Char) :
    wordsOf (front ++ (idle ++ behind)) =
      wordsOf (front ++ (other ++ behind)) := by
  rw [wordsOf, wordsOf, wordsFrom_append 0 [] front (isIdle.apart behind),
    wordsFrom_append 0 [] front (otherIdle.apart behind),
    wordsFrom_of_isIdle _ isIdle.each, wordsFrom_of_isIdle _ otherIdle.each]

theorem statementsOf_eq
    (isIdle : Idle idle) (otherIdle : Idle other) (front behind : List Char) :
    statementsOf (front ++ (idle ++ behind)) =
      statementsOf (front ++ (other ++ behind)) := by
  induction length : front.length using Nat.strong_induction_on
    generalizing front with
  | _ length induction =>
      subst length
      by_cases separated : ';' ∈ front
      · rcases List.eq_append_cons_of_mem separated with
          ⟨first, rest, rfl, -⟩
        have short : rest.length < (first ++ ';' :: rest).length := by
          simp only [List.length_append, List.length_cons]
          omega
        rw [List.append_assoc, List.append_assoc, List.cons_append,
          List.cons_append, statementsOf_append, statementsOf_append,
          induction _ short rest rfl]
      · have within {idle : List Char} (isIdle : Idle idle) :
            ';' ∉ front ++ idle := by
          rw [List.mem_append, not_or]
          exact ⟨separated, isIdle.within⟩
        rcases splitOn_append_of_not_mem (within isIdle) behind with
          ⟨first, later, split, whole⟩
        rcases splitOn_append_of_not_mem (within otherIdle) behind with
          ⟨_, _, splitOther, wholeOther⟩
        rw [split] at splitOther
        cases splitOther
        rw [List.append_assoc, List.append_assoc] at whole wholeOther
        rw [statementsOf, statementsOf, whole, wholeOther, List.map_cons,
          List.map_cons, isIdle.wordsOf_eq otherIdle]

end Idle

theorem idle_blank : Idle [' '] :=
  ⟨List.cons_ne_nil _ _, List.forall_mem_singleton.2 rfl⟩

/-! ## Regions -/

/-- The characters that regions begin with are idle and no placeholders. -/
theorem RegionKind.idle_mark
    {kind : RegionKind} {first : Char} {rest : List Char}
    (mark : kind.mark = first :: rest) :
    isIdle first = true ∧ (first == '?') = false := by
  cases kind with
  | quoted quotation =>
      cases quotation <;> cases mark <;> exact by decide
  | lineComment | blockComment =>
      cases mark
      exact by decide

namespace Enclosed

variable {front region behind : List Char}

/-- Nothing of a region is exposed but, maybe, its first character. -/
theorem exists_exposed (enclosed : Enclosed front region behind) :
    ∃ idle, Idle idle ∧
      exposed (front ++ (region ++ behind)) =
        exposed front ++ (idle ++ exposed behind) := by
  rcases enclosed.exists_cons with
    ⟨kind, first, mark, rest, isMark, rfl, unbroken⟩
  have parted := enclosed.begins.parted first rfl
  have next :=
    Mode.next_of_not_continues enclosed.begins.isPlain parted
  refine ⟨exposedFrom (Mode.plain.after front) (first :: rest), ⟨?_, ?_⟩, ?_⟩
  · exact List.cons_ne_nil _ _
  · rw [exposedFrom, next, List.forall_mem_cons]
    constructor
    · split
      · exact (RegionKind.idle_mark isMark).1
      · decide
    · intro character member
      rw [unbroken.exposedFrom character member]
      decide
  · have last := enclosed.ends.exposedFrom_eq
    rw [Mode.after_append] at last
    rw [exposed, exposedFrom_append, exposedFrom_append, last]
    rfl

theorem silent (enclosed : Enclosed front region behind) :
    placeholdersFrom (Mode.plain.after front) region = 0 := by
  rcases enclosed.exists_cons with
    ⟨kind, first, mark, rest, isMark, rfl, unbroken⟩
  have parted := enclosed.begins.parted first rfl
  rw [placeholdersFrom, (RegionKind.idle_mark isMark).2,
    Mode.next_of_not_continues enclosed.begins.isPlain parted,
    unbroken.silent, Bool.and_false]
  rfl

/-- What is behind a region is numbered as if it stood behind plain text. -/
theorem numberFrom_eq
    (enclosed : Enclosed front region behind) (style : NumberStyle) :
    numberFrom style .plain 1 (front ++ (region ++ behind)) =
      numberFrom style .plain 1 front ++
        (region ++
          numberFrom style .plain (1 + placeholdersFrom .plain front)
            behind) := by
  have last := enclosed.ends.numberFrom_eq style
  rw [Mode.after_append] at last
  rw [numberFrom_append, numberFrom_append, enclosed.silent, last,
    numberFrom_of_placeholdersFrom_eq_zero style _ _ _ enclosed.silent]
  rfl

theorem placeholdersFrom_eq (enclosed : Enclosed front region behind) :
    placeholdersFrom .plain (front ++ (region ++ behind)) =
      placeholdersFrom .plain front + placeholdersFrom .plain behind := by
  have last := enclosed.ends.placeholdersFrom_eq
  rw [Mode.after_append] at last
  rw [placeholdersFrom_append, placeholdersFrom_append, enclosed.silent, last,
    Nat.zero_add]

end Enclosed

/-! ## Statements -/

/-- A blank is exposed and numbered as it stands. -/
theorem read_blank
    {front : List Char} (isPlain : (Mode.plain.after front).isPlain = true)
    (behind : List Char) :
    exposed (front ++ ([' '] ++ behind)) =
        exposed front ++ ([' '] ++ exposed behind) ∧
      placeholdersFrom .plain (front ++ ([' '] ++ behind)) =
        placeholdersFrom .plain front + placeholdersFrom .plain behind ∧
      ∀ style,
        numberFrom style .plain 1 (front ++ ([' '] ++ behind)) =
          numberFrom style .plain 1 front ++
            ([' '] ++
              numberFrom style .plain (1 + placeholdersFrom .plain front)
                behind) := by
  have next : (Mode.plain.after front).next ' ' = .plain :=
    next_of_isNeutral isPlain rfl
  have shown : (Mode.plain.after front).exposes ' ' = true := by
    rw [Mode.exposes, isPlain, next]
    rfl
  have noMark :
      ¬ ((Mode.plain.after front).isPlain && ' ' == '?') = true := by
    rw [isPlain]
    decide
  refine ⟨?_, ?_, fun style => ?_⟩
  · rw [exposed, exposedFrom_append, List.singleton_append, exposedFrom, shown,
      next]
    rfl
  · rw [placeholdersFrom_append, List.singleton_append, placeholdersFrom, next,
      if_neg noMark]
    rfl
  · rw [numberFrom_append, List.singleton_append, numberFrom, next,
      if_neg noMark]
    rfl

/-- A region keeps the words on its two sides apart as a blank does. -/
theorem statementWords_of_enclosed
    {front region behind : String}
    (enclosed : Enclosed front.toList region.toList behind.toList) :
    statementWords (front ++ region ++ behind) =
      statementWords (front ++ " " ++ behind) := by
  rcases enclosed.exists_exposed with ⟨idle, isIdle, shown⟩
  have blank := (read_blank enclosed.begins.isPlain behind.toList).1
  rw [String.append_assoc, String.append_assoc, statementWords_eq,
    statementWords_eq, String.toList_append, String.toList_append,
    String.toList_append, String.toList_append, shown]
  exact
    (isIdle.statementsOf_eq idle_blank _ _).trans
      (congrArg statementsOf blank.symm)

/--
A region of a statement reads as a blank.  The statement has the words that it
has with a blank in its place, and as many placeholders; numbering hands on the
region as it is and numbers everything else alike.  So the verbs, the way
through a driver, and whether rows are added are the same for all regions that
could stand in its place.
-/
theorem enclosed_reads_as_blank
    {front region behind : String}
    (enclosed : Enclosed front.toList region.toList behind.toList) :
    statementWords (front ++ region ++ behind) =
        statementWords (front ++ " " ++ behind) ∧
      placeholders (front ++ region ++ behind) =
        placeholders (front ++ " " ++ behind) ∧
      (∀ style, ∃ left right,
        number style (front ++ region ++ behind) = left ++ region ++ right ∧
          number style (front ++ " " ++ behind) = left ++ " " ++ right) ∧
      ∀ other : String,
        Enclosed front.toList other.toList behind.toList →
          (statementWords (front ++ region ++ behind)).map mainVerb? =
              (statementWords (front ++ other ++ behind)).map mainVerb? ∧
            returnsRows (front ++ region ++ behind) =
              returnsRows (front ++ other ++ behind) ∧
            insertsRows (front ++ region ++ behind) =
              insertsRows (front ++ other ++ behind) := by
  have words := statementWords_of_enclosed enclosed
  rcases read_blank enclosed.begins.isPlain behind.toList with
    ⟨-, counted, numbered⟩
  refine ⟨words, ?_, fun style => ?_, fun other otherEnclosed => ?_⟩
  · rw [String.append_assoc, String.append_assoc, placeholders, placeholders,
      String.toList_append, String.toList_append, String.toList_append,
      String.toList_append, enclosed.placeholdersFrom_eq]
    exact counted.symm
  · refine
      ⟨String.ofList (numberFrom style .plain 1 front.toList),
        String.ofList
          (numberFrom style .plain (1 + placeholders front) behind.toList),
        ?_, ?_⟩
    · rw [number, String.append_assoc, String.toList_append,
        String.toList_append, enclosed.numberFrom_eq style,
        String.ofList_append, String.ofList_append, String.ofList_toList,
        ← String.append_assoc]
      rfl
    · have shown := congrArg String.ofList (numbered style)
      rw [String.ofList_append, String.ofList_append,
        ← String.append_assoc] at shown
      rw [number, String.append_assoc, String.toList_append,
        String.toList_append]
      exact shown
  · have same := words.trans (statementWords_of_enclosed otherEnclosed).symm
    rw [returnsRows, returnsRows, insertsRows, insertsRows, same]
    exact ⟨rfl, rfl, rfl⟩

/-- A literal spelled like a statement, and a name spelled like another one. -/
theorem enclosed_reads_as_blank_spelledLiteral :
    Enclosed "UPDATE t SET a = ".toList "'it''s (; SELECT ? --'".toList
        ", b = ?".toList ∧
      Enclosed "UPDATE t SET a = ".toList "[; INSERT]] ?/*]".toList
        ", b = ?".toList ∧
      statementWords ("UPDATE t SET a = " ++ "'it''s (; SELECT ? --'" ++
          ", b = ?") =
        [[⟨"UPDATE", 0⟩, ⟨"T", 0⟩, ⟨"SET", 0⟩, ⟨"A", 0⟩, ⟨"B", 0⟩]] ∧
      placeholders ("UPDATE t SET a = " ++ "'it''s (; SELECT ? --'" ++
          ", b = ?") =
        1 ∧
      insertsRows ("UPDATE t SET a = " ++ "'it''s (; SELECT ? --'" ++
          ", b = ?") =
        insertsRows ("UPDATE t SET a = " ++ "[; INSERT]] ?/*]" ++
          ", b = ?") := by
  have between (region : List Char) (first : region.head?.isSome = true) :
      PlainBetween "UPDATE t SET a = ".toList
        (region ++ ", b = ?".toList) := by
    cases region with
    | nil => cases first
    | cons next rest => exact (plainBetween_cons_iff _ _ _).2 rfl
  have ended (quotation : Quotation) :
      (RegionKind.quoted quotation).EndsBefore ", b = ?".toList := by
    intro same
    cases quotation <;> exact absurd (Option.some.inj same) (by decide)
  have literal :
      Enclosed "UPDATE t SET a = ".toList "'it''s (; SELECT ? --'".toList
        ", b = ?".toList :=
    (enclosed_iff _ _ _).2
      ⟨between _ rfl, _, .quoted .literal "it's (; SELECT ? --".toList,
        ended .literal⟩
  have name :
      Enclosed "UPDATE t SET a = ".toList "[; INSERT]] ?/*]".toList
        ", b = ?".toList :=
    (enclosed_iff _ _ _).2
      ⟨between _ rfl, _, .quoted .bracket "; INSERT] ?/*".toList,
        ended .bracket⟩
  rcases enclosed_reads_as_blank literal with ⟨words, counted, -, same⟩
  refine ⟨literal, name, words.trans ?_, counted.trans ?_, (same _ name).2.2⟩
  · decide
  · decide

end Sqlwright.Lexical
