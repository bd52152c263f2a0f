import Sqlwright.Lexical.Placeholder
import Sqlwright.Proofs.Weaving

/-!
# Numbered placeholders and their values

A text is settled when reading it from plain text ends in plain text.  Glue is
settled wherever it stands in plain text, and a quoted name is settled behind
glue, whatever characters it has.  So a statement is settled if the texts that
the caller gives are, and its plain text has as many placeholders as the
statement has values.

`pieces` cuts a text at its placeholders.  Numbering puts the numbers from one
on between the pieces, so that there is one number for each value.
-/

namespace Sqlwright.Lexical

open Sqlwright.Weaving

/-! ## Settled texts -/

/-- Reading from plain text passes some placeholders and ends in plain text. -/
structure Settled (text : List Char) (holes : Nat) : Prop where
  isPlain : (Mode.plain.after text).isPlain = true
  count_eq : placeholdersFrom .plain text = holes

theorem next_of_isNeutral
    {mode : Mode} {character : Char}
    (plain : mode.isPlain = true) (neutral : isNeutral character = true) :
    mode.next character = .plain := by
  simp only [isNeutral, decide_eq_true_eq, List.mem_cons, List.not_mem_nil,
    or_false, not_or] at neutral
  rcases neutral with
    ⟨literal, double, backtick, opening, closing, hyphen, slash, star⟩
  have unopened : Quotation.opened? character = none := by
    simp [Quotation.opened?]
  have kept : Mode.ofPlain character = .plain := by
    simp [Mode.ofPlain, unopened, hyphen, slash]
  cases mode with
  | plain => exact kept
  | hyphen => simp [Mode.next, hyphen, kept]
  | slash => simp [Mode.next, star, kept]
  | closed quotation =>
      have other : character ≠ quotation.closing := by
        cases quotation <;> assumption
      simp [Mode.next, other, kept]
  | quoted quotation => cases plain
  | lineComment => cases plain
  | blockComment outer => cases plain
  | blockSlash outer => cases plain
  | blockStar outer => cases plain

theorem read_neutral
    {mode : Mode} (plain : mode.isPlain = true) {text : List Char}
    (neutral : text.all isNeutral = true) :
    (text ≠ [] → mode.after text = .plain) ∧
      placeholdersFrom mode text = text.count '?' := by
  induction text generalizing mode with
  | nil => exact ⟨fun nonempty => absurd rfl nonempty, rfl⟩
  | cons character rest induction =>
      simp only [List.all_cons, Bool.and_eq_true] at neutral
      have next := next_of_isNeutral plain neutral.1
      have stays : Mode.plain.isPlain = true := rfl
      have others := induction stays neutral.2
      constructor
      · intro _
        rw [Mode.after_cons, next]
        cases rest with
        | nil => rfl
        | cons second rest => exact others.1 (List.cons_ne_nil second rest)
      · rw [placeholdersFrom, next, others.2, plain, List.count_cons]
        simp

theorem read_glue
    {mode : Mode} (plain : mode.isPlain = true) {text : String} {holes : Nat}
    (glue : Glue text holes) :
    mode.after text.toList = .plain ∧
      placeholdersFrom mode text.toList = holes := by
  have read := read_neutral plain glue.characters
  exact ⟨read.1 glue.nonempty, read.2.trans glue.count_eq⟩

/-! ## Quoted names -/

/-- The kind of region that a quoted name is. -/
def quotationOf : QuoteStyle → Quotation
  | .ansi => .double
  | .backtick => .backtick
  | .bracket => .bracket

theorem closing_quotationOf (style : QuoteStyle) :
    (quotationOf style).closing = style.closing := by
  cases style <;> rfl

/-- A closing quote written twice does not end the region. -/
theorem read_double
    (quotation : Quotation) (segment : List Char) :
    (Mode.quoted quotation).after
        (Identifier.double quotation.closing segment) = .quoted quotation ∧
      placeholdersFrom (.quoted quotation)
        (Identifier.double quotation.closing segment) = 0 := by
  have notMark : (quotation.closing == '?') = false := by
    cases quotation <;> rfl
  induction segment with
  | nil => exact ⟨rfl, rfl⟩
  | cons character rest induction =>
      by_cases closes : character = quotation.closing
      · simp only [Identifier.double, closes, if_true, Mode.after_cons,
          Mode.next, placeholdersFrom, notMark, Bool.and_false,
          Bool.false_eq_true, if_false, Nat.add_zero]
        exact induction
      · simp only [Identifier.double, closes, if_false, Mode.after_cons,
          Mode.next, placeholdersFrom, Mode.isPlain, Bool.false_and,
          Bool.false_eq_true, if_false, Nat.add_zero]
        exact induction

theorem read_quoteSegment (style : QuoteStyle) (segment : List Char) :
    Mode.plain.after (Identifier.quoteSegment style segment) =
        .closed (quotationOf style) ∧
      placeholdersFrom .plain (Identifier.quoteSegment style segment) = 0 := by
  have inside := read_double (quotationOf style) segment
  have opened :
      Mode.plain.next style.opening = .quoted (quotationOf style) := by
    cases style <;> rfl
  have notMark : (style.opening == '?') = false := by
    cases style <;> rfl
  rw [closing_quotationOf] at inside
  constructor
  · rw [Identifier.quoteSegment, Mode.after_cons, opened, Mode.after_append,
      inside.1, Mode.after_cons, Mode.after_nil, Mode.next,
      closing_quotationOf, if_pos rfl]
  · rw [Identifier.quoteSegment, placeholdersFrom, opened,
      placeholdersFrom_append, inside.1, inside.2]
    simp [placeholdersFrom, notMark, Mode.isPlain]

theorem settled_names (style : QuoteStyle) (segments : List (List Char)) :
    Settled
      (List.intercalate ['.']
        (segments.map (Identifier.quoteSegment style))) 0 := by
  induction segments with
  | nil => exact ⟨rfl, rfl⟩
  | cons segment rest induction =>
      have read := read_quoteSegment style segment
      cases rest with
      | nil =>
          constructor
          · simp [read.1, Mode.isPlain]
          · simpa using read.2
      | cons next rest =>
          have dot :
              (Mode.closed (quotationOf style)).next '.' = .plain := by
            cases style <;> rfl
          rw [List.map_cons, List.map_cons, List.intercalate_cons_cons,
            ← List.map_cons]
          constructor
          · rw [Mode.after_append, Mode.after_append, read.1, Mode.after_cons,
              dot, Mode.after_nil]
            exact induction.isPlain
          · rw [placeholdersFrom_append, placeholdersFrom_append,
              Mode.after_append, read.1, read.2, Mode.after_cons, dot,
              Mode.after_nil, induction.count_eq]
            rfl

theorem settled_of_quote
    {style : QuoteStyle} {identifier quoted : String}
    (done : Identifier.quote style identifier = .ok quoted) :
    Settled quoted.toList 0 := by
  rcases (Identifier.quote_eq_ok_iff style identifier quoted).1 done with
    ⟨_, rfl⟩
  rw [Identifier.quoteAll, String.toList_ofList]
  exact settled_names style (Identifier.segments identifier)

/-- A woven text is settled if the texts of the caller are. -/
theorem settled_of_woven
    {style : QuoteStyle} {named given : String → Prop} {text : String}
    {holes : Nat}
    (woven : Woven style named given text holes)
    (settled : ∀ source, given source → Settled source.toList 0) :
    Settled text.toList holes := by
  induction woven with
  | empty => exact ⟨rfl, rfl⟩
  | star => exact ⟨rfl, rfl⟩
  | source isGiven => exact settled _ isGiven
  | name isNamed quoted => exact settled_of_quote quoted
  | weave left glue right leftSettled rightSettled =>
      have read := read_glue leftSettled.isPlain glue
      rw [String.toList_append, String.toList_append]
      constructor
      · rw [Mode.after_append, Mode.after_append, read.1]
        exact rightSettled.isPlain
      · rw [placeholdersFrom_append, placeholdersFrom_append,
          Mode.after_append, read.1, read.2, leftSettled.count_eq,
          rightSettled.count_eq]

/-! ## Pieces between placeholders -/

/-- Put a character in front of the first piece. -/
def onFirst (character : Char) : List (List Char) → List (List Char)
  | [] => [[character]]
  | piece :: rest => (character :: piece) :: rest

/-- Put a text in front of the first of some texts. -/
def prefixFirst (front : List Char) : List (List Char) → List (List Char)
  | [] => [front]
  | first :: rest => (front ++ first) :: rest

/-- The texts between the placeholders of a text that is read from a mode on. -/
def piecesFrom (mode : Mode) : List Char → List (List Char)
  | [] => [[]]
  | character :: rest =>
      if mode.isPlain && character == '?' then
        [] :: piecesFrom (mode.next character) rest
      else
        onFirst character (piecesFrom (mode.next character) rest)

/-- The texts between the placeholders of a statement. -/
def pieces (sql : String) : List (List Char) :=
  piecesFrom .plain sql.toList

/-- A numbered placeholder: `@P` or `$`, and the number in decimal digits. -/
def NumberStyle.label (style : NumberStyle) (number : Nat) : String :=
  match style with
  | .atP => "@P" ++ toString number
  | .dollar => "$" ++ toString number

theorem NumberStyle.toList_label (style : NumberStyle) (number : Nat) :
    (style.label number).toList = style.mark number := by
  have digits : (toString number).toList = Nat.toDigits 10 number :=
    String.toList_ofList
  cases style with
  | atP | dollar =>
      rw [label, String.toList_append, digits]
      rfl

/-- Pieces with the placeholders from `number` on between them. -/
def joinNumbered (style : NumberStyle) (number : Nat) :
    List (List Char) → List Char
  | [] => []
  | [piece] => piece
  | piece :: next :: rest =>
      piece ++ (style.label number).toList ++
        joinNumbered style (number + 1) (next :: rest)

theorem joinNumbered_cons_cons
    (style : NumberStyle) (number : Nat) (piece next : List Char)
    (rest : List (List Char)) :
    joinNumbered style number (piece :: next :: rest) =
      piece ++ style.mark number ++
        joinNumbered style (number + 1) (next :: rest) := by
  rw [joinNumbered, style.toList_label]

theorem length_onFirst
    (character : Char) {texts : List (List Char)} (nonempty : texts ≠ []) :
    (onFirst character texts).length = texts.length := by
  cases texts with
  | nil => exact absurd rfl nonempty
  | cons piece rest => rfl

theorem length_piecesFrom (mode : Mode) (text : List Char) :
    (piecesFrom mode text).length = placeholdersFrom mode text + 1 := by
  induction text generalizing mode with
  | nil => rfl
  | cons character rest induction =>
      have others := induction (mode.next character)
      rw [piecesFrom, placeholdersFrom]
      split
      · rw [List.length_cons, others]
      · rw [length_onFirst, others, Nat.add_zero]
        intro nothing
        rw [nothing] at others
        cases others

theorem exists_piecesFrom (mode : Mode) (text : List Char) :
    ∃ piece rest, piecesFrom mode text = piece :: rest :=
  List.exists_cons_of_length_eq_add_one (length_piecesFrom mode text)

/-- Marks between the pieces give the text back. -/
theorem intercalate_piecesFrom (mode : Mode) (text : List Char) :
    List.intercalate ['?'] (piecesFrom mode text) = text := by
  induction text generalizing mode with
  | nil => rfl
  | cons character rest induction =>
      have others := induction (mode.next character)
      rcases exists_piecesFrom (mode.next character) rest with
        ⟨piece, more, split⟩
      rw [piecesFrom]
      split
      · rename_i placeholder
        simp only [Bool.and_eq_true, beq_iff_eq] at placeholder
        rw [split] at others ⊢
        rw [List.intercalate_cons_cons, others, placeholder.2]
        rfl
      · rw [split] at others ⊢
        rw [onFirst, List.intercalate_cons_cons_left, others]

theorem numberFrom_eq_joinNumbered
    (style : NumberStyle) (mode : Mode) (number : Nat) (text : List Char) :
    numberFrom style mode number text =
      joinNumbered style number (piecesFrom mode text) := by
  induction text generalizing mode number with
  | nil => rfl
  | cons character rest induction =>
      rcases exists_piecesFrom (mode.next character) rest with
        ⟨piece, more, split⟩
      rw [numberFrom, piecesFrom]
      split
      · rw [induction, split, joinNumbered_cons_cons]
        rfl
      · rw [induction, split, onFirst]
        cases more <;> rfl

/--
A statement has one placeholder for each of its values, whatever characters
its names have: numbering it puts the numbers from one up to the number of
values between its pieces.  The texts of the caller have to be settled and
without placeholders.
-/
theorem number_matches_params
    {dialect : Dialect} {request : Request} {queries : List Query}
    (settled : ∀ text ∈ request.sources, Settled text.toList 0)
    (written : request.write dialect = .ok queries) (style : NumberStyle) :
    ∀ query ∈ queries,
      placeholders query.sql = query.params.length ∧
        (pieces query.sql).length = query.params.length + 1 ∧
        List.intercalate ['?'] (pieces query.sql) = query.sql.toList ∧
        (number style query.sql).toList =
          joinNumbered style 1 (pieces query.sql) := by
  intro query member
  have named : ∀ name ∈ request.names dialect, name ∈ request.names dialect :=
    fun _ member => member
  have woven :=
    woven_of_write (fun _ given => given) named written query member
  have reading := settled_of_woven woven settled
  have counted : placeholders query.sql = query.params.length :=
    reading.count_eq
  refine ⟨counted, ?_, intercalate_piecesFrom .plain query.sql.toList, ?_⟩
  · rw [pieces, length_piecesFrom, reading.count_eq]
  · rw [number, String.toList_ofList, numberFrom_eq_joinNumbered]
    rfl

/-- An update with quotes, marks and comments in its names. -/
def hostileUpdate : Request :=
  .update "db.[t?]" [("a]?'--", .int 1)]
    (Filter.empty.oneOf "b/*" [.int 7, .int 3])

theorem number_matches_params_hostileUpdate :
    ∃ query,
      hostileUpdate.write (Dialect.ofBackend .sqlServer) = .ok [query] ∧
        query.sql =
          "UPDATE db.[t?] SET [a]]?'--] = ? WHERE [b/*] IN(?,?)" ∧
        placeholders query.sql = 3 ∧
        (number .atP query.sql).toList =
          joinNumbered .atP 1 (pieces query.sql) := by
  have written :
      hostileUpdate.write (Dialect.ofBackend .sqlServer) =
        .ok [⟨"UPDATE db.[t?] SET [a]]?'--] = ? WHERE [b/*] IN(?,?)",
          [.int 1, .int 7, .int 3]⟩] := rfl
  have settled : ∀ text ∈ hostileUpdate.sources, Settled text.toList 0 := by
    intro text member
    rcases List.mem_singleton.1 member with rfl
    exact ⟨by decide, by decide⟩
  have aligned :=
    number_matches_params settled written .atP _ (List.mem_singleton_self _)
  exact ⟨_, written, rfl, aligned.1, aligned.2.2.2⟩

end Sqlwright.Lexical
