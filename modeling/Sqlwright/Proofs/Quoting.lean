import Sqlwright.Proofs.Numbering

/-!
# Quoted names as a reader sees them

Quoting writes a closing quote inside a name twice, and a reader of statements
takes two closing quotes in a region for one character of it.  The two rules
work in different ways: the writer looks at one character at a time, and the
reader knows the end of a region only by the character behind it.

`Lexical.spans` cuts a text into what the reader takes together.  The main
theorem says that a quoted identifier is cut into its names, each with its own
quotes, and the dots between them, whatever characters the names have; and that
the identifier can be read back.  Only a closing quote behind the identifier
could go on with its last name.
-/

namespace Sqlwright.Lexical

/-! ## Spans -/

/--
Whether a character goes on with the region or the comment of the character
before it, behind which the reader is in this mode.
-/
def Mode.continues (mode : Mode) (character : Char) : Bool :=
  match mode with
  | plain => false
  | hyphen => character == '-'
  | slash => character == '*'
  | closed quotation => character == quotation.closing
  | quoted _ | lineComment | blockComment _ | blockSlash _ | blockStar _ => true

/--
A character that does not go on with what is in front of it is read as it is
at the beginning of a text.
-/
theorem Mode.next_of_not_continues
    {mode : Mode} {character : Char} (isPlain : mode.isPlain = true)
    (parted : mode.continues character = false) :
    mode.next character = Mode.plain.next character := by
  cases mode with
  | plain => rfl
  | hyphen => exact if_neg (ne_of_beq_false parted)
  | slash => exact if_neg (ne_of_beq_false parted)
  | closed quotation => exact if_neg (ne_of_beq_false parted)
  | quoted _ | lineComment | blockComment _ | blockSlash _ | blockStar _ =>
      cases isPlain

/-- Where no region begins, a character of plain text stands for itself. -/
theorem Mode.next_of_unmarked
    {character : Char} {rest : List Char}
    (unquoted : Quotation.opened? character = none)
    (noLine : ¬ ['-', '-'] <+: character :: rest)
    (noBlock : ¬ ['/', '*'] <+: character :: rest) :
    (plain.next character).isPlain = true ∧
      ∀ next ∈ rest.head?, (plain.next character).continues next = false := by
  have read :
      plain.next character =
        if character = '-' then hyphen
        else if character = '/' then slash
        else plain := by
    show ofPlain character = _
    rw [ofPlain, unquoted]
  rw [read]
  split
  · rename_i isHyphen
    refine ⟨rfl, fun next first => beq_false_of_ne ?_⟩
    rintro rfl
    rcases List.head?_eq_some_iff.1 first with ⟨behind, rfl⟩
    exact noLine ⟨behind, by rw [isHyphen]; rfl⟩
  · split
    · rename_i isSlash
      refine ⟨rfl, fun next first => beq_false_of_ne ?_⟩
      rintro rfl
      rcases List.head?_eq_some_iff.1 first with ⟨behind, rfl⟩
      exact noBlock ⟨behind, by rw [isSlash]; rfl⟩
    · exact ⟨rfl, fun _ _ => rfl⟩

/-- The spans of a text that is read from a mode on. -/
def spansFrom (mode : Mode) : List Char → List (List Char)
  | [] => []
  | character :: rest =>
      if rest.head?.any (mode.next character).continues then
        onFirst character (spansFrom (mode.next character) rest)
      else
        [character] :: spansFrom (mode.next character) rest

/--
A text cut into spans: each region with its quotes and each comment with its
marks is one span, and so is every other character.
-/
def spans (text : List Char) : List (List Char) :=
  spansFrom .plain text

theorem spansFrom_joined
    (mode : Mode) (character next : Char) (rest : List Char)
    (joined : (mode.next character).continues next = true) :
    spansFrom mode (character :: next :: rest) =
      onFirst character (spansFrom (mode.next character) (next :: rest)) := by
  rw [spansFrom]
  exact if_pos joined

theorem spansFrom_parted
    (mode : Mode) (character : Char) (rest : List Char)
    (parted :
      ∀ next ∈ rest.head?, (mode.next character).continues next = false) :
    spansFrom mode (character :: rest) =
      [character] :: spansFrom (mode.next character) rest := by
  rw [spansFrom]
  apply if_neg
  cases rest with
  | nil => exact Bool.false_ne_true
  | cons next rest =>
      exact ne_true_of_eq_false (parted next rfl)

/-- What nothing goes on with is cut like a text of its own. -/
theorem spansFrom_eq_spans
    {mode : Mode} (isPlain : mode.isPlain = true) {text : List Char}
    (parted : ∀ next ∈ text.head?, mode.continues next = false) :
    spansFrom mode text = spans text := by
  cases text with
  | nil => rfl
  | cons character rest =>
      rw [spans, spansFrom, spansFrom,
        Mode.next_of_not_continues isPlain (parted character rfl)]

/-- Spans cut a text and leave nothing out. -/
theorem flatten_spansFrom (mode : Mode) (text : List Char) :
    (spansFrom mode text).flatten = text := by
  induction text generalizing mode with
  | nil => rfl
  | cons character rest induction =>
      rw [spansFrom]
      split
      · have others := induction (mode.next character)
        cases split : spansFrom (mode.next character) rest with
        | nil =>
            rw [split] at others
            rw [← others]
            rfl
        | cons span more =>
            rw [split, List.flatten_cons] at others
            rw [onFirst, List.flatten_cons, List.cons_append, others]
      · rw [List.flatten_cons, induction]
        rfl

/-! ## Regions of quoted names -/

/-- How a quotation is begun, left and entered again. -/
theorem next_quotation (quotation : Quotation) :
    Mode.plain.next quotation.opening = .quoted quotation ∧
      (Mode.quoted quotation).next quotation.closing = .closed quotation ∧
      (Mode.closed quotation).next quotation.closing = .quoted quotation := by
  refine ⟨?_, if_pos rfl, if_pos rfl⟩
  cases quotation <;> rfl

theorem not_continues_closed
    {quotation : Quotation} {behind : List Char}
    (ends : behind.head? ≠ some quotation.closing) :
    ∀ next ∈ behind.head?,
      (Mode.closed quotation).continues next = false := by
  intro next first
  apply beq_false_of_ne
  rintro rfl
  exact ends first

/-- Behind a closing quote that is not written twice the reader is outside. -/
theorem spansFrom_closed
    (quotation : Quotation) (behind : List Char)
    (ends : behind.head? ≠ some quotation.closing) :
    spansFrom (.closed quotation) behind = spans behind := by
  have isPlain : (Mode.closed quotation).isPlain = true := rfl
  exact spansFrom_eq_spans isPlain (not_continues_closed ends)

theorem double_append_eq_cons
    (closing : Char) (segment behind : List Char) :
    ∃ next rest,
      Identifier.double closing segment ++ closing :: behind =
        next :: rest := by
  cases segment with
  | nil => exact ⟨_, _, rfl⟩
  | cons character rest =>
      rw [Identifier.double]
      split
      · exact ⟨_, _, rfl⟩
      · exact ⟨_, _, rfl⟩

/-- Inside its quotes a name is one span, up to the quote that ends it. -/
theorem spansFrom_double
    (quotation : Quotation) (segment behind : List Char)
    (ends : behind.head? ≠ some quotation.closing) :
    spansFrom (.quoted quotation)
        (Identifier.double quotation.closing segment ++
          quotation.closing :: behind) =
      (Identifier.double quotation.closing segment ++ [quotation.closing]) ::
        spans behind := by
  rcases next_quotation quotation with ⟨-, leaves, again⟩
  induction segment with
  | nil =>
      have parted := not_continues_closed ends
      rw [Identifier.double, List.nil_append, List.nil_append,
        spansFrom_parted _ _ _ (leaves ▸ parted), leaves,
        spansFrom_closed quotation behind ends]
  | cons character segment induction =>
      rcases double_append_eq_cons quotation.closing segment behind with
        ⟨next, rest, split⟩
      by_cases closes : character = quotation.closing
      · -- The first of two closing quotes leaves the region, the second
        -- enters it again.
        have first :
            ((Mode.quoted quotation).next quotation.closing).continues
              quotation.closing = true := by
          rw [leaves]
          exact beq_self_eq_true _
        have second :
            ((Mode.closed quotation).next quotation.closing).continues
              next = true := by
          rw [again]
          rfl
        rw [Identifier.double, if_pos closes, List.cons_append,
          List.cons_append, spansFrom_joined _ _ _ _ first, leaves, split,
          spansFrom_joined _ _ _ _ second, again, ← split, induction]
        rfl
      · have stays :
            (Mode.quoted quotation).next character = .quoted quotation :=
          if_neg closes
        have joined :
            ((Mode.quoted quotation).next character).continues next = true := by
          rw [stays]
          rfl
        rw [Identifier.double, if_neg closes, List.cons_append, split,
          spansFrom_joined _ _ _ _ joined, stays, ← split, induction]
        rfl

theorem spans_quoteSegment
    (style : QuoteStyle) (segment behind : List Char)
    (ends : behind.head? ≠ some style.closing) :
    spans (Identifier.quoteSegment style segment ++ behind) =
      Identifier.quoteSegment style segment :: spans behind := by
  have opened :
      Mode.plain.next style.opening = .quoted (quotationOf style) := by
    cases style <;> rfl
  rw [← closing_quotationOf] at ends
  rcases double_append_eq_cons (quotationOf style).closing segment behind with
    ⟨next, rest, split⟩
  have joined : (Mode.plain.next style.opening).continues next = true := by
    rw [opened]
    rfl
  have inside := spansFrom_double (quotationOf style) segment behind ends
  rw [Identifier.quoteSegment, List.cons_append, List.append_assoc,
    List.singleton_append, ← closing_quotationOf, spans, split,
    spansFrom_joined _ _ _ _ joined, opened, ← split, inside]
  rfl

theorem closing_ne_dot (style : QuoteStyle) : '.' ≠ style.closing := by
  cases style <;> decide

/-- Quoted names with dots between them are cut at the dots only. -/
theorem spans_names
    (style : QuoteStyle) (segments : List (List Char)) (behind : List Char)
    (ends : behind.head? ≠ some style.closing) :
    spans
        (List.intercalate ['.']
          (segments.map (Identifier.quoteSegment style)) ++ behind) =
      List.intersperse ['.']
          (segments.map (Identifier.quoteSegment style)) ++
        spans behind := by
  induction segments with
  | nil => rfl
  | cons segment rest induction =>
      cases rest with
      | nil =>
          rw [List.map_cons, List.map_nil, List.intercalate_singleton,
            spans_quoteSegment style segment behind ends]
          rfl
      | cons next rest =>
          have dot (text : List Char) :
              spans ('.' :: text) = ['.'] :: spans text :=
            spansFrom_parted .plain '.' text fun _ _ => rfl
          have dotFirst (text : List Char) :
              ('.' :: text).head? ≠ some style.closing := by
            intro same
            exact closing_ne_dot style (Option.some.inj same)
          rw [List.map_cons, List.map_cons, List.intercalate_cons_cons,
            ← List.map_cons, List.append_assoc, List.append_assoc,
            List.singleton_append,
            spans_quoteSegment style segment _ (dotFirst _), dot, induction]
          rfl

end Sqlwright.Lexical

namespace Sqlwright.Identifier

open Sqlwright.Lexical
open Sqlwright.Text

/-! ## Names read back -/

/-- A name is read up to the quote that ends it. -/
theorem readSegment?_double
    (closing : Char) (segment behind : List Char)
    (ends : behind.head? ≠ some closing) :
    readSegment? closing (double closing segment ++ closing :: behind) =
      some (segment, behind) := by
  induction segment with
  | nil =>
      cases behind with
      | nil => simp [double, readSegment?]
      | cons next rest =>
          have other : next ≠ closing := by
            rintro rfl
            exact ends rfl
          simp [double, readSegment?, other]
  | cons character segment induction =>
      by_cases closes : character = closing
      · simp [double, closes, readSegment?, induction]
      · rcases double_append_eq_cons closing segment behind with
          ⟨next, rest, split⟩
        rw [double, if_neg closes, List.cons_append, split, readSegment?,
          if_neg closes, ← split, induction]
        rfl

theorem readSegments?_names
    (style : QuoteStyle) (segment : List Char) (rest : List (List Char))
    (budget : Nat) (enough : rest.length < budget) :
    readSegments? style budget
        (List.intercalate ['.']
          ((segment :: rest).map (quoteSegment style))) =
      some (segment :: rest) := by
  induction rest generalizing segment budget with
  | nil =>
      obtain ⟨budget, rfl⟩ := Nat.exists_eq_add_one_of_ne_zero enough.ne'
      have read :=
        readSegment?_double style.closing segment [] (by simp)
      rw [List.map_cons, List.map_nil, List.intercalate_singleton,
        quoteSegment, readSegments?]
      simp [read]
  | cons next rest induction =>
      obtain ⟨budget, rfl⟩ :=
        Nat.exists_eq_add_one_of_ne_zero (Nat.ne_zero_of_lt enough)
      have read (behind : List Char) :=
        readSegment?_double style.closing segment ('.' :: behind)
          (by simpa using closing_ne_dot style)
      have others := induction next budget (Nat.lt_of_succ_lt_succ enough)
      rw [List.map_cons] at others
      rw [List.map_cons, List.map_cons, List.intercalate_cons_cons,
        quoteSegment, List.cons_append, List.cons_append, readSegments?]
      simp [read, others]

theorem length_le_length_names
    (style : QuoteStyle) (segments : List (List Char)) :
    segments.length ≤
      (List.intercalate ['.'] (segments.map (quoteSegment style))).length := by
  induction segments with
  | nil => exact Nat.zero_le _
  | cons segment rest induction =>
      cases rest with
      | nil => simp [quoteSegment]
      | cons next rest =>
          rw [List.map_cons, List.map_cons, List.intercalate_cons_cons,
            ← List.map_cons, List.length_append, List.length_append,
            List.length_cons]
          simp only [List.length_singleton]
          omega

theorem intercalate_segments (identifier : String) :
    List.intercalate ['.'] (segments identifier) = identifier.toList :=
  List.intercalate_splitOn '.'

theorem exists_segments (identifier : String) :
    ∃ segment rest, segments identifier = segment :: rest :=
  List.exists_cons_of_ne_nil (List.splitOn_ne_nil '.' identifier.toList)

theorem unquote?_quoteAll (style : QuoteStyle) (identifier : String) :
    unquote? style (quoteAll style identifier) = some identifier := by
  rcases exists_segments identifier with ⟨segment, rest, split⟩
  have short := length_le_length_names style (segment :: rest)
  rw [List.length_cons] at short
  rw [unquote?, quoteAll, String.toList_ofList, split,
    readSegments?_names style segment rest _ (by omega), Option.map_some,
    ← split, intercalate_segments, String.ofList_toList]

theorem quoteAll_injective (style : QuoteStyle) :
    Function.Injective (quoteAll style) := by
  intro left right same
  have read := congrArg (unquote? style) same
  rw [unquote?_quoteAll, unquote?_quoteAll] at read
  exact Option.some.inj read

/-! ## The guarantee -/

/-- Identifiers that cannot be quoted. -/
def Refused (identifier : String) : Prop :=
  isBlank identifier = true ∨ [] ∈ segments identifier

theorem fault?_eq_none_iff (identifier : String) :
    fault? identifier = none ↔ ¬ Refused identifier := by
  unfold fault? Refused
  by_cases blank : isBlank identifier = true
  · simp [blank]
  · by_cases gap : (segments identifier).any List.isEmpty = true
    · have found : [] ∈ segments identifier := by
        simpa using gap
      simp [blank, gap, found]
    · have absent : [] ∉ segments identifier := by
        simpa using gap
      simp [blank, gap, absent]

/--
Only blank identifiers and those with an empty name are refused.  Every other
one is quoted, and a reader takes the outcome for one region for each name,
with single dots between them, and is in plain text at the end unless a
closing quote follows.  The identifier can be read back, so no other one has
the same quoted form.
-/
theorem quote_encloses (style : QuoteStyle) (identifier : String) :
    (Refused identifier ↔
        ∃ fault, quote style identifier = .error (.argument fault)) ∧
      (¬ Refused identifier →
        ∃ quoted, quote style identifier = .ok quoted ∧
          (Mode.plain.after quoted.toList).isPlain = true ∧
          (∀ behind : List Char, behind.head? ≠ some style.closing →
            spans (quoted.toList ++ behind) =
              List.intersperse ['.']
                  ((segments identifier).map (quoteSegment style)) ++
                spans behind) ∧
          unquote? style quoted = some identifier ∧
          ∀ other, quote style other = .ok quoted → other = identifier) := by
  constructor
  · constructor
    · intro refused
      cases found : fault? identifier with
      | none =>
          exact absurd refused ((fault?_eq_none_iff identifier).1 found)
      | some fault => exact ⟨fault, quote_of_fault style found⟩
    · rintro ⟨fault, failed⟩
      by_contra accepted
      rw [quote, (fault?_eq_none_iff identifier).2 accepted] at failed
      cases failed
  · intro accepted
    have done : quote style identifier = .ok (quoteAll style identifier) :=
      (quote_eq_ok_iff style identifier _).2
        ⟨(fault?_eq_none_iff identifier).2 accepted, rfl⟩
    refine
      ⟨quoteAll style identifier, done, (settled_of_quote done).isPlain, ?_,
        unquote?_quoteAll style identifier, ?_⟩
    · intro behind ends
      rw [quoteAll, String.toList_ofList]
      exact spans_names style (segments identifier) behind ends
    · intro other quotedOther
      exact
        quoteAll_injective style
          ((quote_eq_ok_iff style other _).1 quotedOther).2

/-- Closing brackets at the ends of names, next to the quotes and the dot. -/
theorem quote_encloses_closingBrackets :
    ¬ Refused "a].]]b" ∧
      quote .bracket "a].]]b" = .ok "[a]]].[]]]]b]" ∧
      spans "[a]]].[]]]]b] = ?".toList =
        ["[a]]]".toList, ['.'], "[]]]]b]".toList, [' '], ['='], [' '],
          ['?']] ∧
      unquote? .bracket "[a]]].[]]]]b]" = some "a].]]b" := by
  have accepted : ¬ Refused "a].]]b" := by
    unfold Refused
    decide
  have written : quote .bracket "a].]]b" = .ok "[a]]].[]]]]b]" := rfl
  rcases (quote_encloses .bracket "a].]]b").2 accepted with
    ⟨quoted, done, -, cut, read, -⟩
  rw [written] at done
  cases done
  exact ⟨accepted, written, cut " = ?".toList (by decide), read⟩

end Sqlwright.Identifier
