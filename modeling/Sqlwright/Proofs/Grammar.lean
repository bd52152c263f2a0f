import Sqlwright.Proofs.Quoting

/-!
# The grammar of placeholders

The reader of statements works with modes, one character at a time.  Here the
texts that it reads are described without any modes: a region is a quotation
with its closing quotes written twice, a line comment up to the end of its
line, or a block comment with comments in it, and a text is divided into
regions, placeholders, and characters of plain text.  A region that is not
complete takes the rest of the text.

Every text is divided in exactly one way, which is the way of the reader.  So
the numbers that `renumber` writes stand for the placeholders of the grammar,
and it makes a new text exactly if there are any.
-/

namespace Sqlwright.Lexical

/-! ## Regions -/

/-- What follows the mark of a block comment, up to the mark that ends it. -/
inductive CommentTail : List Char → Prop where
  | close : CommentTail ['*', '/']
  /-- A comment in the comment. -/
  | nested {inner rest : List Char} :
      CommentTail inner → CommentTail rest →
        CommentTail ('/' :: '*' :: (inner ++ rest))
  | other {character : Char} {rest : List Char} :
      ¬ ['/', '*'] <+: character :: rest →
        ¬ ['*', '/'] <+: character :: rest → CommentTail rest →
          CommentTail (character :: rest)

/-- The kinds of regions. -/
inductive RegionKind where
  | quoted (quotation : Quotation)
  | lineComment
  | blockComment

namespace RegionKind

/-- What a region begins with. -/
def mark : RegionKind → List Char
  | quoted quotation => [quotation.opening]
  | lineComment => ['-', '-']
  | blockComment => ['/', '*']

/--
Whether a complete region is over in front of a text.  With one more closing
quote behind it, the closing quote of a quotation would stand for itself.
-/
def EndsBefore : RegionKind → List Char → Prop
  | quoted quotation, behind => behind.head? ≠ some quotation.closing
  | lineComment, _ | blockComment, _ => True

end RegionKind

/-- Complete regions with their marks. -/
inductive Region : RegionKind → List Char → Prop where
  | quoted (quotation : Quotation) (segment : List Char) :
      Region (.quoted quotation)
        (quotation.opening ::
          (Identifier.double quotation.closing segment ++
            [quotation.closing]))
  | lineComment {line : List Char} :
      '\n' ∉ line → Region .lineComment ('-' :: '-' :: (line ++ ['\n']))
  | blockComment {tail : List Char} :
      CommentTail tail → Region .blockComment ('/' :: '*' :: tail)

/-! ## Divided texts -/

/-- A text with the pieces between its placeholders. -/
inductive Divided : List Char → List (List Char) → Prop where
  | empty : Divided [] [[]]
  | placeholder {rest : List Char} {pieces : List (List Char)} :
      Divided rest pieces → Divided ('?' :: rest) ([] :: pieces)
  /-- A character of plain text, with which no region begins. -/
  | plain {character : Char} {rest : List Char} {pieces : List (List Char)} :
      character ≠ '?' →
        (∀ kind : RegionKind, ¬ kind.mark <+: character :: rest) →
          Divided rest pieces →
            Divided (character :: rest) (onFirst character pieces)
  | region {kind : RegionKind} {region behind : List Char}
      {pieces : List (List Char)} :
      Region kind region → kind.EndsBefore behind → Divided behind pieces →
        Divided (region ++ behind) (prefixFirst region pieces)
  /-- A region that is begun and never completed. -/
  | unterminated {kind : RegionKind} {text : List Char} :
      kind.mark <+: text →
        (∀ region behind, Region kind region → kind.EndsBefore behind →
          text ≠ region ++ behind) →
          Divided text [text]

/-! ## Pieces of composed texts -/

theorem piecesFrom_eq_plain
    {mode : Mode} (isPlain : mode.isPlain = true) {text : List Char}
    (parted : ∀ next ∈ text.head?, mode.continues next = false) :
    piecesFrom mode text = piecesFrom .plain text := by
  cases text with
  | nil => rfl
  | cons character rest =>
      rw [piecesFrom, piecesFrom,
        Mode.next_of_not_continues isPlain (parted character rfl), isPlain]
      rfl

theorem silent_of_cons
    {mode : Mode} {character : Char} {rest : List Char}
    (silent : placeholdersFrom mode (character :: rest) = 0) :
    ¬ (mode.isPlain && character == '?') = true ∧
      placeholdersFrom (mode.next character) rest = 0 := by
  rw [placeholdersFrom] at silent
  rcases Nat.add_eq_zero_iff.1 silent with ⟨remaining, first⟩
  refine ⟨?_, remaining⟩
  intro mark
  rw [if_pos mark] at first
  cases first

/-- A text without placeholders belongs to the first piece as a whole. -/
theorem piecesFrom_append_of_silent
    (mode : Mode) {front : List Char}
    (silent : placeholdersFrom mode front = 0) (back : List Char) :
    piecesFrom mode (front ++ back) =
      prefixFirst front (piecesFrom (mode.after front) back) := by
  induction front generalizing mode with
  | nil =>
      rcases exists_piecesFrom mode back with ⟨piece, rest, split⟩
      rw [List.nil_append, Mode.after_nil, split]
      rfl
  | cons character front induction =>
      rcases silent_of_cons silent with ⟨noMark, remaining⟩
      rw [List.cons_append, piecesFrom, if_neg noMark,
        induction (mode.next character) remaining, Mode.after_cons]
      cases piecesFrom (((mode.next character).after front)) back <;> rfl

theorem piecesFrom_of_silent
    {mode : Mode} {text : List Char}
    (silent : placeholdersFrom mode text = 0) :
    piecesFrom mode text = [text] := by
  have whole := piecesFrom_append_of_silent mode silent []
  rw [List.append_nil] at whole
  rw [whole]
  show [text ++ []] = [text]
  rw [List.append_nil]

/-! ## Block comments -/

/-- What is not the second character of a mark is read as anywhere else. -/
theorem Mode.next_blockSlash
    (outer : Nat) {character : Char} (other : character ≠ '*') :
    (blockSlash outer).next character =
      (blockComment outer).next character := by
  show (if character = '*' then _ else _) = if character = '/' then _ else _
  rw [if_neg other, if_neg other]

theorem Mode.next_blockStar
    (outer : Nat) {character : Char} (other : character ≠ '/') :
    (blockStar outer).next character =
      (blockComment outer).next character := by
  show (if character = '/' then _ else _) = if character = '/' then _ else _
  rw [if_neg other, if_neg other]

/-- Behind a character of a comment the next one is read as in its place. -/
theorem Mode.next_behind_other
    (outer : Nat) {character next : Char} {rest : List Char}
    (opens : ¬ ['/', '*'] <+: character :: next :: rest)
    (closes : ¬ ['*', '/'] <+: character :: next :: rest) :
    ((blockComment outer).next character).next next =
      (blockComment outer).next next := by
  show Mode.next (if character = '/' then _ else _) next = _
  split
  · rename_i slash
    apply Mode.next_blockSlash
    rintro rfl
    exact opens ⟨rest, by rw [slash]; rfl⟩
  · split
    · rename_i star
      apply Mode.next_blockStar
      rintro rfl
      exact closes ⟨rest, by rw [star]; rfl⟩
    · rfl

/-- Behind a character of a comment a text is read as if it were not there. -/
theorem read_behind_other
    (outer : Nat) {character : Char} {rest : List Char}
    (opens : ¬ ['/', '*'] <+: character :: rest)
    (closes : ¬ ['*', '/'] <+: character :: rest) :
    placeholdersFrom ((Mode.blockComment outer).next character) rest =
        placeholdersFrom (.blockComment outer) rest ∧
      (rest ≠ [] →
        ((Mode.blockComment outer).next character).after rest =
          (Mode.blockComment outer).after rest) := by
  cases rest with
  | nil => exact ⟨rfl, fun nonempty => absurd rfl nonempty⟩
  | cons next rest =>
      have same := Mode.next_behind_other outer opens closes
      have inside :
          ((Mode.blockComment outer).next character).isPlain = false := by
        show (if character = '/' then _ else _ : Mode).isPlain = false
        split
        · rfl
        · split <;> rfl
      constructor
      · rw [placeholdersFrom, placeholdersFrom, same, inside]
        rfl
      · intro _
        rw [Mode.after_cons, Mode.after_cons, same]

/-- The tail of a comment has no placeholders and ends one comment. -/
theorem CommentTail.read {tail : List Char} (comment : CommentTail tail) :
    tail ≠ [] ∧
      ∀ outer, placeholdersFrom (.blockComment outer) tail = 0 ∧
        (Mode.blockComment outer).after tail = Mode.outside outer := by
  induction comment with
  | close => exact ⟨List.cons_ne_nil _ _, fun outer => ⟨rfl, rfl⟩⟩
  | @nested inner rest _ _ innerRead restRead =>
      refine ⟨List.cons_ne_nil _ _, fun outer => ?_⟩
      have first := innerRead.2 (outer + 1)
      have second := restRead.2 outer
      have returns : Mode.outside (outer + 1) = .blockComment outer := rfl
      constructor
      · show placeholdersFrom (.blockComment (outer + 1)) (inner ++ rest) = 0
        rw [placeholdersFrom_append, first.1, first.2, returns, second.1]
      · show (Mode.blockComment (outer + 1)).after (inner ++ rest) = _
        rw [Mode.after_append, first.2, returns, second.2]
  | @other character rest opens closes _ restRead =>
      refine ⟨List.cons_ne_nil _ _, fun outer => ?_⟩
      have behind := read_behind_other outer opens closes
      have read := restRead.2 outer
      constructor
      · show placeholdersFrom ((Mode.blockComment outer).next character) rest =
          0
        rw [behind.1, read.1]
      · rw [Mode.after_cons, behind.2 restRead.1, read.2]

/-- A comment is ended by a tail, or the rest of the text belongs to it. -/
theorem silent_or_commentTail (outer : Nat) (text : List Char) :
    placeholdersFrom (.blockComment outer) text = 0 ∨
      ∃ tail behind, CommentTail tail ∧ text = tail ++ behind := by
  induction length : text.length using Nat.strong_induction_on
    generalizing outer text with
  | _ length induction =>
      subst length
      by_cases opens : ['/', '*'] <+: text
      · rcases opens with ⟨rest, rfl⟩
        have short : rest.length < (['/', '*'] ++ rest).length := by
          simp only [List.length_append, List.length_cons]
          omega
        rcases induction _ short (outer + 1) rest rfl with
          silent | ⟨inner, behind, innerTail, rfl⟩
        · exact .inl silent
        · have read := innerTail.read.2 (outer + 1)
          have shorter :
              behind.length < (['/', '*'] ++ (inner ++ behind)).length := by
            simp only [List.length_append, List.length_cons]
            omega
          rcases induction _ shorter outer behind rfl with
            silent | ⟨tail, more, rest, rfl⟩
          · refine .inl ?_
            show placeholdersFrom (.blockComment (outer + 1))
              (inner ++ behind) = 0
            rw [placeholdersFrom_append, read.1, read.2, Nat.zero_add]
            exact silent
          · exact
              .inr ⟨_, more, .nested innerTail rest, by simp⟩
      · by_cases closes : ['*', '/'] <+: text
        · rcases closes with ⟨behind, rfl⟩
          exact .inr ⟨_, behind, .close, rfl⟩
        · cases text with
          | nil => exact .inl rfl
          | cons character rest =>
              rcases induction _ (Nat.lt_succ_self _) outer rest rfl with
                silent | ⟨tail, behind, comment, rfl⟩
              · refine .inl ?_
                show placeholdersFrom
                  ((Mode.blockComment outer).next character) rest = 0
                rw [(read_behind_other outer opens closes).1, silent]
              · have front :
                    character :: tail <+: character :: (tail ++ behind) :=
                  List.prefix_append (character :: tail) behind
                exact
                  .inr
                    ⟨_, behind,
                      .other (fun mark => opens (mark.trans front))
                        (fun mark => closes (mark.trans front)) comment, rfl⟩

/-! ## Reading regions -/

/-- A line comment has no placeholders and goes on to the end of its line. -/
theorem read_line {line : List Char} (within : '\n' ∉ line) :
    placeholdersFrom .lineComment line = 0 ∧
      Mode.lineComment.after line = .lineComment := by
  induction line with
  | nil => exact ⟨rfl, rfl⟩
  | cons character rest induction =>
      rw [List.mem_cons, not_or] at within
      have stays : Mode.lineComment.next character = .lineComment :=
        if_neg (Ne.symm within.1)
      have others := induction within.2
      constructor
      · rw [placeholdersFrom, stays, others.1]
        rfl
      · rw [Mode.after_cons, stays, others.2]

theorem quotes_ne_placeholder (quotation : Quotation) :
    (quotation.opening == '?') = false ∧
      (quotation.closing == '?') = false := by
  cases quotation <;> exact ⟨rfl, rfl⟩

/-- A complete region is passed without placeholders, back to plain text. -/
theorem Region.read
    {kind : RegionKind} {region behind : List Char}
    (complete : Region kind region) (ends : kind.EndsBefore behind) :
    placeholdersFrom .plain region = 0 ∧
      (Mode.plain.after region).isPlain = true ∧
      ∀ next ∈ behind.head?,
        (Mode.plain.after region).continues next = false := by
  cases complete with
  | quoted quotation segment =>
      have inside := read_double quotation segment
      have noMark := (quotes_ne_placeholder quotation).1
      rcases next_quotation quotation with ⟨opened, leaves, -⟩
      have after :
          Mode.plain.after
              (quotation.opening ::
                (Identifier.double quotation.closing segment ++
                  [quotation.closing])) =
            .closed quotation := by
        rw [Mode.after_cons, opened, Mode.after_append, inside.1,
          Mode.after_cons, leaves, Mode.after_nil]
      refine ⟨?_, ?_, ?_⟩
      · rw [placeholdersFrom, opened, placeholdersFrom_append, inside.1,
          inside.2, noMark]
        rfl
      · rw [after]
        rfl
      · intro next first
        rw [after]
        exact not_continues_closed ends next first
  | @lineComment line within =>
      have read := read_line within
      have after :
          Mode.plain.after ('-' :: '-' :: (line ++ ['\n'])) = .plain := by
        show Mode.lineComment.after (line ++ ['\n']) = .plain
        rw [Mode.after_append, read.2]
        rfl
      refine ⟨?_, ?_, ?_⟩
      · show placeholdersFrom .lineComment (line ++ ['\n']) = 0
        rw [placeholdersFrom_append, read.1, read.2]
        rfl
      · rw [after]
        rfl
      · intro next _
        rw [after]
        rfl
  | @blockComment tail comment =>
      have read := comment.read.2 0
      have after : Mode.plain.after ('/' :: '*' :: tail) = .plain := read.2
      refine ⟨read.1, ?_, ?_⟩
      · rw [after]
        rfl
      · intro next _
        rw [after]
        rfl

/-- A quotation is ended, or the rest of the text belongs to it. -/
theorem silent_or_closed (quotation : Quotation) (text : List Char) :
    placeholdersFrom (.quoted quotation) text = 0 ∨
      ∃ segment behind,
        text =
            Identifier.double quotation.closing segment ++
              quotation.closing :: behind ∧
          behind.head? ≠ some quotation.closing := by
  rcases next_quotation quotation with ⟨-, leaves, again⟩
  have noMark := (quotes_ne_placeholder quotation).2
  induction text using Identifier.readSegment?.induct quotation.closing with
  | case1 => exact .inl rfl
  | case2 => exact .inr ⟨[], [], rfl, by simp⟩
  | case3 character other => exact .inl rfl
  | case4 rest induction =>
      rcases induction with silent | ⟨segment, behind, rfl, ends⟩
      · refine .inl ?_
        rw [placeholdersFrom, leaves, placeholdersFrom, again, silent, noMark]
        rfl
      · refine .inr ⟨quotation.closing :: segment, behind, ?_, ends⟩
        rw [Identifier.double, if_pos rfl]
        rfl
  | case5 next rest other =>
      refine .inr ⟨[], next :: rest, rfl, ?_⟩
      intro same
      exact other (Option.some.inj same)
  | case6 character next rest other induction =>
      have stays : (Mode.quoted quotation).next character = .quoted quotation :=
        if_neg other
      rcases induction with silent | ⟨segment, behind, split, ends⟩
      · refine .inl ?_
        rw [placeholdersFrom, stays, silent]
        rfl
      · refine .inr ⟨character :: segment, behind, ?_, ends⟩
        rw [Identifier.double, if_neg other, split]
        rfl

/-- A region that begins is completed, or the rest of the text belongs to it. -/
theorem silent_or_region
    {kind : RegionKind} {text : List Char} (begun : kind.mark <+: text) :
    placeholdersFrom .plain text = 0 ∨
      ∃ region behind, Region kind region ∧ kind.EndsBefore behind ∧
        text = region ++ behind := by
  rcases begun with ⟨rest, rfl⟩
  cases kind with
  | quoted quotation =>
      have opened := (next_quotation quotation).1
      have noMark := (quotes_ne_placeholder quotation).1
      rcases silent_or_closed quotation rest with
        silent | ⟨segment, behind, rfl, ends⟩
      · refine .inl ?_
        show placeholdersFrom .plain (quotation.opening :: rest) = 0
        rw [placeholdersFrom, opened, silent, noMark]
        rfl
      · exact
          .inr ⟨_, behind, .quoted quotation segment, ends, by
            simp [RegionKind.mark]⟩
  | lineComment =>
      by_cases ends : '\n' ∈ rest
      · rcases List.eq_append_cons_of_mem ends with ⟨line, behind, rfl, within⟩
        exact
          .inr ⟨_, behind, .lineComment within, trivial, by
            simp [RegionKind.mark]⟩
      · exact .inl (read_line ends).1
  | blockComment =>
      rcases silent_or_commentTail 0 rest with
        silent | ⟨tail, behind, comment, rfl⟩
      · exact .inl silent
      · exact .inr ⟨_, behind, .blockComment comment, trivial, rfl⟩

/-! ## The reader and the grammar -/

theorem Region.ne_nil {kind : RegionKind} {region : List Char}
    (complete : Region kind region) : region ≠ [] := by
  cases complete with
  | quoted quotation segment => exact List.cons_ne_nil _ _
  | lineComment within => exact List.cons_ne_nil _ _
  | blockComment comment => exact List.cons_ne_nil _ _

theorem unquoted_of_unmarked
    {character : Char} {rest : List Char}
    (unmarked : ∀ kind : RegionKind, ¬ kind.mark <+: character :: rest) :
    Quotation.opened? character = none := by
  cases opened : Quotation.opened? character with
  | none => rfl
  | some quotation =>
      have same : character = quotation.opening := by
        unfold Quotation.opened? at opened
        split at opened <;> cases opened <;> rfl
      exact absurd ⟨rest, by rw [same]; rfl⟩ (unmarked (.quoted quotation))

/-- Every text is divided. -/
theorem exists_divided (text : List Char) : ∃ pieces, Divided text pieces := by
  induction length : text.length using Nat.strong_induction_on
    generalizing text with
  | _ length induction =>
      subst length
      cases text with
      | nil => exact ⟨_, .empty⟩
      | cons character rest =>
          have short : rest.length < (character :: rest).length :=
            Nat.lt_succ_self _
          rcases induction _ short rest rfl with ⟨pieces, divided⟩
          by_cases mark : character = '?'
          · rw [mark]
            exact ⟨_, .placeholder divided⟩
          · by_cases unmarked :
                ∀ kind : RegionKind, ¬ kind.mark <+: character :: rest
            · exact ⟨_, .plain mark unmarked divided⟩
            · rw [Classical.not_forall_not] at unmarked
              rcases unmarked with ⟨kind, begun⟩
              by_cases completed :
                  ∃ region behind, Region kind region ∧
                    kind.EndsBefore behind ∧
                    character :: rest = region ++ behind
              · rcases completed with ⟨region, behind, complete, ends, split⟩
                have shorter :
                    behind.length < (character :: rest).length := by
                  have positive := List.length_pos_of_ne_nil complete.ne_nil
                  rw [split, List.length_append]
                  omega
                rcases induction _ shorter behind rfl with ⟨more, others⟩
                rw [split]
                exact ⟨_, .region complete ends others⟩
              · refine ⟨_, .unterminated begun ?_⟩
                intro region behind complete ends split
                exact completed ⟨region, behind, complete, ends, split⟩

/-- The pieces of the grammar are those of the reader. -/
theorem Divided.eq_piecesFrom
    {text : List Char} {pieces : List (List Char)}
    (divided : Divided text pieces) : pieces = piecesFrom .plain text := by
  induction divided with
  | empty => rfl
  | placeholder _ induction =>
      rw [induction]
      rfl
  | @plain character rest pieces other unmarked _ induction =>
      have apart :=
        Mode.next_of_unmarked (unquoted_of_unmarked unmarked)
          (unmarked .lineComment) (unmarked .blockComment)
      have noMark : ¬ (Mode.plain.isPlain && character == '?') = true := by
        intro mark
        exact other (beq_iff_eq.1 mark)
      rw [induction, piecesFrom, if_neg noMark,
        piecesFrom_eq_plain apart.1 apart.2]
  | @region kind region behind pieces complete ends _ induction =>
      rcases complete.read ends with ⟨silent, isPlain, parted⟩
      rw [induction, piecesFrom_append_of_silent .plain silent,
        piecesFrom_eq_plain isPlain parted]
  | @unterminated kind text begun incomplete =>
      rcases silent_or_region begun with
        silent | ⟨region, behind, complete, ends, split⟩
      · exact (piecesFrom_of_silent silent).symm
      · exact absurd split (incomplete region behind complete ends)

theorem divided_iff (text : List Char) (pieces : List (List Char)) :
    Divided text pieces ↔ pieces = piecesFrom .plain text := by
  constructor
  · exact Divided.eq_piecesFrom
  · rintro rfl
    rcases exists_divided text with ⟨pieces, divided⟩
    rw [← divided.eq_piecesFrom]
    exact divided

/-- A comment that `/*/` does not end, a quotation, and an open bracket. -/
def openBracket : String :=
  "/*/ ? */?'it''s ?'?[a]]?"

end Sqlwright.Lexical
