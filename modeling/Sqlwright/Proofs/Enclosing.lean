import Sqlwright.Proofs.Grammar

/-!
# Regions in the middle of a text

Where a region begins and ends is a matter of the whole text.  A closing quote
is no end in front of the same quote, and a hyphen begins nothing unless
another one follows.  `PlainBetween` says that the reader of a whole text
stands in plain text at a place, and `Enclosed` that it does so at the two ends
of a region and nowhere between them.

Inside of a region each character goes on with what is in front of it.  So the
enclosed regions of a text are the complete regions of the grammar.
-/

namespace Sqlwright.Lexical

/-! ## Places in a text -/

/--
The reader of a text stands in plain text between its `front` and what is
`behind`, and the first character behind goes on with nothing in front of it.
-/
structure PlainBetween (front behind : List Char) : Prop where
  isPlain : (Mode.plain.after front).isPlain = true
  parted :
    ∀ next ∈ behind.head?, (Mode.plain.after front).continues next = false

theorem Mode.continues_of_not_isPlain
    {mode : Mode} (inside : mode.isPlain = false) (character : Char) :
    mode.continues character = true := by
  cases mode with
  | plain | hyphen | slash | closed _ => cases inside
  | quoted _ | lineComment | blockComment _ | blockSlash _ | blockStar _ => rfl

theorem plainBetween_cons_iff
    (front : List Char) (next : Char) (behind : List Char) :
    PlainBetween front (next :: behind) ↔
      (Mode.plain.after front).continues next = false := by
  constructor
  · exact fun between => between.parted next rfl
  · intro parted
    constructor
    · rw [← Bool.not_eq_false]
      intro inside
      rw [Mode.continues_of_not_isPlain inside next] at parted
      cases parted
    · rintro _ ⟨⟩
      exact parted

namespace PlainBetween

variable {front behind : List Char}

theorem after_eq
    (between : PlainBetween front behind) (nonempty : behind ≠ []) :
    (Mode.plain.after front).after behind = Mode.plain.after behind := by
  cases behind with
  | nil => exact absurd rfl nonempty
  | cons next rest =>
      rw [Mode.after_cons, Mode.after_cons,
        Mode.next_of_not_continues between.isPlain (between.parted next rfl)]

theorem exposedFrom_eq (between : PlainBetween front behind) :
    exposedFrom (Mode.plain.after front) behind = exposed behind := by
  cases behind with
  | nil => rfl
  | cons next rest =>
      rw [exposed, exposedFrom, exposedFrom, Mode.exposes, Mode.exposes,
        Mode.next_of_not_continues between.isPlain (between.parted next rfl),
        between.isPlain]
      rfl

theorem placeholdersFrom_eq (between : PlainBetween front behind) :
    placeholdersFrom (Mode.plain.after front) behind =
      placeholdersFrom .plain behind := by
  have same := piecesFrom_eq_plain between.isPlain between.parted
  rw [← Nat.add_right_cancel_iff (n := 1), ← length_piecesFrom,
    ← length_piecesFrom, same]

theorem numberFrom_eq
    (between : PlainBetween front behind) (style : NumberStyle)
    (number : Nat) :
    numberFrom style (Mode.plain.after front) number behind =
      numberFrom style .plain number behind := by
  rw [numberFrom_eq_joinNumbered, numberFrom_eq_joinNumbered,
    piecesFrom_eq_plain between.isPlain between.parted]

end PlainBetween

/-! ## Unbroken texts -/

/-- Each character of a text goes on with what is in front of it. -/
def Unbroken (mode : Mode) : List Char → Prop
  | [] => True
  | character :: rest =>
      mode.continues character = true ∧
        Unbroken (mode.next character) rest

theorem Mode.exposes_of_continues
    {mode : Mode} {character : Char}
    (goesOn : mode.continues character = true) :
    mode.exposes character = false := by
  cases mode with
  | plain => cases goesOn
  | hyphen | slash =>
      rw [beq_iff_eq.1 goesOn]
      rfl
  | closed quotation =>
      rw [beq_iff_eq.1 goesOn, Mode.exposes, (next_quotation quotation).2.2]
      rfl
  | quoted _ | lineComment | blockComment _ | blockSlash _ | blockStar _ => rfl

theorem Mode.not_placeholder_of_continues
    {mode : Mode} {character : Char}
    (goesOn : mode.continues character = true) :
    (mode.isPlain && character == '?') = false := by
  cases mode with
  | plain => cases goesOn
  | hyphen | slash =>
      rw [beq_iff_eq.1 goesOn]
      rfl
  | closed quotation =>
      rw [beq_iff_eq.1 goesOn]
      exact (quotes_ne_placeholder quotation).2
  | quoted _ | lineComment | blockComment _ | blockSlash _ | blockStar _ => rfl

namespace Unbroken

variable {mode : Mode} {text front back : List Char}

theorem exposedFrom (unbroken : Unbroken mode text) :
    ∀ character ∈ Lexical.exposedFrom mode text, character = ' ' := by
  induction text generalizing mode with
  | nil => exact fun _ member => absurd member List.not_mem_nil
  | cons character rest induction =>
      rw [Lexical.exposedFrom, Mode.exposes_of_continues unbroken.1]
      exact List.forall_mem_cons.2 ⟨rfl, induction unbroken.2⟩

theorem silent (unbroken : Unbroken mode text) :
    placeholdersFrom mode text = 0 := by
  induction text generalizing mode with
  | nil => rfl
  | cons character rest induction =>
      rw [placeholdersFrom, induction unbroken.2,
        Mode.not_placeholder_of_continues unbroken.1]
      rfl

theorem append
    (first : Unbroken mode front)
    (second : Unbroken (mode.after front) back) :
    Unbroken mode (front ++ back) := by
  induction front generalizing mode with
  | nil => exact second
  | cons character rest induction =>
      exact ⟨first.1, induction first.2 second⟩

theorem of_forall
    (each :
      ∀ left next right, text = left ++ next :: right →
        (mode.after left).continues next = true) :
    Unbroken mode text := by
  induction text generalizing mode with
  | nil => trivial
  | cons character rest induction =>
      refine ⟨each [] character rest rfl, induction ?_⟩
      intro left next right split
      exact each (character :: left) next right (by rw [split]; rfl)

theorem continues
    (unbroken : Unbroken mode text) {left right : List Char} {next : Char}
    (split : text = left ++ next :: right) :
    (mode.after left).continues next = true := by
  subst split
  induction left generalizing mode with
  | nil => exact unbroken.1
  | cons character left induction => exact induction unbroken.2

end Unbroken

/-! ## Enclosed regions -/

/--
Between `front` and what is `behind` there is one region: the reader of the
whole text stands in plain text at its two ends and at no place inside.
-/
structure Enclosed (front region behind : List Char) : Prop where
  begun : ∃ kind : RegionKind, kind.mark <+: region
  begins : PlainBetween front (region ++ behind)
  ends : PlainBetween (front ++ region) behind
  inside :
    ∀ left right, left ≠ [] → right ≠ [] → region = left ++ right →
      ¬ PlainBetween (front ++ left) (right ++ behind)

/-- Behind its first character an enclosed region is unbroken. -/
theorem Enclosed.exists_cons
    {front region behind : List Char}
    (enclosed : Enclosed front region behind) :
    ∃ kind : RegionKind, ∃ first mark rest,
      kind.mark = first :: mark ∧ region = first :: rest ∧
        Unbroken (Mode.plain.next first) rest := by
  rcases enclosed.begun with ⟨kind, tail, rfl⟩
  have nonempty : kind.mark ≠ [] := by
    cases kind <;> exact List.cons_ne_nil _ _
  rcases List.exists_cons_of_ne_nil nonempty with ⟨first, mark, same⟩
  rw [same, List.cons_append] at enclosed ⊢
  refine ⟨kind, first, mark, mark ++ tail, same, rfl, .of_forall ?_⟩
  intro left next right split
  have within :=
    enclosed.inside (first :: left) (next :: right) (List.cons_ne_nil _ _)
      (List.cons_ne_nil _ _) (by rw [split]; rfl)
  rw [List.cons_append, plainBetween_cons_iff, Bool.not_eq_false,
    Mode.after_append] at within
  rwa [Mode.after_cons, Mode.next_of_not_continues enclosed.begins.isPlain
    (enclosed.begins.parted first rfl)] at within

/-! ## Regions of the grammar -/

theorem unbroken_double (quotation : Quotation) (segment : List Char) :
    Unbroken (.quoted quotation)
      (Identifier.double quotation.closing segment) := by
  rcases next_quotation quotation with ⟨-, leaves, again⟩
  induction segment with
  | nil => trivial
  | cons character rest induction =>
      by_cases closes : character = quotation.closing
      · rw [Identifier.double, if_pos closes]
        refine ⟨rfl, ?_⟩
        rw [leaves]
        refine ⟨beq_self_eq_true _, ?_⟩
        rw [again]
        exact induction
      · have stays :
            (Mode.quoted quotation).next character = .quoted quotation :=
          if_neg closes
        rw [Identifier.double, if_neg closes]
        refine ⟨rfl, ?_⟩
        rw [stays]
        exact induction

theorem unbroken_line {line : List Char} (within : '\n' ∉ line) :
    Unbroken .lineComment line := by
  induction line with
  | nil => trivial
  | cons character rest induction =>
      rw [List.mem_cons, not_or] at within
      have stays : Mode.lineComment.next character = .lineComment :=
        if_neg (Ne.symm within.1)
      refine ⟨rfl, ?_⟩
      rw [stays]
      exact induction within.2

theorem CommentTail.unbroken {tail : List Char} (comment : CommentTail tail) :
    ∀ outer, Unbroken (.blockComment outer) tail := by
  induction comment with
  | close => exact fun _ => ⟨rfl, rfl, trivial⟩
  | @nested inner rest innerTail _ innerUnbroken restUnbroken =>
      intro outer
      have returns :
          (Mode.blockComment (outer + 1)).after inner = .blockComment outer :=
        (innerTail.read.2 (outer + 1)).2
      refine ⟨rfl, rfl, (innerUnbroken (outer + 1)).append ?_⟩
      rw [returns]
      exact restUnbroken outer
  | @other character rest opens closes _ restUnbroken =>
      intro outer
      refine ⟨rfl, ?_⟩
      cases rest with
      | nil => trivial
      | cons next rest =>
          have inside :
              ((Mode.blockComment outer).next character).continues next =
                true := by
            show (if character = '/' then _ else _ : Mode).continues next = true
            split
            · rfl
            · split <;> rfl
          refine ⟨inside, ?_⟩
          rw [Mode.next_behind_other outer opens closes]
          exact (restUnbroken outer).2

namespace Region

variable {kind : RegionKind} {region : List Char}

theorem mark_prefix (complete : Region kind region) : kind.mark <+: region := by
  cases complete with
  | quoted quotation segment => exact ⟨_, rfl⟩
  | lineComment within => exact ⟨_, rfl⟩
  | blockComment comment => exact ⟨_, rfl⟩

/-- Behind its first character a complete region is unbroken. -/
theorem exists_cons (complete : Region kind region) :
    ∃ first rest,
      region = first :: rest ∧ Unbroken (Mode.plain.next first) rest := by
  cases complete with
  | quoted quotation segment =>
      refine ⟨_, _, rfl, ?_⟩
      rw [(next_quotation quotation).1]
      refine (unbroken_double quotation segment).append ?_
      rw [(read_double quotation segment).1]
      exact ⟨rfl, trivial⟩
  | @lineComment line within =>
      refine ⟨_, _, rfl, rfl, ?_⟩
      show Unbroken .lineComment (line ++ ['\n'])
      refine (unbroken_line within).append ?_
      rw [(read_line within).2]
      exact ⟨rfl, trivial⟩
  | blockComment comment => exact ⟨_, _, rfl, rfl, comment.unbroken 0⟩

end Region

theorem PlainBetween.left
    {front behind more : List Char}
    (between : PlainBetween front (behind ++ more)) (nonempty : behind ≠ []) :
    PlainBetween front behind := by
  cases behind with
  | nil => exact absurd rfl nonempty
  | cons next rest =>
      rw [List.cons_append] at between
      exact ⟨between.isPlain, between.parted⟩

/-- Every complete region of the grammar is enclosed. -/
theorem enclosed_of_region
    {front region behind : List Char} {kind : RegionKind}
    (begins : PlainBetween front (region ++ behind))
    (complete : Region kind region) (ended : kind.EndsBefore behind) :
    Enclosed front region behind := by
  have read := complete.read ended
  have same := (begins.left complete.ne_nil).after_eq complete.ne_nil
  rw [← same, ← Mode.after_append] at read
  refine ⟨⟨kind, complete.mark_prefix⟩, begins, ⟨read.2.1, read.2.2⟩, ?_⟩
  intro left right leftNonempty rightNonempty split between
  rcases complete.exists_cons with ⟨first, rest, rfl, unbroken⟩
  rcases List.exists_cons_of_ne_nil leftNonempty with ⟨_, left, rfl⟩
  rcases List.exists_cons_of_ne_nil rightNonempty with ⟨next, right, rfl⟩
  cases split
  have parted := begins.parted first rfl
  rw [List.cons_append, plainBetween_cons_iff, Mode.after_append,
    Mode.after_cons, Mode.next_of_not_continues begins.isPlain parted,
    unbroken.continues rfl] at between
  cases between

theorem Region.endsBefore_of_parted
    {kind : RegionKind} {region behind : List Char}
    (complete : Region kind region)
    (parted :
      ∀ next ∈ behind.head?,
        (Mode.plain.after region).continues next = false) :
    kind.EndsBefore behind := by
  cases complete with
  | quoted quotation segment =>
      have after :
          Mode.plain.after
              (quotation.opening ::
                (Identifier.double quotation.closing segment ++
                  [quotation.closing])) =
            .closed quotation := by
        rw [Mode.after_cons, (next_quotation quotation).1, Mode.after_append,
          (read_double quotation segment).1, Mode.after_cons,
          (next_quotation quotation).2.1, Mode.after_nil]
      intro first
      have goesOn := parted quotation.closing first
      rw [after] at goesOn
      exact absurd rfl (ne_of_beq_false goesOn)
  | lineComment within => trivial
  | blockComment comment => trivial

/-- What is left plain in front of a placeholder is no part of a region. -/
theorem Region.not_isPlain
    {kind : RegionKind} {front rest : List Char}
    (complete : Region kind (front ++ '?' :: rest)) (nonempty : front ≠ []) :
    (Mode.plain.after front).isPlain = false := by
  rcases complete.exists_cons with ⟨first, tail, cut, unbroken⟩
  rcases List.exists_cons_of_ne_nil nonempty with ⟨_, _, rfl⟩
  cases cut
  have none := Mode.not_placeholder_of_continues (unbroken.continues rfl)
  rw [beq_self_eq_true, Bool.and_true] at none
  exact none

/-- No complete region is over inside of an enclosed one. -/
theorem Enclosed.eq_nil_of_region
    {front region more behind : List Char} {next : Char} {kind : RegionKind}
    (enclosed : Enclosed front (region ++ more) behind)
    (complete : Region kind region)
    (ended : kind.EndsBefore (more ++ [next])) : more = [] := by
  cases more with
  | nil => rfl
  | cons first more =>
      have read := complete.read ended
      have begins := enclosed.begins
      rw [List.append_assoc] at begins
      have same := (begins.left complete.ne_nil).after_eq complete.ne_nil
      rw [← same, ← Mode.after_append] at read
      exact
        absurd ⟨read.2.1, read.2.2⟩
          (enclosed.inside region (first :: more) complete.ne_nil
            (List.cons_ne_nil first more) rfl)

/-- A region that begins and is over is complete. -/
theorem Enclosed.complete
    {front region behind : List Char}
    (enclosed : Enclosed front region behind) :
    ∃ kind, Region kind region ∧ kind.EndsBefore behind := by
  rcases enclosed.begun with ⟨kind, begun⟩
  have nonempty : region ≠ [] := by
    rcases enclosed.exists_cons with ⟨-, first, -, rest, -, rfl, -⟩
    exact List.cons_ne_nil first rest
  have same := (enclosed.begins.left nonempty).after_eq nonempty
  have isPlain := enclosed.ends.isPlain
  have parted := enclosed.ends.parted
  rw [Mode.after_append, same] at isPlain parted
  suffices complete : Region kind region from
    ⟨kind, complete, complete.endsBefore_of_parted parted⟩
  -- A placeholder behind the region is one, so the region does not take the
  -- rest of the text, and it can neither be shorter nor longer.
  rcases silent_or_region (begun.trans (List.prefix_append region ['?'])) with
    silent | ⟨other, rest, complete, ended, split⟩
  · rw [placeholdersFrom_append, placeholdersFrom, placeholdersFrom, isPlain]
      at silent
    cases silent
  · rcases List.append_eq_append_iff.1 split with
      ⟨more, rfl, last⟩ | ⟨more, rfl, rfl⟩
    · rcases List.singleton_eq_append_iff.1 last with
        ⟨rfl, -⟩ | ⟨rfl, -⟩
      · rwa [List.append_nil] at complete
      · rw [complete.not_isPlain nonempty] at isPlain
        cases isPlain
    · rwa [enclosed.eq_nil_of_region complete ended, List.append_nil]

/-- The enclosed regions of a text are the complete regions of the grammar. -/
theorem enclosed_iff (front region behind : List Char) :
    Enclosed front region behind ↔
      PlainBetween front (region ++ behind) ∧
        ∃ kind, Region kind region ∧ kind.EndsBefore behind := by
  constructor
  · exact fun enclosed => ⟨enclosed.begins, enclosed.complete⟩
  · rintro ⟨begins, kind, complete, ended⟩
    exact enclosed_of_region begins complete ended

end Sqlwright.Lexical
