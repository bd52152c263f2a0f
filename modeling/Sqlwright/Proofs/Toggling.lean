import Sqlwright.Proofs.Counting
import Sqlwright.Proofs.Numbering

/-!
# Two readers of placeholders

`Query.placeholderCount` toggles at quotes and knows no comments.  The reader
behind `number` steps over a closing quote that is written twice, and over
comments.  Where a region ends with the character that begins it, toggling
twice comes to the same as stepping over; the two are apart only between the
two quotes, where no placeholder stands.

So they differ in two things only.  A text is straight if the careful reader
never enters a comment in it, and never meets a closing bracket that is written
twice.  In straight texts the two find the same placeholders, whatever regions
are left open, and the first place where a text is not straight is a place
where they would take a placeholder differently.
-/

namespace Sqlwright.Lexical

open Sqlwright.Query

/-! ## Straight texts -/

/-- Whether a mode is inside a comment. -/
def Mode.isComment : Mode → Bool
  | lineComment | blockComment _ | blockSlash _ | blockStar _ => true
  | _ => false

/-- The quote that has to end the region of a mode. -/
def Mode.closing? : Mode → Option Char
  | quoted quotation => some quotation.closing
  | _ => none

/--
A text in which the reader, from a mode on, is in no comment at any place, and
behind no closing bracket finds another one that makes an escape of the two.
-/
structure Straight (mode : Mode) (text : List Char) : Prop where
  uncommented : ∀ front, front <+: text → (mode.after front).isComment = false
  unescaped :
    ∀ front, front ++ [']'] <+: text → mode.after front ≠ .closed .bracket

theorem straight_nil_iff (mode : Mode) :
    Straight mode [] ↔ mode.isComment = false := by
  constructor
  · exact fun straight => straight.uncommented [] List.prefix_rfl
  · intro outside
    constructor
    · intro front isFront
      rw [List.prefix_nil.1 isFront]
      exact outside
    · intro front isFront
      exact absurd (List.prefix_nil.1 isFront) (by simp)

theorem straight_cons_iff
    (mode : Mode) (character : Char) (rest : List Char) :
    Straight mode (character :: rest) ↔
      mode.isComment = false ∧
        (character = ']' → mode ≠ .closed .bracket) ∧
        Straight (mode.next character) rest := by
  constructor
  · intro straight
    refine ⟨straight.uncommented [] (List.nil_prefix), ?_, ?_, ?_⟩
    · rintro rfl
      exact straight.unescaped [] ⟨rest, rfl⟩
    · intro front isFront
      exact
        straight.uncommented (character :: front)
          (List.cons_prefix_cons.2 ⟨rfl, isFront⟩)
    · intro front isFront
      exact
        straight.unescaped (character :: front)
          (List.cons_prefix_cons.2 ⟨rfl, isFront⟩)
  · rintro ⟨outside, single, others⟩
    constructor
    · intro front isFront
      cases front with
      | nil => exact outside
      | cons first front =>
          rcases List.cons_prefix_cons.1 isFront with ⟨rfl, shorter⟩
          exact others.uncommented front shorter
    · intro front isFront
      cases front with
      | nil => exact single (List.cons_prefix_cons.1 isFront).1.symm
      | cons first front =>
          rcases List.cons_prefix_cons.1 isFront with ⟨rfl, shorter⟩
          exact others.unescaped front shorter

instance decidableStraight :
    (mode : Mode) → (text : List Char) → Decidable (Straight mode text)
  | mode, [] => decidable_of_iff _ (straight_nil_iff mode).symm
  | mode, character :: rest =>
      have := decidableStraight (mode.next character) rest
      decidable_of_iff _ (straight_cons_iff mode character rest).symm

/-! ## One character -/

theorem closing?_ofPlain (character : Char) :
    (Mode.ofPlain character).closing? = closer? character := by
  unfold closer?
  split
  · rfl
  · rfl
  · rfl
  · rfl
  · have unopened : Quotation.opened? character = none := by
      simp [Quotation.opened?]
    rw [Mode.ofPlain, unopened]
    show (if character = '-' then _ else _ : Mode).closing? = none
    split
    · rfl
    · split <;> rfl

/-- Outside of comments the toggling reader counts where the other one does. -/
theorem closing?_eq_none_iff
    {mode : Mode} (outside : mode.isComment = false) :
    mode.closing? = none ↔ mode.isPlain = true := by
  cases mode with
  | plain | hyphen | slash | closed _ => exact iff_of_true rfl rfl
  | quoted _ => exact iff_of_false nofun nofun
  | lineComment | blockComment _ | blockSlash _ | blockStar _ => cases outside

/-- At each character of a straight text the two readers stay together. -/
theorem closingNext_closing?
    {mode : Mode} {character : Char} (outside : mode.isComment = false)
    (stays : (mode.next character).isComment = false)
    (single : character = ']' → mode ≠ .closed .bracket) :
    closingNext mode.closing? character =
      (mode.next character).closing? := by
  cases mode with
  | plain => exact (closing?_ofPlain character).symm
  | hyphen | slash =>
      rw [Mode.next] at stays ⊢
      split at stays
      · cases stays
      · rename_i other
        rw [if_neg other]
        exact (closing?_ofPlain character).symm
  | quoted quotation =>
      rw [Mode.next]
      show (if character = quotation.closing then _ else _) = _
      split <;> rfl
  | closed quotation =>
      rw [Mode.next]
      split
      · -- The second quote opens the region again, unless it is a bracket.
        rename_i again
        subst again
        cases quotation with
        | literal | double | backtick => rfl
        | bracket => exact absurd rfl (single rfl)
      · exact (closing?_ofPlain character).symm
  | lineComment | blockComment _ | blockSlash _ | blockStar _ => cases outside

theorem Straight.outside
    {mode : Mode} {text : List Char} (straight : Straight mode text) :
    mode.isComment = false :=
  straight.uncommented [] List.nil_prefix

/-- Outside of comments a character is a placeholder to both or to neither. -/
theorem countFrom_cons_eq_iff
    {mode : Mode} (outside : mode.isComment = false) (character : Char)
    (rest : List Char) :
    countFrom mode.closing? (character :: rest) =
        placeholdersFrom mode (character :: rest) ↔
      countFrom (closingNext mode.closing? character) rest =
        placeholdersFrom (mode.next character) rest := by
  rw [countFrom_cons, placeholdersFrom, Nat.add_comm]
  simp [closing?_eq_none_iff outside]

/-! ## Straight texts are counted alike -/

theorem Straight.countFrom_eq
    {mode : Mode} {text : List Char} (straight : Straight mode text) :
    countFrom mode.closing? text = placeholdersFrom mode text := by
  induction text generalizing mode with
  | nil => rfl
  | cons character rest induction =>
      rcases (straight_cons_iff mode character rest).1 straight with
        ⟨outside, single, others⟩
      rw [countFrom_cons_eq_iff outside,
        closingNext_closing? outside others.outside single]
      exact induction others

/--
In a straight statement the count of placeholders is the number of those that
are numbered, and there is one piece more of the statement between them.
-/
theorem placeholderCount_eq_placeholders
    {query : Query} (straight : Straight .plain query.sql.toList) :
    query.placeholderCount = placeholders query.sql ∧
      (pieces query.sql).length = query.placeholderCount + 1 ∧
      ∀ style,
        (renumber style query.sql).text.toList =
          joinNumbered style 1 (pieces query.sql) := by
  have same : query.placeholderCount = placeholders query.sql :=
    straight.countFrom_eq
  refine ⟨same, ?_, fun style => ?_⟩
  · rw [pieces, length_piecesFrom, same, placeholders]
  · rw [text_renumber, number, String.toList_ofList,
      numberFrom_eq_joinNumbered]
    rfl

/-- Quotes written twice, quotes in other quotes, and a literal left open. -/
def leftOpen : Query :=
  ⟨"SELECT 'it''s ?', \"a\"\"[?\", [b'?] FROM t - ? / ? WHERE c = 'd?''",
    [.int 1, .int 2]⟩

theorem placeholderCount_eq_placeholders_leftOpen :
    Straight .plain leftOpen.sql.toList ∧ leftOpen.placeholderCount = 2 ∧
      placeholders leftOpen.sql = 2 := by
  have straight : Straight .plain leftOpen.sql.toList := by decide +kernel
  have same := (placeholderCount_eq_placeholders straight).1
  have count : leftOpen.placeholderCount = 2 := by decide
  exact ⟨straight, count, same.symm.trans count⟩

/-! ## Where the readers part -/

theorem Straight.of_prefix
    {mode : Mode} {front text : List Char} (straight : Straight mode text)
    (isFront : front <+: text) : Straight mode front :=
  ⟨fun shorter isShorter =>
      straight.uncommented shorter (isShorter.trans isFront),
    fun shorter isShorter =>
      straight.unescaped shorter (isShorter.trans isFront)⟩

theorem Straight.append_placeholder
    {mode : Mode} {text : List Char} (straight : Straight mode text) :
    Straight mode (text ++ ['?']) := by
  induction text generalizing mode with
  | nil =>
      have outside := straight.outside
      rw [List.nil_append, straight_cons_iff, straight_nil_iff]
      refine ⟨outside, nofun, ?_⟩
      cases mode with
      | plain | hyphen | slash => rfl
      | quoted quotation | closed quotation => cases quotation <;> rfl
      | lineComment | blockComment _ | blockSlash _ | blockStar _ =>
          cases outside
  | cons character rest induction =>
      rw [straight_cons_iff] at straight
      rw [List.cons_append, straight_cons_iff]
      exact ⟨straight.1, straight.2.1, induction straight.2.2⟩

theorem Mode.isComment_ofPlain (character : Char) :
    (ofPlain character).isComment = false := by
  rw [ofPlain]
  split
  · rfl
  · split
    · rfl
    · split <;> rfl

/-- Comments are begun by two characters. -/
theorem Mode.marks_of_isComment
    {mode : Mode} {character : Char} (outside : mode.isComment = false)
    (enters : (mode.next character).isComment = true) :
    mode = .hyphen ∧ character = '-' ∨ mode = .slash ∧ character = '*' := by
  have notPlain : (ofPlain character).isComment ≠ true := by
    rw [isComment_ofPlain]
    exact Bool.false_ne_true
  cases mode with
  | plain => exact absurd enters notPlain
  | hyphen =>
      rw [Mode.next] at enters
      split at enters
      · exact .inl ⟨rfl, ‹_›⟩
      · exact absurd enters notPlain
  | slash =>
      rw [Mode.next] at enters
      split at enters
      · exact .inr ⟨rfl, ‹_›⟩
      · exact absurd enters notPlain
  | quoted quotation =>
      rw [Mode.next] at enters
      split at enters <;> cases enters
  | closed quotation =>
      rw [Mode.next] at enters
      split at enters
      · cases enters
      · exact absurd enters notPlain
  | lineComment | blockComment _ | blockSlash _ | blockStar _ => cases outside

/--
Where a text ceases to be straight, the toggling reader is outside of all
regions, and the careful one is in a comment or in brackets.
-/
theorem countFrom_of_parted
    {mode : Mode} {character : Char} (outside : mode.isComment = false)
    (parted :
      (mode.next character).isComment = true ∨
        character = ']' ∧ mode = .closed .bracket) :
    countFrom (closingNext mode.closing? character) ['?'] = 1 ∧
      placeholdersFrom (mode.next character) ['?'] = 0 := by
  rcases parted with enters | ⟨rfl, rfl⟩
  · rcases Mode.marks_of_isComment outside enters with
      ⟨rfl, rfl⟩ | ⟨rfl, rfl⟩
    · exact ⟨rfl, rfl⟩
    · exact ⟨rfl, rfl⟩
  · exact ⟨rfl, rfl⟩

/--
A text is straight exactly if the two readers find the same placeholders in
each of its fronts with one more placeholder behind it.
-/
theorem straight_iff
    {mode : Mode} (outside : mode.isComment = false) (text : List Char) :
    Straight mode text ↔
      ∀ front, front <+: text →
        countFrom mode.closing? (front ++ ['?']) =
          placeholdersFrom mode (front ++ ['?']) := by
  constructor
  · intro straight front isFront
    exact (straight.of_prefix isFront).append_placeholder.countFrom_eq
  · intro agrees
    induction text generalizing mode with
    | nil => exact (straight_nil_iff mode).2 outside
    | cons character rest induction =>
        have first := agrees [character] ⟨rest, rfl⟩
        have together :
            ¬ ((mode.next character).isComment = true ∨
              character = ']' ∧ mode = .closed .bracket) := by
          intro parted
          rw [List.singleton_append, countFrom_cons_eq_iff outside,
            (countFrom_of_parted outside parted).1,
            (countFrom_of_parted outside parted).2] at first
          cases first
        rw [not_or, Bool.not_eq_true, not_and] at together
        rw [straight_cons_iff]
        refine ⟨outside, together.2, induction together.1 ?_⟩
        intro front isFront
        rw [← closingNext_closing? outside together.1 together.2,
          ← countFrom_cons_eq_iff outside]
        exact
          agrees (character :: front)
            (List.cons_prefix_cons.2 ⟨rfl, isFront⟩)

/-- A comment and a doubled bracket: only the toggling reader is outside. -/
example :
    countFrom none "-- ?".toList = 1 ∧ placeholders "-- ?" = 0 ∧
      countFrom none "[a]]?".toList = 1 ∧ placeholders "[a]]?" = 0 := by
  decide

end Sqlwright.Lexical
