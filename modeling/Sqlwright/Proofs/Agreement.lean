import Sqlwright.Proofs.Grammar
import Sqlwright.Proofs.Indexing

/-!
# Byte loops and modes

A byte loop looks ahead where a reader in a `Mode` remembers.  Between two steps
of a loop the reader may therefore stand in another mode than the one that
belongs to the enclosure, but the two modes agree on what is left: they read its
first character alike, and from then on they are the same.

A loop also finds words one after another, in one pass over all statements.
`listed` does so with characters, and the words of a statement can be found in
that way.
-/

namespace Sqlwright.Lexical

/-! ## Modes that agree -/

namespace Mode

/-- Two modes in which a text is read alike. -/
def Agrees (first second : Mode) (text : List Char) : Prop :=
  ∀ character ∈ text.head?,
    first.next character = second.next character ∧
      first.exposes character = second.exposes character ∧
        (first.isPlain && character == '?') =
          (second.isPlain && character == '?')

namespace Agrees

variable {first second : Mode} {text : List Char}

theorem refl (mode : Mode) (text : List Char) : Agrees mode mode text :=
  fun _ _ => ⟨rfl, rfl, rfl⟩

theorem of_next
    (alike : first.isPlain = second.isPlain)
    (same :
      ∀ character ∈ text.head?, first.next character = second.next character) :
    Agrees first second text := by
  intro character head
  have next := same character head
  refine ⟨next, ?_, by rw [alike]⟩
  rw [exposes, exposes, alike, next]

/-- Where nothing goes on, a mode of plain text agrees with plain text. -/
theorem of_not_continues
    (isPlain : first.isPlain = true)
    (parted : ∀ next ∈ text.head?, first.continues next = false) :
    Agrees first .plain text :=
  of_next isPlain fun character head =>
    next_of_not_continues isPlain (parted character head)

theorem exposedFrom_eq (agrees : Agrees first second text) :
    exposedFrom first text = exposedFrom second text := by
  cases text with
  | nil => rfl
  | cons character rest =>
      rcases agrees character rfl with ⟨next, exposes, -⟩
      rw [exposedFrom, exposedFrom, next, exposes]

theorem copyFrom_eq
    (agrees : Agrees first second text) (style : NumberStyle) (number : Nat)
    (front : List Char) (copy : Option (List Char)) :
    copyFrom style first number front copy text =
      copyFrom style second number front copy text := by
  cases text with
  | nil => rfl
  | cons character rest =>
      rcases agrees character rfl with ⟨next, -, marks⟩
      rw [copyFrom, copyFrom, next, marks]

end Agrees

theorem next_closing (quotation : Quotation) :
    (quoted quotation).next quotation.closing = closed quotation :=
  if_pos rfl

theorem isPlain_next_blockComment (outer : Nat) (character : Char) :
    ((blockComment outer).next character).isPlain = false := by
  show
    (if character = '/' then blockSlash outer
      else if character = '*' then blockStar outer
      else blockComment outer).isPlain = false
  split
  · rfl
  · split <;> rfl

end Mode

/-! ## Enclosures as modes -/

namespace Enclosure

/-- The mode in which a loop goes on. -/
def mode : Enclosure → Mode
  | none => .plain
  | quoted quotation => .quoted quotation
  | lineComment => .lineComment
  | blockComment depth => .blockComment (depth.toNat - 1)

/-- Comments that are open, but not more than characters have been read. -/
def Within (count : Nat) : Enclosure → Prop
  | blockComment depth => 0 < depth.toNat ∧ depth.toNat ≤ count
  | _ => True

variable {enclosure next : Enclosure} {seen behind : List Char} {count : Nat}

theorem toNat_succ
    {depth : UInt32} (small : depth.toNat + 1 < 2 ^ 32) :
    (depth + 1).toNat = depth.toNat + 1 := by
  rw [UInt32.toNat_add]
  exact Nat.mod_eq_of_lt small

theorem toNat_pred
    {depth : UInt32} (positive : 0 < depth.toNat) :
    (depth - 1).toNat = depth.toNat - 1 :=
  UInt32.toNat_sub_of_le _ _ positive

theorem toNat_ne_one {depth : UInt32} (several : depth ≠ 1) :
    depth.toNat ≠ 1 :=
  fun one => several (UInt32.toNat_inj.1 one)

/-- A depth that a text allows can grow by the mark that is read. -/
theorem Within.toNat_lt
    {depth : UInt32} (within : (blockComment depth).Within count)
    (small : count + 2 < 2 ^ 32) :
    depth.toNat + 1 < 2 ^ 32 := by
  have := within.2
  omega

theorem Passes.within
    (passes : Passes enclosure seen behind next)
    (within : enclosure.Within count)
    (small : count + seen.length < 2 ^ 32) :
    next.Within (count + seen.length) := by
  cases passes with
  | opening | openingLine | inQuotes | doubled | closing | inLine
  | closingLine => trivial
  | openingBlock => exact ⟨Nat.one_pos, Nat.le_add_left 1 (count + 1)⟩
  | inner depth =>
      rw [Within, toNat_succ (within.toNat_lt small)]
      exact ⟨Nat.succ_pos _, Nat.add_le_add within.2 (Nat.le_succ 1)⟩
  | closingBlock depth =>
      rcases within with ⟨positive, bounded⟩
      split
      · trivial
      · rename_i several
        have := toNat_ne_one several
        rw [Within, toNat_pred positive, List.length_cons]
        omega
  | inBlock =>
      exact ⟨within.1, Nat.le_trans within.2 (Nat.le_add_right _ _)⟩

/-- Behind a step the modes of the reader and of the loop agree. -/
theorem Passes.agrees
    (passes : Passes enclosure seen behind next)
    (within : enclosure.Within count)
    (small : count + seen.length < 2 ^ 32) :
    Mode.Agrees (enclosure.mode.after seen) next.mode behind := by
  cases passes with
  | opening quotation =>
      have opened : Mode.plain.next quotation.opening = .quoted quotation := by
        cases quotation <;> rfl
      rw [mode, Mode.after_cons, opened]
      exact .refl _ _
  | openingLine behind =>
      -- The reader is behind a hyphen and the loop in the comment already; the
      -- second hyphen leads the reader there as well.
      rintro character head
      cases head
      exact ⟨rfl, rfl, rfl⟩
  | openingBlock => exact .refl _ _
  | inQuotes _ other =>
      rw [mode, Mode.after_cons, Mode.next, if_neg other]
      exact .refl _ _
  | doubled quotation =>
      have again :
          (Mode.closed quotation).next quotation.closing = .quoted quotation :=
        if_pos rfl
      rw [mode, Mode.after_cons, Mode.next_closing, Mode.after_cons, again]
      exact .refl _ _
  | @closing quotation _ ends =>
      -- Only the loop knows yet that the quote is not written twice.
      show Mode.Agrees ((Mode.quoted quotation).next _) .plain behind
      rw [Mode.next_closing]
      refine .of_not_continues rfl fun next head => beq_false_of_ne ?_
      rintro rfl
      exact ends head
  | inLine _ other =>
      rw [mode, Mode.after_cons, Mode.next, if_neg other]
      exact .refl _ _
  | closingLine => exact .refl _ _
  | inner depth =>
      have outer : (depth + 1).toNat - 1 = depth.toNat - 1 + 1 := by
        rw [toNat_succ (within.toNat_lt small)]
        exact (Nat.sub_add_cancel within.1).symm
      rw [mode, mode, outer]
      exact .refl _ _
  | closingBlock depth =>
      split
      · rename_i one
        rw [one]
        exact .refl _ _
      · rename_i several
        have outer : depth.toNat - 1 = depth.toNat - 1 - 1 + 1 := by
          have := within.1
          have := toNat_ne_one several
          omega
        rw [mode, mode, toNat_pred within.1, outer]
        exact .refl _ _
  | @inBlock depth octet behind noOpening noClosing =>
      rw [mode, Mode.after_cons, Mode.after_nil]
      refine
        .of_next (Mode.isPlain_next_blockComment _ octet) fun next head => ?_
      rcases List.head?_eq_some_iff.1 head with ⟨rest, rfl⟩
      exact Mode.next_behind_other _ noOpening noClosing

/-- There are no placeholders in regions and their marks. -/
theorem Passes.placeholdersFrom_eq
    (passes : Passes enclosure seen behind next) :
    placeholdersFrom enclosure.mode seen = 0 := by
  cases passes with
  | opening quotation => cases quotation <;> rfl
  | doubled quotation => cases quotation <;> rfl
  | openingLine | openingBlock | inQuotes | closing | inLine | closingLine
  | inner | closingBlock | inBlock => rfl

end Enclosure

/-- Behind a character that stands for itself a text is read as plain text. -/
theorem Unmarked.agrees
    {octet : Char} {behind : List Char} (unmarked : Unmarked octet behind) :
    (Mode.plain.next octet).isPlain = true ∧
      Mode.Agrees (Mode.plain.next octet) .plain behind := by
  rcases
    Mode.next_of_unmarked unmarked.unquoted unmarked.noLine
      unmarked.noBlock with
    ⟨isPlain, parted⟩
  exact ⟨isPlain, .of_not_continues isPlain parted⟩

/-! ## Words in one pass -/

/-- A character that is neither in a word nor changes what words belong to. -/
def isInert (character : Char) : Bool :=
  !isWordChar character && character ∉ ['(', ')', ';']

/--
The words of each statement of plain text.  Some words of the first statement
have been found, and of another one some characters, in reverse.
-/
def listed (depth : Nat) (reversed : List Char) (current : List Word) :
    List Char → List (List Word)
  | [] => [current ++ finishWord depth reversed]
  | character :: rest =>
      if character = ';' then
        (current ++ finishWord depth reversed) :: listed 0 [] [] rest
      else if isWordChar character then
        listed depth (character :: reversed) current rest
      else
        listed (depthAfter depth character) []
          (current ++ finishWord depth reversed) rest

theorem exists_listed
    (depth : Nat) (reversed : List Char) (current : List Word)
    (text : List Char) :
    ∃ first others,
      text.splitOn ';' = first :: others ∧
        listed depth reversed current text =
          (current ++ wordsFrom depth reversed first) ::
            others.map wordsOf := by
  induction text generalizing depth reversed current with
  | nil => exact ⟨[], [], rfl, rfl⟩
  | cons character rest induction =>
      rw [List.splitOn, List.splitOnP_cons_eq_if_modifyHead, ← List.splitOn,
        listed]
      by_cases ends : character = ';'
      · rcases induction 0 [] [] with ⟨first, others, split, same⟩
        rw [if_pos ends, if_pos (beq_iff_eq.2 ends), same, split]
        exact ⟨[], first :: others, rfl, rfl⟩
      · rw [if_neg ends, if_neg (by simpa using ends)]
        by_cases inWord : isWordChar character = true
        · rcases induction depth (character :: reversed) current with
            ⟨first, others, split, same⟩
          rw [if_pos inWord, same, split]
          refine ⟨character :: first, others, rfl, ?_⟩
          rw [wordsFrom, if_pos inWord]
        · rcases
            induction (depthAfter depth character) []
              (current ++ finishWord depth reversed) with
            ⟨first, others, split, same⟩
          rw [if_neg inWord, same, split]
          refine ⟨character :: first, others, rfl, ?_⟩
          rw [wordsFrom, if_neg inWord, List.append_assoc]

/-- The words of a statement can be found in one pass. -/
theorem statementWords_eq_listed (sql : String) :
    statementWords sql =
      (listed 0 [] [] (exposed sql.toList)).filter fun words =>
        !words.isEmpty := by
  rcases exists_listed 0 [] [] (exposed sql.toList) with
    ⟨first, others, split, same⟩
  rw [statementWords, split, same]
  rfl

theorem listed_of_isInert
    (depth : Nat) (reversed : List Char) (current : List Word)
    {character : Char} (inert : isInert character = true) (rest : List Char) :
    listed depth reversed current (character :: rest) =
      listed depth [] (current ++ finishWord depth reversed) rest := by
  simp only [isInert, Bool.and_eq_true, Bool.not_eq_true', decide_eq_true_eq,
    List.mem_cons, List.not_mem_nil, or_false, not_or] at inert
  rcases inert with ⟨noWord, opens, closes, ends⟩
  have stays : depthAfter depth character = depth := by
    rw [depthAfter, if_neg opens, if_neg closes]
  rw [listed, if_neg ends, noWord, stays]
  exact if_neg Bool.false_ne_true

/-- Characters between words are passed without any effect. -/
theorem listed_append_of_isInert
    (depth : Nat) (current : List Word) {front : List Char}
    (inert : ∀ character ∈ front, isInert character = true)
    (back : List Char) :
    listed depth [] current (front ++ back) = listed depth [] current back := by
  induction front with
  | nil => rfl
  | cons character rest induction =>
      rw [List.forall_mem_cons] at inert
      have none : finishWord depth [] = [] := rfl
      rw [List.cons_append, listed_of_isInert depth [] current inert.1, none,
        List.append_nil, induction inert.2]

/-- A whole word is found if nothing goes on with it. -/
theorem listed_word
    (depth : Nat) (current : List Word) {word : List Char}
    (nonempty : word ≠ []) (inWord : word.all isWordChar = true)
    {back : List Char} (apart : Apart back) :
    listed depth [] current (word ++ back) =
      listed depth []
        (current ++ [⟨String.ofList (word.map Char.toUpper), depth⟩]) back := by
  have within : ';' ∉ word := by
    intro member
    exact absurd (List.all_eq_true.1 inWord ';' member) (by decide)
  rcases splitOn_append_of_not_mem within back with
    ⟨first, others, split, splitWhole⟩
  rcases exists_listed depth [] current (word ++ back) with
    ⟨_, _, same, whole⟩
  cases same.symm.trans splitWhole
  rcases
    exists_listed depth []
      (current ++ [⟨String.ofList (word.map Char.toUpper), depth⟩]) back with
    ⟨_, _, same, behind⟩
  cases same.symm.trans split
  rw [whole, behind,
    wordsFrom_word depth nonempty inWord (apart_of_splitOn apart split),
    List.append_assoc]
  rfl

/-- Of regions and their marks nothing is exposed that words could notice. -/
theorem Enclosure.Passes.isInert_of_mem
    {enclosure next : Enclosure} {seen behind : List Char}
    (passes : enclosure.Passes seen behind next) :
    ∀ character ∈ exposedFrom enclosure.mode seen,
      isInert character = true := by
  apply List.all_eq_true.1
  cases passes with
  | opening quotation => cases quotation <;> rfl
  | doubled quotation => cases quotation <;> rfl
  | openingLine | openingBlock | inQuotes | closing | inLine | closingLine
  | inner | closingBlock | inBlock => rfl

theorem apart_exposedFrom
    {text : List Char} (apart : Apart text) (mode : Mode) :
    Apart (exposedFrom mode text) := by
  cases text with
  | nil => rfl
  | cons character rest =>
      rw [exposedFrom]
      split
      · exact apart
      · rfl

end Sqlwright.Lexical
