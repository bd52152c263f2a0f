import Sqlwright.Lexical.Routing
import Sqlwright.Proofs.Numbering

/-!
# Words of composed texts

The words of a text are those of its parts if no part begins in the middle of a
word, and a semicolon in plain text keeps the statements on its two sides
apart.  Glue is exposed as it stands, wherever it is read, and of a quoted name
nothing is exposed but its dots.  So the words of a statement are the words of
its glue, whatever characters the names have.

`Spoken` says of a text that it has no words but those of a vocabulary and
stays within one statement.
-/

namespace Sqlwright.Lexical

open Sqlwright.Weaving

/-! ## Words -/

/-- A text that does not go on with a word that stands in front of it. -/
def Apart (text : List Char) : Prop :=
  text.head?.any isWordChar = false

instance (text : List Char) : Decidable (Apart text) :=
  inferInstanceAs (Decidable (text.head?.any isWordChar = false))

/-- Where there is no character of a word, nothing goes on with one. -/
theorem apart_of_forall
    {text : List Char}
    (silent : ∀ character ∈ text, isWordChar character = false) :
    Apart text := by
  cases text with
  | nil => rfl
  | cons character rest => exact silent character List.mem_cons_self

/-- The words of plain text, without their depths. -/
def wordTexts (text : List Char) : List String :=
  (wordsOf text).map Word.text

theorem depthAfter_of_isWordChar
    (depth : Nat) {character : Char} (inWord : isWordChar character = true) :
    depthAfter depth character = depth := by
  have opens : character ≠ '(' := by
    rintro rfl
    exact absurd inWord (by decide)
  have closes : character ≠ ')' := by
    rintro rfl
    exact absurd inWord (by decide)
  rw [depthAfter, if_neg opens, if_neg closes]

/-- A text that stands apart ends the word in front of it. -/
theorem wordsFrom_of_apart
    (depth : Nat) (reversed : List Char) {text : List Char}
    (apart : Apart text) :
    wordsFrom depth reversed text =
      finishWord depth reversed ++ wordsFrom depth [] text := by
  cases text with
  | nil => exact (List.append_nil _).symm
  | cons character rest =>
      have outside : isWordChar character = false := apart
      simp [wordsFrom, outside, finishWord]

theorem wordsFrom_append
    (depth : Nat) (reversed front : List Char) {back : List Char}
    (apart : Apart back) :
    wordsFrom depth reversed (front ++ back) =
      wordsFrom depth reversed front ++
        wordsFrom (front.foldl depthAfter depth) [] back := by
  induction front generalizing depth reversed with
  | nil => exact wordsFrom_of_apart depth reversed apart
  | cons character rest induction =>
      rw [List.cons_append, wordsFrom, wordsFrom, List.foldl_cons]
      split
      · rename_i inWord
        rw [induction, depthAfter_of_isWordChar depth inWord]
      · rw [induction, List.append_assoc]

theorem texts_wordsFrom
    (depth other : Nat) (reversed text : List Char) :
    (wordsFrom depth reversed text).map Word.text =
      (wordsFrom other reversed text).map Word.text := by
  have finished (depth other : Nat) (reversed : List Char) :
      (finishWord depth reversed).map Word.text =
        (finishWord other reversed).map Word.text := by
    unfold finishWord
    split <;> rfl
  induction text generalizing depth other reversed with
  | nil => exact finished depth other reversed
  | cons character rest induction =>
      rw [wordsFrom, wordsFrom]
      split
      · exact induction depth other _
      · rw [List.map_append, List.map_append, finished depth other,
          induction (depthAfter depth character) (depthAfter other character)]

theorem wordTexts_append
    (front : List Char) {back : List Char} (apart : Apart back) :
    wordTexts (front ++ back) = wordTexts front ++ wordTexts back := by
  rw [wordTexts, wordsOf, wordsFrom_append 0 [] front apart, List.map_append,
    texts_wordsFrom (front.foldl depthAfter 0) 0]
  rfl

theorem wordTexts_eq_nil
    {text : List Char}
    (silent : ∀ character ∈ text, isWordChar character = false) :
    wordTexts text = [] := by
  induction text with
  | nil => rfl
  | cons character rest induction =>
      simp only [List.forall_mem_cons] at silent
      have none : wordTexts [character] = [] := by
        simp [wordTexts, wordsOf, wordsFrom, silent.1, finishWord]
      have parts := wordTexts_append [character] (apart_of_forall silent.2)
      rw [List.singleton_append, none, induction silent.2] at parts
      exact parts

/-- Characters of words go on with the word that has been begun. -/
theorem wordsFrom_wordChars
    (depth : Nat) (reversed : List Char) {front : List Char}
    (inWord : ∀ character ∈ front, isWordChar character = true)
    (back : List Char) :
    wordsFrom depth reversed (front ++ back) =
      wordsFrom depth (front.reverse ++ reversed) back := by
  induction front generalizing reversed with
  | nil => rfl
  | cons character rest induction =>
      rw [List.forall_mem_cons] at inWord
      rw [List.cons_append, wordsFrom, if_pos inWord.1, induction _ inWord.2,
        List.reverse_cons, List.append_assoc]
      rfl

/-- A word that something apart follows is read as a whole. -/
theorem wordsFrom_word
    (depth : Nat) {word rest : List Char} (nonempty : word ≠ [])
    (inWord : word.all isWordChar = true) (apart : Apart rest) :
    wordsFrom depth [] (word ++ rest) =
      ⟨String.ofList (word.map Char.toUpper), depth⟩ ::
        wordsFrom depth [] rest := by
  rw [wordsFrom_wordChars depth [] (List.all_eq_true.1 inWord),
    wordsFrom_of_apart depth _ apart]
  simp [finishWord, nonempty]

/-! ## Statements -/

/-- The words of each statement of plain text. -/
def statementsOf (text : List Char) : List (List Word) :=
  ((text.splitOn ';').map wordsOf).filter fun words => !words.isEmpty

theorem statementWords_eq (sql : String) :
    statementWords sql = statementsOf (exposed sql.toList) := rfl

/-- A semicolon keeps the statements on its two sides apart. -/
theorem statementsOf_append (front back : List Char) :
    statementsOf (front ++ ';' :: back) =
      statementsOf front ++ statementsOf back := by
  have separates : (';' == ';') = true := rfl
  have parts :=
    List.splitOnP_append_cons (p := (· == ';')) front back separates
  rw [statementsOf, List.splitOn, parts, List.map_append, List.filter_append]
  rfl

theorem splitOn_append_of_not_mem
    {front : List Char} (within : ';' ∉ front) (back : List Char) :
    ∃ first others,
      back.splitOn ';' = first :: others ∧
        (front ++ back).splitOn ';' = (front ++ first) :: others := by
  rcases List.exists_cons_of_ne_nil (List.splitOn_ne_nil ';' back) with
    ⟨first, others, split⟩
  refine ⟨first, others, split, ?_⟩
  induction front with
  | nil => exact split
  | cons character rest induction =>
      simp only [List.mem_cons, not_or] at within
      have stays : (character == ';') = false :=
        beq_false_of_ne (Ne.symm within.1)
      have others := induction within.2
      rw [List.splitOn] at others
      rw [List.cons_append, List.splitOn,
        List.splitOnP_cons_eq_if_modifyHead, stays, others]
      rfl

theorem apart_of_splitOn
    {text first : List Char} {others : List (List Char)}
    (apart : Apart text) (split : text.splitOn ';' = first :: others) :
    Apart first := by
  have joined : List.intercalate [';'] (text.splitOn ';') = text :=
    List.intercalate_splitOn ';'
  rw [split] at joined
  cases first with
  | nil => rfl
  | cons character rest =>
      rw [← joined] at apart
      cases others with
      | nil => exact apart
      | cons next others => exact apart

/-- The first word of a text is the first word of its first statement. -/
theorem statementsOf_word
    {word rest : List Char} (nonempty : word ≠ [])
    (inWord : word.all isWordChar = true) (apart : Apart rest) :
    ∃ words statements,
      statementsOf (word ++ rest) =
        (⟨String.ofList (word.map Char.toUpper), 0⟩ :: words) ::
          statements := by
  have within : ';' ∉ word := by
    intro member
    exact absurd (List.all_eq_true.1 inWord ';' member) (by decide)
  rcases splitOn_append_of_not_mem within rest with
    ⟨first, others, split, splitWhole⟩
  have words :=
    wordsFrom_word 0 nonempty inWord (apart_of_splitOn apart split)
  rw [statementsOf, splitWhole, List.map_cons, wordsOf, words,
    List.filter_cons]
  exact ⟨_, _, rfl⟩

/-- Without a semicolon there is one statement. -/
theorem statementsOf_of_not_mem
    {text : List Char} (within : ';' ∉ text) :
    statementsOf text = [wordsOf text].filter fun words => !words.isEmpty := by
  have whole : text.splitOn ';' = [text] := by
    rcases splitOn_append_of_not_mem within [] with
      ⟨first, others, split, splitWhole⟩
    cases split
    simpa using splitWhole
  rw [statementsOf, whole, List.map_singleton]

/-! ## What is exposed -/

/-- Neutral text is exposed as it stands. -/
theorem exposedFrom_neutral
    {mode : Mode} (plain : mode.isPlain = true) {text : List Char}
    (neutral : text.all isNeutral = true) :
    exposedFrom mode text = text := by
  induction text generalizing mode with
  | nil => rfl
  | cons character rest induction =>
      simp only [List.all_cons, Bool.and_eq_true] at neutral
      have next := next_of_isNeutral plain neutral.1
      have exposes : mode.exposes character = true := by
        rw [Mode.exposes, plain, next]
        rfl
      rw [exposedFrom, exposes, if_pos rfl, next, induction rfl neutral.2]

/-- Inside its quotes a name is blanked out, with the quote that ends it. -/
theorem exposedFrom_double (quotation : Quotation) (segment : List Char) :
    ∀ character ∈
        exposedFrom (.quoted quotation)
          (Identifier.double quotation.closing segment ++
            [quotation.closing]),
      character = ' ' := by
  induction segment with
  | nil => exact List.forall_mem_singleton.2 rfl
  | cons character segment induction =>
      by_cases closes : character = quotation.closing
      · rw [Identifier.double, if_pos closes, List.cons_append,
          List.cons_append]
        simp only [exposedFrom, Mode.exposes, Mode.isPlain, Mode.next,
          if_true, Bool.false_and, Bool.and_false, Bool.false_eq_true,
          if_false, List.forall_mem_cons, true_and]
        exact induction
      · rw [Identifier.double, if_neg closes, List.cons_append]
        simp only [exposedFrom, Mode.exposes, Mode.isPlain, Mode.next, closes,
          Bool.false_and, Bool.false_eq_true, if_false, List.forall_mem_cons,
          true_and]
        exact induction

theorem exposed_quoteSegment (style : QuoteStyle) (segment : List Char) :
    ∀ character ∈ exposed (Identifier.quoteSegment style segment),
      character = ' ' := by
  have opened :
      Mode.plain.next style.opening = .quoted (quotationOf style) := by
    cases style <;> rfl
  have hidden : Mode.plain.exposes style.opening = false := by
    rw [Mode.exposes, opened]
    rfl
  rw [exposed, Identifier.quoteSegment, exposedFrom, hidden, opened,
    ← closing_quotationOf]
  exact
    List.forall_mem_cons.2 ⟨rfl, exposedFrom_double (quotationOf style) segment⟩

theorem exposed_names (style : QuoteStyle) (segments : List (List Char)) :
    ∀ character ∈
        exposed
          (List.intercalate ['.']
            (segments.map (Identifier.quoteSegment style))),
      character = ' ' ∨ character = '.' := by
  induction segments with
  | nil => simp [exposed, exposedFrom]
  | cons segment rest induction =>
      have first := exposed_quoteSegment style segment
      cases rest with
      | nil =>
          intro character member
          rw [List.map_singleton, List.intercalate_singleton] at member
          exact .inl (first character member)
      | cons next rest =>
          have dot :
              (Mode.closed (quotationOf style)).next '.' = .plain := by
            cases style <;> rfl
          have shown :
              exposedFrom (.closed (quotationOf style)) ['.'] = ['.'] :=
            exposedFrom_neutral rfl rfl
          intro character member
          rw [List.map_cons, List.map_cons, List.intercalate_cons_cons,
            ← List.map_cons, exposed, exposedFrom_append, exposedFrom_append,
            Mode.after_append, (read_quoteSegment style segment).1, shown,
            Mode.after_cons, dot, Mode.after_nil] at member
          simp only [List.mem_append, List.mem_singleton] at member
          rcases member with (inside | rfl) | behind
          · exact .inl (first character inside)
          · exact .inr rfl
          · exact induction character behind

/-! ## Vocabularies -/

/--
Plain text that stands apart, stays within one statement, and has words of a
vocabulary only.
-/
structure Worded (vocabulary : List String) (text : List Char) : Prop where
  apart : Apart text
  within : ';' ∉ text
  words : ∀ word ∈ wordTexts text, word ∈ vocabulary

instance (vocabulary : List String) (text : List Char) :
    Decidable (Worded vocabulary text) :=
  decidable_of_iff
    (Apart text ∧ ';' ∉ text ∧ ∀ word ∈ wordTexts text, word ∈ vocabulary)
    ⟨fun parts => ⟨parts.1, parts.2.1, parts.2.2⟩,
      fun worded => ⟨worded.apart, worded.within, worded.words⟩⟩

namespace Worded

variable {vocabulary : List String}

theorem nil : Worded vocabulary [] :=
  ⟨rfl, List.not_mem_nil, fun _ member => absurd member List.not_mem_nil⟩

theorem append
    {front back : List Char} (first : Worded vocabulary front)
    (second : Worded vocabulary back) :
    Worded vocabulary (front ++ back) := by
  constructor
  · cases front with
    | nil => exact second.apart
    | cons character rest => exact first.apart
  · rw [List.mem_append, not_or]
    exact ⟨first.within, second.within⟩
  · rw [wordTexts_append front second.apart, List.forall_mem_append]
    exact ⟨first.words, second.words⟩

/-- Where there is no character of a word there is no word. -/
theorem of_silent
    {text : List Char}
    (silent :
      ∀ character ∈ text, isWordChar character = false ∧ character ≠ ';') :
    Worded vocabulary text := by
  constructor
  · exact apart_of_forall fun character member => (silent character member).1
  · intro member
    exact (silent ';' member).2 rfl
  · rw [wordTexts_eq_nil fun character member => (silent character member).1]
    exact fun _ member => absurd member List.not_mem_nil

/-- Equal texts with commas between them. -/
theorem intercalate_replicate
    {text : String} (worded : Worded vocabulary text.toList) (count : Nat) :
    Worded vocabulary
      (",".intercalate (List.replicate count text)).toList := by
  have comma : Worded vocabulary ",".toList := by
    apply of_silent
    intro character member
    rcases List.mem_singleton.1 member with rfl
    exact by decide
  induction count with
  | zero => simpa using nil
  | succ count induction =>
      cases count with
      | zero => simpa using worded
      | succ count =>
          rw [List.replicate_succ, List.replicate_succ,
            String.intercalate_cons_cons, ← List.replicate_succ,
            String.toList_append, String.toList_append]
          exact (worded.append comma).append induction

end Worded

/-- Glue with words of a vocabulary only. -/
structure Phrase (vocabulary : List String) (text : String) : Prop where
  neutral : text.toList.all isNeutral = true
  nonempty : text.toList ≠ []
  worded : Worded vocabulary text.toList

instance (vocabulary : List String) (text : String) :
    Decidable (Phrase vocabulary text) :=
  decidable_of_iff
    (text.toList.all isNeutral = true ∧ text.toList ≠ [] ∧
      Worded vocabulary text.toList)
    ⟨fun parts => ⟨parts.1, parts.2.1, parts.2.2⟩,
      fun phrase => ⟨phrase.neutral, phrase.nonempty, phrase.worded⟩⟩

theorem phrase_of_glue
    {vocabulary : List String} {text : String} {holes : Nat}
    (glue : Glue text holes) (worded : Worded vocabulary text.toList) :
    Phrase vocabulary text :=
  ⟨glue.characters, glue.nonempty, worded⟩

/--
A text that is read from plain text to plain text, and of which words of a
vocabulary are exposed and nothing that ends a statement.
-/
structure Spoken (vocabulary : List String) (text : String) : Prop where
  isPlain : (Mode.plain.after text.toList).isPlain = true
  worded : Worded vocabulary (exposed text.toList)

namespace Spoken

variable {vocabulary : List String}

theorem empty : Spoken vocabulary "" :=
  ⟨rfl, Worded.nil⟩

/-- Quoted names have no words. -/
theorem of_quoteAll (style : QuoteStyle) (identifier : String) :
    Spoken vocabulary (Identifier.quoteAll style identifier) := by
  have names :
      (Identifier.quoteAll style identifier).toList =
        List.intercalate ['.']
          ((Identifier.segments identifier).map
            (Identifier.quoteSegment style)) :=
    String.toList_ofList
  constructor
  · rw [names]
    exact (settled_names style (Identifier.segments identifier)).isPlain
  · rw [names]
    apply Worded.of_silent
    intro character member
    rcases exposed_names style (Identifier.segments identifier) character
        member with
      rfl | rfl
    · exact by decide
    · exact by decide

theorem of_quote
    {style : QuoteStyle} {identifier quoted : String}
    (done : Identifier.quote style identifier = .ok quoted) :
    Spoken vocabulary quoted := by
  rcases (Identifier.quote_eq_ok_iff style identifier quoted).1 done with
    ⟨-, rfl⟩
  exact of_quoteAll style identifier

theorem weave
    {left between right : String} (first : Spoken vocabulary left)
    (phrase : Phrase vocabulary between) (second : Spoken vocabulary right) :
    Spoken vocabulary (left ++ between ++ right) := by
  have read := (read_neutral first.isPlain phrase.neutral).1 phrase.nonempty
  have shown := exposedFrom_neutral first.isPlain phrase.neutral
  constructor
  · rw [String.toList_append, String.toList_append, Mode.after_append,
      Mode.after_append, read]
    exact second.isPlain
  · rw [String.toList_append, String.toList_append, exposed,
      exposedFrom_append, exposedFrom_append, Mode.after_append, read, shown]
    exact (first.worded.append phrase.worded).append second.worded

theorem behind
    {front text : String} (phrase : Phrase vocabulary front)
    (spoken : Spoken vocabulary text) :
    Spoken vocabulary (front ++ text) := by
  simpa using weave empty phrase spoken

theorem before
    {text back : String} (spoken : Spoken vocabulary text)
    (phrase : Phrase vocabulary back) :
    Spoken vocabulary (text ++ back) := by
  simpa using weave spoken phrase empty

/-- Spoken items with a phrase between any two of them. -/
theorem intercalate
    {separator : String} (phrase : Phrase vocabulary separator)
    {items : List String}
    (each : ∀ item ∈ items, Spoken vocabulary item) :
    Spoken vocabulary (separator.intercalate items) := by
  induction items with
  | nil => simpa using empty
  | cons item rest induction =>
      simp only [List.forall_mem_cons] at each
      cases rest with
      | nil => simpa using each.1
      | cons next rest =>
          rw [String.intercalate_cons_cons]
          exact weave each.1 phrase (induction each.2)

end Spoken

/-! ## Keywords in front -/

theorem isNeutral_of_isWordChar
    {character : Char} (inWord : isWordChar character = true) :
    isNeutral character = true := by
  have special :
      ['\'', '"', '\x60', '[', ']', '-', '/', '*'].any isWordChar = false := by
    decide
  apply decide_eq_true
  intro member
  exact List.any_eq_false.1 special character member inWord

theorem exposed_keyword
    {keyword : List Char} (inWord : keyword.all isWordChar = true)
    (text : List Char) :
    exposed (keyword ++ text) = keyword ++ exposed text := by
  have neutral : keyword.all isNeutral = true := by
    rw [List.all_eq_true] at inWord ⊢
    exact fun character member =>
      isNeutral_of_isWordChar (inWord character member)
  have stays : Mode.plain.isPlain = true := rfl
  have behind : Mode.plain.after keyword = .plain := by
    cases keyword with
    | nil => rfl
    | cons character rest =>
        exact (read_neutral stays neutral).1 (List.cons_ne_nil _ _)
  rw [exposed, exposedFrom_append, exposedFrom_neutral stays neutral, behind]
  rfl

/-- The keyword in front of a text is the first word of its first statement. -/
theorem statementWords_of_keyword
    {keyword : String} (nonempty : keyword.toList ≠ [])
    (inWord : keyword.toList.all isWordChar = true) (text : String) :
    ∃ words statements,
      statementWords (keyword ++ " " ++ text) =
        (⟨Text.upper keyword, 0⟩ :: words) :: statements := by
  have space : Glue " " 0 := by decide
  have shown :
      exposed (" " ++ text).toList = ' ' :: exposed text.toList := by
    have plain : Mode.plain.isPlain = true := rfl
    rw [String.toList_append, exposed, exposedFrom_append,
      exposedFrom_neutral plain space.characters,
      (read_glue plain space).1]
    rfl
  rw [String.append_assoc, statementWords_eq, String.toList_append,
    exposed_keyword inWord, shown]
  exact statementsOf_word nonempty inWord rfl

/-- Behind its keyword a spoken text has words of its vocabulary only. -/
theorem statementWords_of_spoken
    {vocabulary : List String} {keyword text : String}
    (nonempty : keyword.toList ≠ [])
    (inWord : keyword.toList.all isWordChar = true)
    (spoken : Spoken vocabulary text) :
    ∃ words,
      statementWords (keyword ++ text) =
          [⟨Text.upper keyword, 0⟩ :: words] ∧
        ∀ word ∈ words, word.text ∈ vocabulary := by
  have within : ';' ∉ keyword.toList ++ exposed text.toList := by
    rw [List.mem_append, not_or]
    refine ⟨?_, spoken.worded.within⟩
    intro member
    exact absurd (List.all_eq_true.1 inWord ';' member) (by decide)
  have words := wordsFrom_word 0 nonempty inWord spoken.worded.apart
  refine ⟨wordsOf (exposed text.toList), ?_, ?_⟩
  · rw [statementWords_eq, String.toList_append, exposed_keyword inWord,
      statementsOf_of_not_mem within, wordsOf, words]
    rfl
  · intro word member
    exact spoken.worded.words _ (List.mem_map_of_mem member)

/-- Behind a semicolon in plain text, other statements begin. -/
theorem statementWords_append
    {front : String} (plain : (Mode.plain.after front.toList).isPlain = true)
    (back : String) :
    statementWords (front ++ ";" ++ back) =
      statementWords front ++ statementWords back := by
  have semicolon : Glue ";" 0 := by decide
  rw [statementWords_eq, String.toList_append, String.toList_append, exposed,
    exposedFrom_append, exposedFrom_append, Mode.after_append,
    (read_glue plain semicolon).1,
    exposedFrom_neutral plain semicolon.characters, List.append_assoc]
  exact statementsOf_append (exposed front.toList) (exposed back.toList)

end Sqlwright.Lexical
