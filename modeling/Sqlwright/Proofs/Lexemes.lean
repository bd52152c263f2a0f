import Mathlib.Data.List.Infix
import Sqlwright.Proofs.Blanking
import Sqlwright.Text.Blank

/-!
# Lexemes of a statement

A text `Begins` with some lexemes if it is written in the way of the lexemes,
with white space and comments wherever they are wanted, and with anything
behind.  What is between parentheses is one lexeme, whatever words, literals
and comments there are in it, as long as its parentheses match and it does not
end the statement.

The main lemma says that the words of such a text are `Voiced` by the lexemes:
bare words are read at the depth of the lexemes, those between parentheses lie
deeper, and nothing else has words.
-/

namespace Sqlwright.Lexical

open Sqlwright.Weaving

/-! ## Parentheses -/

/-- Parentheses match: none is closed before it is opened or left open. -/
structure Balanced (text : List Char) : Prop where
  opened : ∀ front, front <+: text → front.count ')' ≤ front.count '('
  closed : text.count ')' = text.count '('

instance (text : List Char) : Decidable (Balanced text) :=
  decidable_of_iff
    ((∀ front ∈ text.inits, front.count ')' ≤ front.count '(') ∧
      text.count ')' = text.count '(')
    ⟨fun parts =>
        ⟨fun front before =>
            parts.1 front ((List.mem_inits front text).2 before),
          parts.2⟩,
      fun balanced =>
        ⟨fun front before =>
            balanced.opened front ((List.mem_inits front text).1 before),
          balanced.closed⟩⟩

theorem depth_of_mem_finishWord
    {depth : Nat} {reversed : List Char} {word : Word}
    (member : word ∈ finishWord depth reversed) : word.depth = depth := by
  unfold finishWord at member
  split at member
  · cases member
  · rw [List.mem_singleton.1 member]

/-- A character moves the level by the parenthesis that it is. -/
theorem exists_level
    (depth level : Nat) (character : Char)
    (opened : [character].count ')' ≤ level + [character].count '(') :
    ∃ next,
      depthAfter (depth + level) character = depth + next ∧
        next + [character].count ')' = level + [character].count '(' := by
  by_cases opens : character = '('
  · subst opens
    exact ⟨level + 1, rfl, rfl⟩
  · by_cases closes : character = ')'
    · subst closes
      have positive : 1 ≤ level := opened
      refine ⟨level - 1, ?_, ?_⟩
      · show depth + level - 1 = depth + (level - 1)
        omega
      · show level - 1 + 1 = level + 0
        omega
    · refine ⟨level, ?_, ?_⟩
      · rw [depthAfter, if_neg opens, if_neg closes]
      · simp [opens, closes]

/--
Where never more than `level` parentheses are closed that have not been opened,
the depth follows the parentheses and no word stands above the depth `depth`.
-/
theorem depth_of_opened
    (depth level : Nat) (reversed : List Char) {text : List Char}
    (opened :
      ∀ front, front <+: text → front.count ')' ≤ level + front.count '(') :
    text.foldl depthAfter (depth + level) + text.count ')' =
        depth + level + text.count '(' ∧
      ∀ word ∈ wordsFrom (depth + level) reversed text,
        depth ≤ word.depth := by
  have finished (level : Nat) (reversed : List Char) :
      ∀ word ∈ finishWord (depth + level) reversed, depth ≤ word.depth := by
    intro word member
    rw [depth_of_mem_finishWord member]
    exact Nat.le_add_right depth level
  induction text generalizing level reversed with
  | nil => exact ⟨rfl, finished level reversed⟩
  | cons character rest induction =>
      have first : [character] <+: character :: rest := ⟨rest, rfl⟩
      rcases exists_level depth level character (opened _ first) with
        ⟨next, moves, counted⟩
      have others :
          ∀ front, front <+: rest →
            front.count ')' ≤ next + front.count '(' := by
        intro front before
        have whole :=
          opened (character :: front) (List.cons_prefix_cons.2 ⟨rfl, before⟩)
        rw [← List.singleton_append, List.count_append, List.count_append]
          at whole
        omega
      constructor
      · have behind := (induction next [] others).1
        rw [List.foldl_cons, moves, ← List.singleton_append,
          List.count_append, List.count_append]
        omega
      · rw [wordsFrom]
        split
        · rename_i inWord
          rw [depthAfter_of_isWordChar _ inWord] at moves
          rw [moves]
          exact (induction next _ others).2
        · rw [moves, List.forall_mem_append]
          exact ⟨finished level reversed, (induction next [] others).2⟩

/-- Behind matching parentheses the depth is what it was, and not above. -/
theorem Balanced.depth
    {text : List Char} (balanced : Balanced text) (depth : Nat) :
    text.foldl depthAfter depth = depth ∧
      ∀ word ∈ wordsFrom depth [] text, depth ≤ word.depth := by
  have opened :
      ∀ front, front <+: text → front.count ')' ≤ 0 + front.count '(' := by
    intro front before
    rw [Nat.zero_add]
    exact balanced.opened front before
  have follows := depth_of_opened depth 0 [] opened
  refine ⟨?_, follows.2⟩
  have moves := follows.1
  rw [balanced.closed] at moves
  exact Nat.add_right_cancel moves

/-! ## Lexemes -/

/--
A text that can stand between parentheses: it is read from plain text to plain
text, and of what is exposed the parentheses match and nothing ends the
statement.
-/
structure Body (text : List Char) : Prop where
  isPlain : (Mode.plain.after text).isPlain = true
  within : ';' ∉ exposed text
  balanced : Balanced (exposed text)

instance (text : List Char) : Decidable (Body text) :=
  decidable_of_iff
    ((Mode.plain.after text).isPlain = true ∧ ';' ∉ exposed text ∧
      Balanced (exposed text))
    ⟨fun parts => ⟨parts.1, parts.2.1, parts.2.2⟩,
      fun body => ⟨body.isPlain, body.within, body.balanced⟩⟩

/-- What statements with common table expressions begin with. -/
inductive Lexeme where
  /-- An opening parenthesis that is not closed at once. -/
  | opening
  /-- A bare word, in upper case. -/
  | word (text : String)
  /-- A quoted name. -/
  | name
  /-- A text between parentheses. -/
  | group
  | comma
  deriving DecidableEq

/--
A text that begins with some lexemes.  In front of each there may be white
space and comments, and behind the last one there may be anything.  A word ends
where no character of a word follows.
-/
inductive Begins : List Lexeme → List Char → Prop where
  | anything (text : List Char) : Begins [] text
  | blank {lexemes : List Lexeme} {character : Char} {text : List Char} :
      Text.isBlankChar character = true → Begins lexemes text →
        Begins lexemes (character :: text)
  | lineComment {lexemes : List Lexeme} {comment text : List Char} :
      Region .lineComment comment → Begins lexemes text →
        Begins lexemes (comment ++ text)
  | blockComment {lexemes : List Lexeme} {comment text : List Char} :
      Region .blockComment comment → Begins lexemes text →
        Begins lexemes (comment ++ text)
  | opening {lexemes : List Lexeme} {text : List Char} :
      Begins lexemes text → Begins (.opening :: lexemes) ('(' :: text)
  | word {lexemes : List Lexeme} {word keyword : String} {text : List Char} :
      word.toList ≠ [] → word.toList.all isWordChar = true →
        Sqlwright.Text.upper word = keyword → Apart text →
          Begins lexemes text →
            Begins (.word keyword :: lexemes) (word.toList ++ text)
  | name {lexemes : List Lexeme} {quotation : Quotation}
      {name text : List Char} :
      quotation ≠ .literal → Region (.quoted quotation) name →
        (RegionKind.quoted quotation).EndsBefore text → Begins lexemes text →
          Begins (.name :: lexemes) (name ++ text)
  | group {lexemes : List Lexeme} {body text : List Char} :
      Body body → Begins lexemes text →
        Begins (.group :: lexemes) ('(' :: (body ++ ')' :: text))
  | comma {lexemes : List Lexeme} {text : List Char} :
      Begins lexemes text → Begins (.comma :: lexemes) (',' :: text)

/-! ## What is exposed of lexemes -/

theorem exposed_cons
    {character : Char} (neutral : isNeutral character = true)
    (text : List Char) :
    exposed (character :: text) = character :: exposed text := by
  have next : Mode.plain.next character = .plain :=
    next_of_isNeutral rfl neutral
  have shown : Mode.plain.exposes character = true := by
    rw [Mode.exposes, next]
    rfl
  rw [exposed, exposedFrom, shown, if_pos rfl, next]
  rfl

theorem toNat_of_isUpper
    {character : Char} (upper : character.isUpper = true) :
    65 ≤ character.toNat ∧ character.toNat ≤ 90 :=
  of_decide_eq_true upper

theorem toNat_of_isLower
    {character : Char} (lower : character.isLower = true) :
    97 ≤ character.toNat ∧ character.toNat ≤ 122 := by
  have bounds := (Bool.and_eq_true _ _).mp lower
  exact ⟨of_decide_eq_true bounds.1, of_decide_eq_true bounds.2⟩

theorem toNat_of_isWordChar
    {character : Char} (inWord : isWordChar character = true) :
    33 ≤ character.toNat ∧ character.toNat ≤ 126 := by
  change
    (character.isUpper || character.isLower || character.isDigit ||
      character == '_' || character == '@' || character == '#' ||
        character == '$') = true at inWord
  simp only [Bool.or_eq_true, beq_iff_eq] at inWord
  rcases inWord with
    (((((upper | lower) | digit) | rfl) | rfl) | rfl) | rfl
  · have bounds := toNat_of_isUpper upper
    omega
  · have bounds := toNat_of_isLower lower
    omega
  · rw [Char.isDigit_iff_toNat] at digit
    change 48 ≤ character.toNat ∧ character.toNat ≤ 57 at digit
    omega
  · decide
  · decide
  · decide
  · decide

theorem toNat_of_isBlankChar
    {character : Char} (blank : Text.isBlankChar character = true) :
    character.toNat ≤ 32 ∨ 133 ≤ character.toNat := by
  simp only [Text.isBlankChar, Bool.or_eq_true, Bool.and_eq_true,
    decide_eq_true_eq, beq_iff_eq] at blank
  omega

/-- White space is neutral and idle. -/
theorem spec_of_isBlankChar
    {character : Char} (blank : Text.isBlankChar character = true) :
    isNeutral character = true ∧ isIdle character = true := by
  constructor
  · have visible :
        ∀ other ∈ ['\'', '"', '\x60', '[', ']', '-', '/', '*'],
          Text.isBlankChar other = false := by
      simp [Text.isBlankChar]
    apply decide_eq_true
    intro member
    rw [visible character member] at blank
    cases blank
  · have other (mark : Char) (visible : Text.isBlankChar mark = false) :
        character ≠ mark := by
      rintro rfl
      rw [visible] at blank
      cases blank
    rw [isIdle_iff]
    refine ⟨?_, other ';' rfl, other '(' rfl, other ')' rfl⟩
    rw [← Bool.not_eq_true]
    intro inWord
    have wordCode := toNat_of_isWordChar inWord
    have blankCode := toNat_of_isBlankChar blank
    omega

/-- Nothing of a complete region is exposed but idle characters. -/
theorem exists_exposed_region
    {kind : RegionKind} {region behind : List Char}
    (complete : Region kind region) (ended : kind.EndsBefore behind) :
    ∃ idle, Idle idle ∧
      exposed (region ++ behind) = idle ++ exposed behind := by
  have begins : PlainBetween [] (region ++ behind) := ⟨rfl, fun _ _ => rfl⟩
  exact (enclosed_of_region begins complete ended).exists_exposed

theorem exposed_group
    {body : List Char} (isBody : Body body) (text : List Char) :
    exposed ('(' :: (body ++ ')' :: text)) =
      '(' :: (exposed body ++ ')' :: exposed text) := by
  have next : (Mode.plain.after body).next ')' = .plain :=
    next_of_isNeutral isBody.isPlain rfl
  have shown : (Mode.plain.after body).exposes ')' = true := by
    rw [Mode.exposes, isBody.isPlain, next]
    rfl
  rw [exposed_cons rfl, exposed, exposedFrom_append, exposedFrom, shown,
    if_pos rfl, next]
  rfl

/-- What is exposed of a text stands apart if the text does. -/
theorem apart_exposed {text : List Char} (apart : Apart text) :
    Apart (exposed text) := by
  cases text with
  | nil => rfl
  | cons character rest =>
      rw [exposed, exposedFrom]
      split
      · exact apart
      · rfl

/-! ## The first statement -/

/-- Plain text up to the end of its first statement. -/
def firstStatement (text : List Char) : List Char :=
  text.takeWhile (· != ';')

theorem firstStatement_append
    {front : List Char} (within : ';' ∉ front) (back : List Char) :
    firstStatement (front ++ back) = front ++ firstStatement back := by
  apply List.takeWhile_append_of_pos
  intro character member
  rw [bne_iff_ne]
  rintro rfl
  exact within member

theorem firstStatement_cons
    {character : Char} (other : character ≠ ';') (rest : List Char) :
    firstStatement (character :: rest) = character :: firstStatement rest :=
  List.takeWhile_cons_of_pos (bne_iff_ne.2 other)

theorem apart_firstStatement {text : List Char} (apart : Apart text) :
    Apart (firstStatement text) := by
  cases text with
  | nil => rfl
  | cons character rest =>
      by_cases ends : character = ';'
      · rw [ends]
        rfl
      · rw [firstStatement_cons ends]
        exact apart

theorem exists_splitOn (text : List Char) :
    ∃ later, text.splitOn ';' = firstStatement text :: later := by
  induction text with
  | nil => exact ⟨[], rfl⟩
  | cons character rest induction =>
      by_cases ends : character = ';'
      · subst ends
        exact ⟨_, List.splitOnP_append_cons [] rest rfl⟩
      · have within : ';' ∉ [character] := by
          rw [List.mem_singleton]
          exact Ne.symm ends
        rcases induction with ⟨later, split⟩
        rcases splitOn_append_of_not_mem within rest with
          ⟨first, others, splitRest, whole⟩
        rw [split] at splitRest
        cases splitRest
        exact ⟨later, by rw [firstStatement_cons ends]; exact whole⟩

/-- The words up to the first semicolon are those of the first statement. -/
theorem head?_statementWords
    {sql : String} {words : List Word}
    (read : wordsOf (firstStatement (exposed sql.toList)) = words)
    (nonempty : words ≠ []) :
    (statementWords sql).head? = some words := by
  rcases exists_splitOn (exposed sql.toList) with ⟨later, split⟩
  rw [statementWords, split, List.map_cons, read, List.filter_cons_of_pos]
  · rfl
  · simpa using nonempty

/-! ## Words of lexemes -/

/--
Words that are read at a depth in a text that begins with some lexemes.  Those
of a group lie deeper, and behind the lexemes there may be any words.
-/
inductive Voiced : Nat → List Lexeme → List Word → Prop where
  | anything (depth : Nat) (words : List Word) : Voiced depth [] words
  | opening {depth : Nat} {lexemes : List Lexeme} {words : List Word} :
      Voiced (depth + 1) lexemes words →
        Voiced depth (.opening :: lexemes) words
  | word {depth : Nat} {lexemes : List Lexeme} {words : List Word}
      (text : String) :
      Voiced depth lexemes words →
        Voiced depth (.word text :: lexemes) (⟨text, depth⟩ :: words)
  | name {depth : Nat} {lexemes : List Lexeme} {words : List Word} :
      Voiced depth lexemes words → Voiced depth (.name :: lexemes) words
  | group {depth : Nat} {lexemes : List Lexeme} {inner words : List Word} :
      (∀ word ∈ inner, depth < word.depth) → Voiced depth lexemes words →
        Voiced depth (.group :: lexemes) (inner ++ words)
  | comma {depth : Nat} {lexemes : List Lexeme} {words : List Word} :
      Voiced depth lexemes words → Voiced depth (.comma :: lexemes) words

/-- The words of the first statement, from some depth on. -/
def firstWordsFrom (depth : Nat) (text : List Char) : List Word :=
  wordsFrom depth [] (firstStatement (exposed text))

/-- Idle text in front makes no difference to the words. -/
theorem firstWordsFrom_of_idle
    {front text idle : List Char} (isIdle : Idle idle)
    (shown : exposed (front ++ text) = idle ++ exposed text) (depth : Nat) :
    firstWordsFrom depth (front ++ text) = firstWordsFrom depth text := by
  rw [firstWordsFrom, shown, firstStatement_append isIdle.within,
    wordsFrom_of_isIdle depth isIdle.each]
  rfl

theorem firstWordsFrom_of_region
    {kind : RegionKind} {region text : List Char}
    (complete : Region kind region) (ended : kind.EndsBefore text)
    (depth : Nat) :
    firstWordsFrom depth (region ++ text) = firstWordsFrom depth text := by
  rcases exists_exposed_region complete ended with ⟨idle, isIdle, shown⟩
  exact firstWordsFrom_of_idle isIdle shown depth

theorem firstWordsFrom_of_isIdle
    {character : Char} (neutral : isNeutral character = true)
    (isIdle : isIdle character = true) (depth : Nat) (text : List Char) :
    firstWordsFrom depth (character :: text) = firstWordsFrom depth text := by
  have idle : Idle [character] :=
    ⟨List.cons_ne_nil _ _, List.forall_mem_singleton.2 isIdle⟩
  have shown : exposed ([character] ++ text) = [character] ++ exposed text :=
    exposed_cons neutral text
  exact firstWordsFrom_of_idle idle shown depth

theorem firstWordsFrom_opening (depth : Nat) (text : List Char) :
    firstWordsFrom depth ('(' :: text) = firstWordsFrom (depth + 1) text := by
  rw [firstWordsFrom, exposed_cons rfl, firstStatement_cons (by decide)]
  rfl

theorem firstWordsFrom_word
    {word : String} (nonempty : word.toList ≠ [])
    (inWord : word.toList.all isWordChar = true) {text : List Char}
    (apart : Apart text) (depth : Nat) :
    firstWordsFrom depth (word.toList ++ text) =
      ⟨Text.upper word, depth⟩ :: firstWordsFrom depth text := by
  have within : ';' ∉ word.toList := by
    intro member
    exact absurd (List.all_eq_true.1 inWord ';' member) (by decide)
  rw [firstWordsFrom, exposed_keyword inWord, firstStatement_append within,
    wordsFrom_word depth nonempty inWord
      (apart_firstStatement (apart_exposed apart))]
  rfl

theorem firstWordsFrom_group
    {body : List Char} (isBody : Body body) (depth : Nat) (text : List Char) :
    ∃ inner : List Word,
      (∀ word ∈ inner, depth < word.depth) ∧
        firstWordsFrom depth ('(' :: (body ++ ')' :: text)) =
          inner ++ firstWordsFrom depth text := by
  have balanced := isBody.balanced.depth (depth + 1)
  refine ⟨wordsFrom (depth + 1) [] (exposed body), balanced.2, ?_⟩
  rw [firstWordsFrom, exposed_group isBody, firstStatement_cons (by decide),
    firstStatement_append isBody.within, firstStatement_cons (by decide)]
  have apart : Apart (')' :: firstStatement (exposed text)) := rfl
  have split := wordsFrom_append (depth + 1) [] (exposed body) apart
  rw [balanced.1] at split
  exact split

/-- The words of a text are those of the lexemes that it begins with. -/
theorem Begins.voiced
    {lexemes : List Lexeme} {text : List Char}
    (begins : Begins lexemes text) (depth : Nat) :
    Voiced depth lexemes (firstWordsFrom depth text) := by
  induction begins generalizing depth with
  | anything text => exact .anything depth _
  | @blank lexemes character text blank _ induction =>
      have spec := spec_of_isBlankChar blank
      rw [firstWordsFrom_of_isIdle spec.1 spec.2]
      exact induction depth
  | lineComment complete _ induction =>
      rw [firstWordsFrom_of_region complete trivial]
      exact induction depth
  | blockComment complete _ induction =>
      rw [firstWordsFrom_of_region complete trivial]
      exact induction depth
  | opening _ induction =>
      rw [firstWordsFrom_opening]
      exact .opening (induction (depth + 1))
  | word nonempty inWord upper apart _ induction =>
      rw [firstWordsFrom_word nonempty inWord apart, upper]
      exact .word _ (induction depth)
  | name _ complete ended _ induction =>
      rw [firstWordsFrom_of_region complete ended]
      exact .name (induction depth)
  | group isBody _ induction =>
      rcases firstWordsFrom_group isBody depth _ with ⟨inner, deeper, same⟩
      rw [same]
      exact .group deeper (induction depth)
  | comma _ induction =>
      rw [firstWordsFrom_of_isIdle rfl rfl]
      exact .comma (induction depth)

end Sqlwright.Lexical
