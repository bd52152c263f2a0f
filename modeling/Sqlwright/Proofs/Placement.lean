import Sqlwright.Lexical.Routing
import Sqlwright.Proofs.Wording

/-!
# Where placeholders may stand

A driver decides by the words of a statement with `?` whether it will be
answered with rows, and sends the statement with numbers in their place.  A
placeholder is no part of a word, and its number is, so the two texts can have
different words.  That is a hazard in three places: right behind a keyword or
right in front of one, since the keyword is lost in a longer word, and in front
of all words of a statement, where the number becomes the first word.

Without hazards the two texts have the same keywords, and one begins with a
keyword if the other does; the decision depends on nothing else.  With any
hazard it can go wrong.
-/

namespace Sqlwright.Lexical

open Sqlwright.Weaving

/-! ## Keywords -/

/-- The words that have a part in the decision. -/
def keywords : List String :=
  ["WITH", "SELECT", "INSERT", "UPDATE", "DELETE", "MERGE", "REPLACE",
    "VALUES", "TABLE", "EXEC", "EXECUTE", "OUTPUT", "INTO"]

/-- Whether a word is one of the keywords. -/
def Word.isKeyword (word : Word) : Bool :=
  keywords.contains word.text

/-- The word that some characters are, outside all parentheses. -/
def Word.of (characters : List Char) : Word :=
  ⟨String.ofList (characters.map Char.toUpper), 0⟩

/-- Whether some words begin with a keyword. -/
def opensWithKeyword (words : List Word) : Bool :=
  words.head?.any Word.isKeyword

theorem isKeyword_of_text
    {word : Word} {keyword : String} (same : word.text = keyword)
    (listed : keyword ∈ keywords) : word.isKeyword = true := by
  rw [Word.isKeyword, same]
  exact List.contains_iff_mem.2 listed

/-! ## The decision depends on keywords -/

theorem outputsToClient_filter (words : List Word) :
    outputsToClient (words.filter Word.isKeyword) = outputsToClient words := by
  induction words with
  | nil => rfl
  | cons word rest induction =>
      by_cases output : word.text = "OUTPUT"
      · have into (other : Word) :
            (other.isKeyword && other.text == "INTO") =
              (other.text == "INTO") := by
          cases same : other.text == "INTO" with
          | false => exact Bool.and_false _
          | true =>
              rw [isKeyword_of_text (beq_iff_eq.1 same) (by decide)]
              rfl
        rw [List.filter_cons_of_pos (isKeyword_of_text output (by decide)),
          outputsToClient_cons, outputsToClient_cons, if_pos output,
          if_pos output, List.any_filter]
        simp only [into]
      · rw [outputsToClient_cons, if_neg output, ← induction, List.filter_cons]
        split
        · rw [outputsToClient_cons, if_neg output]
        · rfl

theorem mainVerb?_filter (first : Word) (rest : List Word) :
    mainVerb? (first :: rest.filter Word.isKeyword) =
      mainVerb? (first :: rest) := by
  have verb (word : Word) :
      (word.isKeyword &&
          (word.depth == first.depth && verbs.contains word.text)) =
        (word.depth == first.depth && verbs.contains word.text) := by
    cases known : verbs.contains word.text with
    | false => rw [Bool.and_false, Bool.and_false]
    | true =>
        have listed : ∀ text ∈ verbs, text ∈ keywords := by decide
        rw [isKeyword_of_text rfl (listed _ (List.contains_iff_mem.1 known))]
        rfl
  rw [mainVerb?, mainVerb?, List.find?_filter]
  simp only [Bool.decide_and, Bool.decide_eq_true, verb]

/-- Only keywords decide, and only if one of them comes first. -/
theorem answersRows_eq (words : List Word) :
    answersRows words =
      (opensWithKeyword words &&
        answersRows (words.filter Word.isKeyword)) := by
  cases words with
  | nil => rfl
  | cons first rest =>
      show _ = (first.isKeyword && _)
      cases isKeyword : first.isKeyword with
      | true =>
          have outputs := outputsToClient_filter (first :: rest)
          rw [List.filter_cons_of_pos isKeyword] at outputs ⊢
          rw [Bool.true_and, answersRows, answersRows, outputs,
            mainVerb?_filter]
      | false =>
          have other (keyword : String) (listed : keyword ∈ keywords) :
              first.text ≠ keyword := by
            intro same
            rw [isKeyword_of_text same listed] at isKeyword
            cases isKeyword
          have verb : mainVerb? (first :: rest) = some first.text := by
            rw [mainVerb?, if_neg (other "WITH" (by decide))]
          have answering : answeringVerbs.contains first.text = false := by
            rw [← Bool.not_eq_true, List.contains_iff_mem]
            intro member
            have listed : ∀ text ∈ answeringVerbs, text ∈ keywords := by decide
            exact other _ (listed _ member) rfl
          have changing : changingVerbs.contains first.text = false := by
            rw [← Bool.not_eq_true, List.contains_iff_mem]
            intro member
            have listed : ∀ text ∈ changingVerbs, text ∈ keywords := by decide
            exact other _ (listed _ member) rfl
          rw [answersRows, verb]
          simp only [answering, changing]
          rfl

/-- Words with the same keywords that begin alike are decided alike. -/
theorem answersRows_congr
    {left right : List Word}
    (opens : opensWithKeyword left = opensWithKeyword right)
    (same : left.filter Word.isKeyword = right.filter Word.isKeyword) :
    answersRows left = answersRows right := by
  rw [answersRows_eq left, answersRows_eq right, opens, same]

/-! ## Hazards -/

/-- A place in which the number of a placeholder changes what is decided. -/
inductive Hazard where
  /-- Apart from all words, in front of the first word of a statement. -/
  | leading
  /-- Right behind or right in front of a keyword. -/
  | glued (keyword : String)
  deriving DecidableEq

/-- The keyword that some characters are. -/
def keyword? (characters : List Char) : Option String :=
  if (Word.of characters).isKeyword then some (Word.of characters).text
  else none

/--
The hazards of a placeholder between the word characters `left` and `right`, in
a statement in which a word has been read before if `led` holds.
-/
def hazardsAt (led : Bool) (left right : List Char) : List Hazard :=
  ((keyword? left).map Hazard.glued).toList ++
    ((keyword? right).map Hazard.glued).toList ++
    if led || !left.isEmpty || !right.isEmpty then [] else [.leading]

/--
The hazards of a statement in plain text, of which the characters `reversed`
of the current word have been read.
-/
def hazardsFrom (led : Bool) (reversed : List Char) : List Char → List Hazard
  | [] => []
  | character :: rest =>
      if character = '?' then
        hazardsAt led reversed.reverse (rest.takeWhile isWordChar) ++
          hazardsFrom (led || !reversed.isEmpty) [] rest
      else if isWordChar character then
        hazardsFrom led (character :: reversed) rest
      else
        hazardsFrom (led || !reversed.isEmpty) [] rest

/-- The hazards of all statements of a text. -/
def hazards (sql : String) : List Hazard :=
  ((exposed sql.toList).splitOn ';').flatMap (hazardsFrom false [])

theorem hazardsAt_eq_nil_iff (led : Bool) (left right : List Char) :
    hazardsAt led left right = [] ↔
      (Word.of left).isKeyword = false ∧ (Word.of right).isKeyword = false ∧
        (led = true ∨ left ≠ [] ∨ right ≠ []) := by
  have option (characters : List Char) :
      ((keyword? characters).map Hazard.glued).toList = [] ↔
        (Word.of characters).isKeyword = false := by
    unfold keyword?
    cases (Word.of characters).isKeyword with
    | true => simp
    | false => simp
  rw [hazardsAt, List.append_eq_nil_iff, List.append_eq_nil_iff, option,
    option, and_assoc]
  cases led <;> cases left <;> cases right <;> simp

/-! ## Numbered text -/

/-- Plain text with marks of numbers in place of its placeholders. -/
inductive Filled (style : NumberStyle) : List Char → List Char → Prop where
  | nil : Filled style [] []
  | placeholder (number : Nat) {text filled : List Char} :
      Filled style text filled →
        Filled style ('?' :: text) (style.mark number ++ filled)
  | other {character : Char} {text filled : List Char} :
      character ≠ '?' → Filled style text filled →
        Filled style (character :: text) (character :: filled)

/-- What stands in front of a number, and in no keyword. -/
def isSign (character : Char) : Bool :=
  character == '@' || character == '$'

theorem isWordChar_of_isDigit
    {character : Char} (digit : character.isDigit = true) :
    isWordChar character = true := by
  simp [isWordChar, Char.isAlphanum, digit]

/-- The mark of a number is part of a word and has a sign. -/
theorem mark_spec (style : NumberStyle) (number : Nat) :
    (∀ character ∈ style.mark number, isWordChar character = true) ∧
      ∃ character ∈ style.mark number, isSign character = true := by
  have digits :
      ∀ character ∈ Nat.toDigits 10 number, isWordChar character = true := by
    intro character member
    exact
      isWordChar_of_isDigit
        (List.all_eq_true.1 (Text.digits_toDigits number).each character member)
  have sign : ∀ character ∈ style.sign, isWordChar character = true := by
    apply List.all_eq_true.1
    cases style <;> rfl
  rw [NumberStyle.mark]
  refine ⟨List.forall_mem_append.2 ⟨sign, digits⟩, ?_⟩
  cases style with
  | atP => exact ⟨'@', List.mem_append_left _ List.mem_cons_self, rfl⟩
  | dollar => exact ⟨'$', List.mem_append_left _ List.mem_cons_self, rfl⟩

/-- With a mark no region begins and none ends. -/
theorem neutral_mark (style : NumberStyle) (number : Nat) :
    (style.mark number).all isNeutral = true ∧ style.mark number ≠ [] := by
  constructor
  · rw [List.all_eq_true]
    intro character member
    exact
      isNeutral_of_isWordChar ((mark_spec style number).1 character member)
  · rcases (mark_spec style number).2 with ⟨character, member, -⟩
    exact List.ne_nil_of_mem member

theorem isKeyword_eq_false_of_sign
    {characters : List Char}
    (signed : ∃ character ∈ characters, isSign character = true) :
    (Word.of characters).isKeyword = false := by
  rcases signed with ⟨character, member, sign⟩
  have upper : character.toUpper = character := by
    simp only [isSign, Bool.or_eq_true, beq_iff_eq] at sign
    rcases sign with rfl | rfl <;> rfl
  have unsigned :
      ∀ keyword ∈ keywords, keyword.toList.any isSign = false := by
    decide
  rw [Word.isKeyword, ← Bool.not_eq_true, List.contains_iff_mem]
  intro listed
  have inside :
      character ∈
        (String.ofList (characters.map Char.toUpper)).toList := by
    rw [String.toList_ofList, List.mem_map]
    exact ⟨character, member, upper⟩
  exact List.any_eq_false.1 (unsigned _ listed) character inside sign

/-- Numbering replaces the placeholders that are exposed. -/
theorem filled_numberFrom
    (style : NumberStyle) (mode : Mode) (number : Nat) (text : List Char) :
    Filled style (exposedFrom mode text)
      (exposedFrom mode (numberFrom style mode number text)) := by
  induction text generalizing mode number with
  | nil => exact .nil
  | cons character rest induction =>
      have others (number : Nat) := induction (mode.next character) number
      rw [numberFrom]
      split
      · rename_i placeholder
        simp only [Bool.and_eq_true, beq_iff_eq] at placeholder
        rcases placeholder with ⟨isPlain, rfl⟩
        rcases neutral_mark style number with ⟨neutral, nonempty⟩
        have next : mode.next '?' = .plain := next_of_isNeutral isPlain rfl
        have shown : mode.exposes '?' = true := by
          rw [Mode.exposes, isPlain, next]
          rfl
        rw [next] at others ⊢
        rw [exposedFrom, shown, if_pos rfl, next, exposedFrom_append,
          exposedFrom_neutral isPlain neutral,
          (read_neutral isPlain neutral).1 nonempty]
        exact .placeholder number (others (number + 1))
      · rename_i noPlaceholder
        rw [exposedFrom, exposedFrom]
        refine .other ?_ (others number)
        split
        · rename_i shown
          rintro rfl
          rw [Mode.exposes, Bool.and_eq_true] at shown
          exact noPlaceholder (by rw [shown.1]; rfl)
        · decide

/-- Marks are part of words, so both texts have their semicolons in common. -/
theorem Filled.splitOn
    {style : NumberStyle} {text filled : List Char}
    (fills : Filled style text filled) :
    List.Forall₂ (Filled style) (text.splitOn ';') (filled.splitOn ';') := by
  induction fills with
  | nil => exact .cons .nil .nil
  | @placeholder number text filled _ induction =>
      have within : ';' ∉ style.mark number := by
        intro member
        exact absurd ((mark_spec style number).1 ';' member) (by decide)
      have mark : ';' ∉ ['?'] := by decide
      rcases splitOn_append_of_not_mem mark text with
        ⟨first, others, split, whole⟩
      rcases splitOn_append_of_not_mem within filled with
        ⟨firstFilled, othersFilled, splitFilled, wholeFilled⟩
      rw [split, splitFilled] at induction
      rw [List.singleton_append] at whole
      rw [whole, wholeFilled]
      cases induction with
      | cons head tail => exact .cons (.placeholder number head) tail
  | @other character text filled noPlaceholder _ induction =>
      by_cases separates : character = ';'
      · have parted (text : List Char) :
            (';' :: text).splitOn ';' = [] :: text.splitOn ';' :=
          List.splitOnP_append_cons [] text rfl
        rw [separates, parted, parted]
        exact .cons .nil induction
      · have within : ';' ∉ [character] := by
          rw [List.mem_singleton]
          exact Ne.symm separates
        rcases splitOn_append_of_not_mem within text with
          ⟨first, others, split, whole⟩
        rcases splitOn_append_of_not_mem within filled with
          ⟨firstFilled, othersFilled, splitFilled, wholeFilled⟩
        rw [split, splitFilled] at induction
        rw [List.singleton_append] at whole wholeFilled
        rw [whole, wholeFilled]
        cases induction with
        | cons head tail => exact .cons (.other noPlaceholder head) tail

/-! ## Words of numbered text -/

theorem filter_finishWord
    (depth : Nat) {reversed : List Char}
    (silent : (Word.of reversed.reverse).isKeyword = false) :
    (finishWord depth reversed).filter Word.isKeyword = [] := by
  unfold finishWord
  split
  · rfl
  · exact List.filter_cons_of_neg (Bool.eq_false_iff.1 silent)

/-- A word that has been begun is finished by what goes on with it. -/
theorem head?_wordsFrom
    (depth : Nat) (reversed text : List Char)
    (begun : reversed ≠ [] ∨ text.takeWhile isWordChar ≠ []) :
    (wordsFrom depth reversed text).head? =
      some
        ⟨(Word.of (reversed.reverse ++ text.takeWhile isWordChar)).text,
          depth⟩ := by
  induction text generalizing reversed with
  | nil =>
      have nonempty : reversed ≠ [] := by
        rcases begun with nonempty | nothing
        · exact nonempty
        · exact absurd rfl nothing
      simp [wordsFrom, finishWord, nonempty, Word.of]
  | cons character rest induction =>
      rw [wordsFrom]
      split
      · rename_i inWord
        rw [induction _ (.inl (List.cons_ne_nil _ _)),
          List.takeWhile_cons_of_pos inWord, List.reverse_cons,
          List.append_assoc, List.singleton_append]
      · rename_i outside
        have nonempty : reversed ≠ [] := by
          rcases begun with nonempty | nothing
          · exact nonempty
          · rw [List.takeWhile_cons_of_neg outside] at nothing
            exact absurd rfl nothing
        rw [List.takeWhile_cons_of_neg outside, List.append_nil]
        simp [finishWord, nonempty, Word.of]

/--
The characters of the current word on both sides: the same ones, or there has
been a placeholder and what is left of the word is no keyword.
-/
inductive Beside (ahead : List Char) : List Char → List Char → Prop where
  | same (reversed : List Char) : Beside ahead reversed reversed
  | marked {left right : List Char} :
      (∃ character ∈ right, isSign character = true) →
        (Word.of (left.reverse ++ ahead)).isKeyword = false →
          Beside ahead left right

theorem Beside.filter_finishWord
    (depth : Nat) {left right : List Char} (beside : Beside [] left right) :
    (finishWord depth left).filter Word.isKeyword =
      (finishWord depth right).filter Word.isKeyword := by
  cases beside with
  | same => rfl
  | marked signed silent =>
      rcases signed with ⟨character, member, sign⟩
      have marked : ∃ character ∈ right.reverse, isSign character = true :=
        ⟨character, List.mem_reverse.2 member, sign⟩
      rw [List.append_nil] at silent
      rw [Lexical.filter_finishWord depth silent,
        Lexical.filter_finishWord depth (isKeyword_eq_false_of_sign marked)]

/-- What a statement without hazards has at a placeholder. -/
theorem safe_placeholder
    {led : Bool} {reversed text : List Char}
    (safe : hazardsFrom led reversed ('?' :: text) = []) :
    (Word.of reversed.reverse).isKeyword = false ∧
      (Word.of (text.takeWhile isWordChar)).isKeyword = false ∧
      (led = true ∨ reversed ≠ [] ∨ text.takeWhile isWordChar ≠ []) ∧
      hazardsFrom (led || !reversed.isEmpty) [] text = [] := by
  rw [hazardsFrom, if_pos rfl, List.append_eq_nil_iff,
    hazardsAt_eq_nil_iff] at safe
  rcases safe with ⟨⟨left, right, led⟩, others⟩
  rw [ne_eq, List.reverse_eq_nil_iff] at led
  exact ⟨left, right, led, others⟩

/-- Without hazards numbering keeps the keywords of a statement. -/
theorem Filled.filter_wordsFrom
    {style : NumberStyle} {text filled : List Char}
    (fills : Filled style text filled) (depth : Nat) (led : Bool)
    {left right : List Char}
    (beside : Beside (text.takeWhile isWordChar) left right)
    (safe : hazardsFrom led left text = []) :
    (wordsFrom depth left text).filter Word.isKeyword =
      (wordsFrom depth right filled).filter Word.isKeyword := by
  induction fills generalizing depth led left right with
  | nil => exact beside.filter_finishWord depth
  | @placeholder number text filled _ induction =>
      rcases safe_placeholder safe with ⟨behind, before, -, others⟩
      rcases mark_spec style number with ⟨inWord, character, member, sign⟩
      have outside : ¬ isWordChar '?' = true := by decide
      have signed :
          ∃ character ∈ (style.mark number).reverse ++ right,
            isSign character = true :=
        ⟨character, List.mem_append_left _ (List.mem_reverse.2 member), sign⟩
      have beside :
          Beside (text.takeWhile isWordChar) []
            ((style.mark number).reverse ++ right) :=
        .marked signed before
      have rest := induction (depthAfter depth '?') _ beside others
      rw [wordsFrom, if_neg outside, List.filter_append,
        Lexical.filter_finishWord depth behind, List.nil_append, rest,
        wordsFrom_wordChars depth right inWord]
      rfl
  | @other character text filled noPlaceholder _ induction =>
      rw [hazardsFrom, if_neg noPlaceholder] at safe
      rw [wordsFrom, wordsFrom]
      by_cases inWord : isWordChar character = true
      · rw [if_pos inWord] at safe
        rw [if_pos inWord, if_pos inWord]
        rw [List.takeWhile_cons_of_pos inWord] at beside
        refine induction depth led ?_ safe
        cases beside with
        | same => exact .same _
        | marked signed silent =>
            rcases signed with ⟨sign, member, isSigned⟩
            refine .marked ⟨sign, List.mem_cons_of_mem _ member, isSigned⟩ ?_
            rw [List.reverse_cons, List.append_assoc, List.singleton_append]
            exact silent
      · rw [if_neg inWord] at safe
        rw [List.takeWhile_cons_of_neg inWord] at beside
        rw [if_neg inWord, if_neg inWord, List.filter_append,
          List.filter_append, beside.filter_finishWord depth,
          induction _ _ (.same []) safe]

/-- Words begin with no keyword if the word that has been begun is none. -/
theorem opensWithKeyword_eq_false
    (depth : Nat) {reversed text : List Char}
    (begun : reversed ≠ [] ∨ text.takeWhile isWordChar ≠ [])
    (silent :
      (Word.of (reversed.reverse ++ text.takeWhile isWordChar)).isKeyword =
        false) :
    opensWithKeyword (wordsFrom depth reversed text) = false := by
  rw [opensWithKeyword, head?_wordsFrom depth reversed text begun]
  exact silent

/-- Without hazards numbering keeps what a statement begins with. -/
theorem Filled.opensWithKeyword_wordsFrom
    {style : NumberStyle} {text filled : List Char}
    (fills : Filled style text filled) (depth : Nat) {reversed : List Char}
    (safe : hazardsFrom false reversed text = []) :
    opensWithKeyword (wordsFrom depth reversed text) =
      opensWithKeyword (wordsFrom depth reversed filled) := by
  induction fills generalizing depth reversed with
  | nil => rfl
  | @placeholder number text filled _ induction =>
      rcases safe_placeholder safe with ⟨behind, before, touched, -⟩
      rcases mark_spec style number with ⟨inWord, character, member, sign⟩
      have outside : ¬ isWordChar '?' = true := by decide
      have original :
          opensWithKeyword (wordsFrom depth reversed ('?' :: text)) =
            false := by
        by_cases nothing : reversed = []
        · have ahead : text.takeWhile isWordChar ≠ [] := by
            rcases touched with led | something | ahead
            · cases led
            · exact absurd nothing something
            · exact ahead
          rw [nothing, wordsFrom, if_neg outside]
          exact opensWithKeyword_eq_false depth (.inr ahead) before
        · refine opensWithKeyword_eq_false depth (.inl nothing) ?_
          rw [List.takeWhile_cons_of_neg outside, List.append_nil]
          exact behind
      have inside :
          character ∈ (style.mark number).reverse ++ reversed :=
        List.mem_append_left _ (List.mem_reverse.2 member)
      have numbered :
          opensWithKeyword
              (wordsFrom depth reversed (style.mark number ++ filled)) =
            false := by
        rw [wordsFrom_wordChars depth reversed inWord]
        apply opensWithKeyword_eq_false depth
        · exact .inl (List.ne_nil_of_mem inside)
        · apply isKeyword_eq_false_of_sign
          exact
            ⟨character, List.mem_append_left _ (List.mem_reverse.2 inside),
              sign⟩
      rw [original, numbered]
  | @other character text filled noPlaceholder _ induction =>
      rw [hazardsFrom, if_neg noPlaceholder] at safe
      rw [wordsFrom, wordsFrom]
      by_cases inWord : isWordChar character = true
      · rw [if_pos inWord] at safe
        rw [if_pos inWord, if_pos inWord]
        exact induction depth safe
      · rw [if_neg inWord] at safe
        rw [if_neg inWord, if_neg inWord]
        cases reversed with
        | nil => exact induction (depthAfter depth character) safe
        | cons first reversed => rfl

/-! ## The decision about a text -/

theorem any_statementsOf (text : List Char) :
    (statementsOf text).any answersRows =
      (text.splitOn ';').any fun statement =>
        answersRows (wordsOf statement) := by
  have nothing (words : List Word) :
      (!words.isEmpty && answersRows words) = answersRows words := by
    cases words <;> rfl
  rw [statementsOf, List.any_filter]
  simp only [nothing, List.any_map]
  rfl

/-- Without hazards in any of them, numbered statements are decided alike. -/
theorem any_answersRows
    {style : NumberStyle} {statements numbered : List (List Char)}
    (pairs : List.Forall₂ (Filled style) statements numbered)
    (safe : statements.flatMap (hazardsFrom false []) = []) :
    (numbered.any fun statement => answersRows (wordsOf statement)) =
      statements.any fun statement => answersRows (wordsOf statement) := by
  induction pairs with
  | nil => rfl
  | @cons statement filled statements numbered fills _ induction =>
      rw [List.flatMap_cons, List.append_eq_nil_iff] at safe
      have same :
          answersRows (wordsOf statement) = answersRows (wordsOf filled) :=
        answersRows_congr (fills.opensWithKeyword_wordsFrom 0 safe.1)
          (fills.filter_wordsFrom 0 false (.same []) safe.1)
      rw [List.any_cons, List.any_cons, induction safe.2, same]

/-- A statement without hazards is decided as its numbered text is. -/
theorem returnsRows_number_of_safe
    (style : NumberStyle) {sql : String} (safe : hazards sql = []) :
    returnsRows (number style sql) = returnsRows sql := by
  have fills := (filled_numberFrom style .plain 1 sql.toList).splitOn
  rw [returnsRows, returnsRows, statementWords_eq, statementWords_eq,
    any_statementsOf, any_statementsOf, number, String.toList_ofList]
  exact any_answersRows fills safe

/-! ## Every hazard is one -/

/-- What a hazard can be. -/
def everyHazard : List Hazard :=
  .leading :: keywords.map Hazard.glued

theorem mem_everyHazard_of_mem_hazardsAt
    {led : Bool} {left right : List Char} {hazard : Hazard}
    (member : hazard ∈ hazardsAt led left right) : hazard ∈ everyHazard := by
  have glued {characters : List Char}
      (found : hazard ∈ ((keyword? characters).map Hazard.glued).toList) :
      hazard ∈ everyHazard := by
    unfold keyword? at found
    split at found
    · rename_i isKeyword
      rw [List.mem_singleton.1 found]
      exact
        List.mem_cons_of_mem _
          (List.mem_map_of_mem (List.contains_iff_mem.1 isKeyword))
    · cases found
  rw [hazardsAt, List.mem_append, List.mem_append] at member
  rcases member with (found | found) | isLeading
  · exact glued found
  · exact glued found
  · split at isLeading
    · cases isLeading
    · rw [List.mem_singleton.1 isLeading]
      exact List.mem_cons_self

theorem mem_everyHazard_of_mem_hazardsFrom
    {led : Bool} {reversed text : List Char} {hazard : Hazard}
    (member : hazard ∈ hazardsFrom led reversed text) :
    hazard ∈ everyHazard := by
  induction text generalizing led reversed with
  | nil => cases member
  | cons character rest induction =>
      rw [hazardsFrom] at member
      split at member
      · rcases List.mem_append.1 member with here | later
        · exact mem_everyHazard_of_mem_hazardsAt here
        · exact induction later
      · split at member <;> exact induction member

/-- For every hazard a text of which it is the only one. -/
def hazardTexts : List (Hazard × String) :=
  [(.leading, "? SELECT"),
    (.glued "WITH", "WITH? SELECT"),
    (.glued "SELECT", "SELECT?"),
    (.glued "INSERT", "?INSERT OUTPUT"),
    (.glued "UPDATE", "?UPDATE OUTPUT"),
    (.glued "DELETE", "?DELETE OUTPUT"),
    (.glued "MERGE", "?MERGE OUTPUT"),
    (.glued "REPLACE", "WITH REPLACE? SELECT"),
    (.glued "VALUES", "VALUES?"),
    (.glued "TABLE", "WITH TABLE? SELECT"),
    (.glued "EXEC", "EXEC?"),
    (.glued "EXECUTE", "EXECUTE?"),
    (.glued "OUTPUT", "INSERT OUTPUT?"),
    (.glued "INTO", "INSERT OUTPUT ?INTO")]

theorem hazards_of_mem_hazardTexts :
    ∀ entry ∈ hazardTexts, hazards entry.2 = [entry.1] := by
  decide +kernel

/-- The texts are decided in one way, and with numbers in the other. -/
theorem returnsRows_number_of_mem_hazardTexts (style : NumberStyle) :
    ∀ entry ∈ hazardTexts,
      returnsRows (number style entry.2) ≠ returnsRows entry.2 := by
  cases style <;> decide +kernel

theorem exists_text_of_hazard
    (style : NumberStyle) {hazard : Hazard} (listed : hazard ∈ everyHazard) :
    ∃ sql, hazards sql = [hazard] ∧
      returnsRows (number style sql) ≠ returnsRows sql := by
  have texts : hazardTexts.map Prod.fst = everyHazard := rfl
  rw [← texts] at listed
  rcases List.mem_map.1 listed with ⟨entry, member, rfl⟩
  exact
    ⟨entry.2, hazards_of_mem_hazardTexts entry member,
      returnsRows_number_of_mem_hazardTexts style entry member⟩

/--
Statements whose placeholders stand in allowed places only are decided as their
numbered texts are exactly if no placeholder may touch a keyword, and none may
stand apart from all words in front of the first one of its statement.
-/
theorem returnsRows_number_iff
    (style : NumberStyle) (allowed : Hazard → Prop) :
    (∀ sql, (∀ hazard ∈ hazards sql, allowed hazard) →
      returnsRows (number style sql) = returnsRows sql) ↔
      ¬ allowed .leading ∧
        ∀ keyword ∈ keywords, ¬ allowed (.glued keyword) := by
  have every :
      (¬ allowed .leading ∧
          ∀ keyword ∈ keywords, ¬ allowed (.glued keyword)) ↔
        ∀ hazard ∈ everyHazard, ¬ allowed hazard := by
    rw [everyHazard, List.forall_mem_cons, List.forall_mem_map]
  rw [every]
  constructor
  · intro agrees hazard listed isAllowed
    rcases exists_text_of_hazard style listed with ⟨sql, only, differs⟩
    apply differs
    apply agrees
    rw [only, List.forall_mem_singleton]
    exact isAllowed
  · intro forbidden sql allAllowed
    apply returnsRows_number_of_safe style
    rw [List.eq_nil_iff_forall_not_mem]
    intro hazard member
    rcases List.mem_flatMap.1 member with ⟨statement, -, found⟩
    exact
      forbidden hazard (mem_everyHazard_of_mem_hazardsFrom found)
        (allAllowed hazard member)

/-- Placeholders beside words, parentheses, commas and one another. -/
def crowded : String :=
  "WITH c AS (SELECT ?) SELECT a? FROM c WHERE b IN(?,??) -- ?INTO"

theorem returnsRows_number_iff_crowded :
    hazards crowded = [] ∧
      (number .atP crowded).toList.count '@' = 5 ∧
      returnsRows (number .atP crowded) = returnsRows crowded := by
  have safe : hazards crowded = [] := by decide +kernel
  refine ⟨safe, by decide +kernel, ?_⟩
  apply
    (returnsRows_number_iff .atP fun _ => False).2
      ⟨not_false, fun _ _ => not_false⟩
  rw [safe]
  exact fun _ none => absurd none List.not_mem_nil

/-- Behind the verb of a select the number makes another word of it. -/
theorem number_gluedSelect :
    number .atP "SELECT?" = "SELECT@P1" ∧ returnsRows "SELECT?" = true ∧
      returnsRows (number .atP "SELECT?") = false := by
  decide

end Sqlwright.Lexical
