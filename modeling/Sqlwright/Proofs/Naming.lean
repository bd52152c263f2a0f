import Sqlwright.Proofs.Quoting

/-!
# The quoted identifiers of a statement

A reader who looks for identifiers in a statement takes regions in quotes with
single dots between them for one identifier.  `quotedIdentifiers` gives these
texts in order.

Text is bare if it has no quotes and begins no comment.  It is cut into single
characters, so it has no quoted identifiers.  In a woven text whose sources are
bare, the quoted identifiers are exactly those that were quoted for it: glue
keeps them apart, and never begins with a dot that would go on with one.
-/

namespace Sqlwright.Lexical

open Sqlwright.Weaving

/-! ## Identifiers in a list of spans -/

/-- Whether a span is a region in quotes. -/
def isRegion (span : List Char) : Bool :=
  span.head?.any fun character => (Quotation.opened? character).isSome

/-- Whether a dot and another region in quotes go on with an identifier. -/
def goesOn : List (List Char) → Bool
  | dot :: next :: _ => dot == ['.'] && isRegion next
  | _ => false

/-- The identifiers in a list of spans. -/
def identifiersIn : List (List Char) → List (List Char)
  | [] => []
  | span :: rest =>
      if isRegion span then
        if goesOn rest then
          prefixFirst (span ++ ['.']) (identifiersIn rest)
        else
          span :: identifiersIn rest
      else
        identifiersIn rest

/-- The quoted identifiers of a statement, in order, as they are written. -/
def quotedIdentifiers (sql : String) : List String :=
  (identifiersIn (spans sql.toList)).map String.ofList

theorem identifiersIn_silent
    {front : List (List Char)}
    (silent : ∀ span ∈ front, isRegion span = false)
    (behind : List (List Char)) :
    identifiersIn (front ++ behind) = identifiersIn behind := by
  induction front with
  | nil => rfl
  | cons span rest induction =>
      rw [List.forall_mem_cons] at silent
      rw [List.cons_append, identifiersIn, silent.1, if_neg Bool.false_ne_true,
        induction silent.2]

/-- Regions with dots between them are one identifier. -/
theorem identifiersIn_dotted
    {first : List Char} {rest behind : List (List Char)}
    (regions : ∀ span ∈ first :: rest, isRegion span = true)
    (ends : behind.head? ≠ some ['.']) :
    identifiersIn (List.intersperse ['.'] (first :: rest) ++ behind) =
      List.intercalate ['.'] (first :: rest) :: identifiersIn behind := by
  induction rest generalizing first with
  | nil =>
      have stops : goesOn behind = false := by
        cases behind with
        | nil => rfl
        | cons dot behind =>
            cases behind with
            | nil => rfl
            | cons next behind =>
                have other : (dot == ['.']) = false :=
                  beq_false_of_ne fun same => ends (congrArg some same)
                rw [goesOn, other, Bool.false_and]
      rw [List.forall_mem_singleton] at regions
      rw [List.intersperse_singleton, List.singleton_append, identifiersIn,
        regions, if_pos rfl, stops, if_neg Bool.false_ne_true,
        List.intercalate_singleton]
  | cons next rest induction =>
      rw [List.forall_mem_cons] at regions
      have others := induction regions.2
      have dot : isRegion ['.'] = false := rfl
      have continued :
          goesOn
              (['.'] :: (List.intersperse ['.'] (next :: rest) ++ behind)) =
            true := by
        have region := regions.2 next List.mem_cons_self
        cases rest with
        | nil => exact region
        | cons second rest => exact region
      rw [List.intersperse_cons_cons, List.cons_append, List.cons_append,
        identifiersIn, regions.1, if_pos rfl, continued, if_pos rfl,
        identifiersIn, dot, if_neg Bool.false_ne_true, others, prefixFirst,
        List.intercalate_cons_cons, List.append_assoc]

/-! ## Spans of composed texts -/

theorem exists_spansFrom (mode : Mode) (character : Char) (rest : List Char) :
    ∃ span others, spansFrom mode (character :: rest) = span :: others := by
  apply List.exists_cons_of_ne_nil
  intro nothing
  have whole := flatten_spansFrom mode (character :: rest)
  rw [nothing] at whole
  cases whole

/-- Where nothing goes on, the spans of a text are those of its two parts. -/
theorem spansFrom_append
    (mode : Mode) {front back : List Char}
    (parted :
      front ≠ [] →
        ∀ next ∈ back.head?, (mode.after front).continues next = false) :
    spansFrom mode (front ++ back) =
      spansFrom mode front ++ spansFrom (mode.after front) back := by
  induction front generalizing mode with
  | nil => rfl
  | cons character rest induction =>
      have apart := parted (List.cons_ne_nil character rest)
      cases rest with
      | nil => exact spansFrom_parted mode character back apart
      | cons next rest =>
          have others := induction (mode.next character) fun _ => apart
          rw [List.cons_append] at others
          rw [List.cons_append, List.cons_append, Mode.after_cons]
          cases joined : (mode.next character).continues next with
          | true =>
              rcases exists_spansFrom (mode.next character) next rest with
                ⟨span, more, split⟩
              rw [spansFrom_joined mode character next _ joined,
                spansFrom_joined mode character next _ joined, others, split]
              rfl
          | false =>
              have first (behind : List Char) :
                  ∀ following ∈ (next :: behind).head?,
                    (mode.next character).continues following = false := by
                intro following same
                cases same
                exact joined
              rw [spansFrom_parted mode character _ (first _),
                spansFrom_parted mode character _ (first _), others]
              rfl

theorem spans_append
    {front back : List Char}
    (isPlain : (Mode.plain.after front).isPlain = true)
    (parted :
      ∀ next ∈ back.head?, (Mode.plain.after front).continues next = false) :
    spans (front ++ back) = spans front ++ spans back := by
  rw [spans, spansFrom_append .plain fun _ => parted,
    spansFrom_eq_spans isPlain parted]
  rfl

/-! ## Bare text -/

/-- Text without quotes and without the beginning of a comment. -/
structure Bare (text : List Char) : Prop where
  unquoted : ∀ character ∈ text, Quotation.opened? character = none
  lines : ¬ ['-', '-'] <:+: text
  blocks : ¬ ['/', '*'] <:+: text

theorem Bare.tail
    {character : Char} {rest : List Char} (bare : Bare (character :: rest)) :
    Bare rest where
  unquoted := (List.forall_mem_cons.1 bare.unquoted).2
  lines := fun inside => bare.lines (List.infix_cons inside)
  blocks := fun inside => bare.blocks (List.infix_cons inside)

theorem Bare.of_neutral
    {text : List Char} (neutral : text.all isNeutral = true) : Bare text := by
  have absent (special : Char) (listed : isNeutral special = false) :
      special ∉ text := by
    intro member
    have each := List.all_eq_true.1 neutral special member
    rw [listed] at each
    cases each
  constructor
  · intro character member
    have special := List.all_eq_true.1 neutral character member
    simp only [isNeutral, decide_eq_true_eq, List.mem_cons, List.not_mem_nil,
      or_false, not_or] at special
    simp [Quotation.opened?, special]
  · intro inside
    exact absent '-' rfl (inside.subset List.mem_cons_self)
  · intro inside
    exact absent '/' rfl (inside.subset List.mem_cons_self)

/-- Reading bare text in plain text takes each character for itself. -/
theorem Bare.readFrom
    {text : List Char} (bare : Bare text) {mode : Mode}
    (isPlain : mode.isPlain = true)
    (parted : ∀ next ∈ text.head?, mode.continues next = false) :
    spansFrom mode text = text.map (fun character => [character]) ∧
      (mode.after text).isPlain = true := by
  induction text generalizing mode with
  | nil => exact ⟨rfl, isPlain⟩
  | cons character rest induction =>
      have next := Mode.next_of_not_continues isPlain (parted character rfl)
      have unmarked :=
        Mode.next_of_unmarked (bare.unquoted character List.mem_cons_self)
          (fun inside => bare.lines inside.isInfix)
          (fun inside => bare.blocks inside.isInfix)
      rw [← next] at unmarked
      rcases unmarked with ⟨stays, apart⟩
      have others := induction bare.tail stays apart
      exact ⟨by rw [spansFrom_parted mode character rest apart, others.1]; rfl,
        others.2⟩

/-- Bare text is cut into its characters and leads back to plain text. -/
theorem Bare.read {text : List Char} (bare : Bare text) :
    spans text = text.map (fun character => [character]) ∧
      (Mode.plain.after text).isPlain = true := by
  have apart :
      ∀ next ∈ text.head?, Mode.plain.continues next = false :=
    fun _ _ => rfl
  exact bare.readFrom rfl apart

/-- The characters of bare text are no regions. -/
theorem Bare.silent {text : List Char} (bare : Bare text) :
    ∀ span ∈ text.map (fun character => [character]),
      isRegion span = false := by
  rw [List.forall_mem_map]
  intro character member
  show (Quotation.opened? character).isSome = false
  rw [bare.unquoted character member]
  rfl

/-! ## Woven texts -/

/--
Reading a text leads back to plain text, and the identifiers of the text are
given ones, whatever stands behind it unless it is a dot.
-/
structure Named (names : List (List Char)) (text : List Char) : Prop where
  isPlain : (Mode.plain.after text).isPlain = true
  identifiers :
    ∀ behind : List (List Char), behind.head? ≠ some ['.'] →
      identifiersIn (spans text ++ behind) = names ++ identifiersIn behind

theorem Named.of_bare {text : List Char} (bare : Bare text) :
    Named [] text := by
  refine ⟨bare.read.2, fun behind _ => ?_⟩
  rw [bare.read.1, identifiersIn_silent bare.silent]
  rfl

theorem Named.of_quote
    {style : QuoteStyle} {identifier quoted : String}
    (done : Identifier.quote style identifier = .ok quoted) :
    Named [quoted.toList] quoted.toList := by
  refine ⟨(settled_of_quote done).isPlain, fun behind ends => ?_⟩
  rcases (Identifier.quote_eq_ok_iff style identifier quoted).1 done with
    ⟨-, rfl⟩
  rcases Identifier.exists_segments identifier with ⟨segment, rest, split⟩
  have cut :=
    spans_names style (Identifier.segments identifier) [] (by simp)
  have regions :
      ∀ span ∈ (segment :: rest).map (Identifier.quoteSegment style),
        isRegion span = true := by
    rw [List.forall_mem_map]
    intro name _
    show (Quotation.opened? style.opening).isSome = true
    cases style <;> rfl
  rw [List.append_nil, split] at cut
  have nothing : spans [] = [] := rfl
  rw [List.map_cons] at regions
  rw [Identifier.quoteAll, String.toList_ofList, split, cut, nothing,
    List.append_nil, List.map_cons, identifiersIn_dotted regions ends]
  rfl

theorem continues_of_isNeutral
    {mode : Mode} {character : Char} (isPlain : mode.isPlain = true)
    (neutral : isNeutral character = true) :
    mode.continues character = false := by
  simp only [isNeutral, decide_eq_true_eq, List.mem_cons, List.not_mem_nil,
    or_false, not_or] at neutral
  rcases neutral with
    ⟨literal, double, backtick, opening, closing, hyphen, slash, star⟩
  cases mode with
  | plain => rfl
  | hyphen => exact beq_false_of_ne hyphen
  | slash => exact beq_false_of_ne star
  | closed quotation => cases quotation <;> exact beq_false_of_ne ‹_›
  | quoted _ | lineComment | blockComment _ | blockSlash _ | blockStar _ =>
      cases isPlain

/-- Glue keeps the identifiers on its two sides apart. -/
theorem Named.weave
    {left right : List Char} {before after : List (List Char)}
    {between : String} {holes : Nat} (first : Named before left)
    (glue : Glue between holes) (second : Named after right) :
    Named (before ++ after) (left ++ between.toList ++ right) := by
  have bare := Bare.of_neutral glue.characters
  have outside : Mode.plain.after between.toList = .plain :=
    (read_glue rfl glue).1
  have behindLeft :
      (Mode.plain.after (left ++ between.toList)) = .plain := by
    rw [Mode.after_append]
    exact (read_glue first.isPlain glue).1
  constructor
  · rw [Mode.after_append, behindLeft]
    exact second.isPlain
  · intro behind ends
    rcases List.exists_cons_of_ne_nil glue.nonempty with
      ⟨character, rest, split⟩
    have neutral : isNeutral character = true := by
      apply List.all_eq_true.1 glue.characters
      rw [split]
      exact List.mem_cons_self
    have undotted : character ≠ '.' := by
      intro dot
      apply glue.undotted
      rw [split, dot]
      rfl
    have cut :
        spans (left ++ between.toList ++ right) =
          spans left ++ (spans between.toList ++ spans right) := by
      rw [List.append_assoc, spans_append first.isPlain, spans_append]
      · rw [outside]
        rfl
      · intro next _
        rw [outside]
        rfl
      · intro next same
        rw [split] at same
        cases same
        exact continues_of_isNeutral first.isPlain neutral
    rw [cut, List.append_assoc, List.append_assoc, first.identifiers,
      bare.read.1, identifiersIn_silent bare.silent,
      second.identifiers behind ends, List.append_assoc]
    rw [bare.read.1, split]
    intro same
    cases same
    exact undotted rfl

/-- The identifiers of a woven text are those that were quoted for it. -/
theorem named_of_woven
    {style : QuoteStyle} {named given : String → Prop} {text : String}
    {holes : Nat} (woven : Woven style named given text holes)
    (bare : ∀ source, given source → Bare source.toList) :
    ∃ names,
      Named names text.toList ∧
        ∀ name ∈ names,
          ∃ identifier, named identifier ∧
            Identifier.quote style identifier = .ok (String.ofList name) := by
  induction woven with
  | empty => exact ⟨[], .of_bare (.of_neutral rfl), by simp⟩
  | star =>
      refine ⟨[], .of_bare ⟨?_, by decide, by decide⟩, by simp⟩
      exact List.forall_mem_singleton.2 rfl
  | source isGiven => exact ⟨[], .of_bare (bare _ isGiven), by simp⟩
  | @name identifier quoted isNamed done =>
      refine ⟨[quoted.toList], .of_quote done, ?_⟩
      rw [List.forall_mem_singleton, String.ofList_toList]
      exact ⟨identifier, isNamed, done⟩
  | weave left glue right leftNamed rightNamed =>
      rcases leftNamed with ⟨before, first, leftQuoted⟩
      rcases rightNamed with ⟨after, second, rightQuoted⟩
      refine ⟨before ++ after, ?_, ?_⟩
      · rw [String.toList_append, String.toList_append]
        exact first.weave glue second
      · rw [List.forall_mem_append]
        exact ⟨leftQuoted, rightQuoted⟩

/-- Every quoted identifier of a woven text is the quoted form of a name. -/
theorem quotedIdentifiers_of_woven
    {style : QuoteStyle} {named given : String → Prop} {text : String}
    {holes : Nat} (woven : Woven style named given text holes)
    (bare : ∀ source, given source → Bare source.toList) :
    ∀ found ∈ quotedIdentifiers text,
      ∃ identifier, named identifier ∧
        Identifier.quote style identifier = .ok found := by
  rcases named_of_woven woven bare with ⟨names, reading, quoted⟩
  have found := reading.identifiers [] (by simp)
  rw [List.append_nil, identifiersIn, List.append_nil] at found
  rw [quotedIdentifiers, found, List.forall_mem_map]
  exact quoted

end Sqlwright.Lexical
