import Sqlwright.Proofs.Weaving

/-!
# Counted placeholders

`Query.placeholderCount` reads a statement with less care than numbering does:
a closing quote ends a region even where it is written twice.  This does no
harm where a region ends with the character that begins it, since the second
quote opens the region again.  The second of two closing brackets opens
nothing, and what a name has behind them is read as if it were not quoted.

A text is counted if reading it by itself ends outside all regions.  The main
theorem says for which names the count of every statement is right: those that
are counted in quotes, without a placeholder.
-/

namespace Sqlwright.Query

open Sqlwright.Success
open Sqlwright.Weaving

/-! ## Counted texts -/

/-- The character that has to end a region behind one more character. -/
def closingNext (closing : Option Char) (character : Char) : Option Char :=
  match closing with
  | some closer => if character = closer then none else some closer
  | none => closer? character

/-- The character that has to end a region behind a text. -/
def closingFrom (closing : Option Char) : List Char → Option Char
  | [] => closing
  | character :: rest => closingFrom (closingNext closing character) rest

theorem countFrom_cons
    (closing : Option Char) (character : Char) (rest : List Char) :
    countFrom closing (character :: rest) =
      (if closing = none ∧ character = '?' then 1 else 0) +
        countFrom (closingNext closing character) rest := by
  cases closing with
  | some closer => simp [countFrom, closingNext]
  | none =>
      by_cases mark : character = '?'
      · subst mark
        simp [countFrom, closingNext, closer?, Nat.add_comm]
      · simp [countFrom, closingNext, mark]

theorem closingFrom_append
    (closing : Option Char) (front back : List Char) :
    closingFrom closing (front ++ back) =
      closingFrom (closingFrom closing front) back := by
  induction front generalizing closing with
  | nil => rfl
  | cons character rest induction => exact induction _

theorem countFrom_append
    (closing : Option Char) (front back : List Char) :
    countFrom closing (front ++ back) =
      countFrom closing front +
        countFrom (closingFrom closing front) back := by
  induction front generalizing closing with
  | nil => simp [countFrom, closingFrom]
  | cons character rest induction =>
      rw [List.cons_append, countFrom_cons, countFrom_cons, induction,
        closingFrom, Nat.add_assoc]

/-- Reading passes some placeholders and ends outside all regions. -/
structure Counted (text : List Char) (holes : Nat) : Prop where
  closing_eq : closingFrom none text = none
  count_eq : countFrom none text = holes

instance (text : List Char) (holes : Nat) : Decidable (Counted text holes) :=
  decidable_of_iff
    (closingFrom none text = none ∧ countFrom none text = holes)
    ⟨fun parts => ⟨parts.1, parts.2⟩,
      fun counted => ⟨counted.closing_eq, counted.count_eq⟩⟩

theorem Counted.append
    {front back : List Char} {before behind : Nat}
    (first : Counted front before) (second : Counted back behind) :
    Counted (front ++ back) (before + behind) := by
  constructor
  · rw [closingFrom_append, first.closing_eq, second.closing_eq]
  · rw [countFrom_append, first.closing_eq, first.count_eq, second.count_eq]

/-- Where no character opens a region, all placeholders are counted. -/
theorem counted_of_unopened
    {text : List Char}
    (unopened : ∀ character ∈ text, closer? character = none) :
    Counted text (text.count '?') := by
  induction text with
  | nil => exact ⟨rfl, rfl⟩
  | cons character rest induction =>
      simp only [List.forall_mem_cons] at unopened
      have others := induction unopened.2
      have stays : closingNext none character = none := unopened.1
      constructor
      · rw [closingFrom, stays, others.closing_eq]
      · rw [countFrom_cons, stays, others.count_eq, List.count_cons,
          Nat.add_comm]
        simp

theorem closer?_of_isNeutral
    {character : Char} (neutral : isNeutral character = true) :
    closer? character = none := by
  unfold closer?
  split
  · cases neutral
  · cases neutral
  · cases neutral
  · cases neutral
  · rfl

theorem Counted.of_glue
    {text : String} {holes : Nat} (glue : Glue text holes) :
    Counted text.toList holes := by
  have counted :=
    counted_of_unopened fun character member =>
      closer?_of_isNeutral
        (List.all_eq_true.1 glue.characters character member)
  exact glue.count_eq ▸ counted

/-- Behind names and texts that are counted, a woven text is counted. -/
theorem Counted.of_woven
    {style : QuoteStyle} {named given : String → Prop} {text : String}
    {holes : Nat} (woven : Woven style named given text holes)
    (sources : ∀ source, given source → Counted source.toList 0)
    (names :
      ∀ identifier quoted, named identifier →
        Identifier.quote style identifier = .ok quoted →
          Counted quoted.toList 0) :
    Counted text.toList holes := by
  induction woven with
  | empty => exact ⟨rfl, rfl⟩
  | star => exact ⟨rfl, rfl⟩
  | source isGiven => exact sources _ isGiven
  | name isNamed quoted => exact names _ _ isNamed quoted
  | weave left glue right leftCounted rightCounted =>
      rw [String.toList_append, String.toList_append]
      exact (leftCounted.append (.of_glue glue)).append rightCounted

/-! ## Quoted names -/

/-- A name of several segments is counted if each of them is. -/
theorem counted_segments
    {style : QuoteStyle} {segments : List (List Char)}
    (each :
      ∀ segment ∈ segments,
        Counted (Identifier.quoteSegment style segment) 0) :
    Counted
      (List.intercalate ['.']
        (segments.map (Identifier.quoteSegment style))) 0 := by
  induction segments with
  | nil => exact ⟨rfl, rfl⟩
  | cons segment rest induction =>
      simp only [List.forall_mem_cons] at each
      cases rest with
      | nil => simpa using each.1
      | cons next rest =>
          have dot : Counted ['.'] 0 := by decide
          rw [List.map_cons, List.map_cons, List.intercalate_cons_cons,
            ← List.map_cons]
          exact (each.1.append dot).append (induction each.2)

theorem counted_of_quote
    {style : QuoteStyle} {identifier quoted : String}
    (each :
      ∀ segment ∈ Identifier.segments identifier,
        Counted (Identifier.quoteSegment style segment) 0)
    (done : Identifier.quote style identifier = .ok quoted) :
    Counted quoted.toList 0 := by
  rcases (Identifier.quote_eq_ok_iff style identifier quoted).1 done with
    ⟨_, rfl⟩
  rw [Identifier.quoteAll, String.toList_ofList]
  exact counted_segments each

/-- A doubled quote that opens a region itself ends it and opens it again. -/
theorem read_double
    {quote : Char} (opens : closer? quote = some quote) (segment : List Char) :
    closingFrom (some quote) (Identifier.double quote segment) = some quote ∧
      countFrom (some quote) (Identifier.double quote segment) = 0 := by
  have notMark : quote ≠ '?' := by
    rintro rfl
    cases opens
  induction segment with
  | nil => exact ⟨rfl, rfl⟩
  | cons character rest induction =>
      by_cases closes : character = quote
      · simp only [Identifier.double, closes, if_true, closingFrom,
          closingNext, opens, countFrom_cons, notMark, and_false, if_false,
          Nat.zero_add]
        simpa using induction
      · simp only [Identifier.double, closes, if_false, closingFrom,
          closingNext, countFrom_cons]
        simpa using induction

theorem opens_again_of_ne_bracket
    {style : QuoteStyle} (symmetric : style ≠ .bracket) :
    style.opening = style.closing ∧
      closer? style.closing = some style.closing := by
  cases style with
  | ansi => exact ⟨rfl, rfl⟩
  | backtick => exact ⟨rfl, rfl⟩
  | bracket => exact absurd rfl symmetric

theorem counted_quoteSegment
    {style : QuoteStyle} (symmetric : style ≠ .bracket)
    (segment : List Char) :
    Counted (Identifier.quoteSegment style segment) 0 := by
  rcases opens_again_of_ne_bracket symmetric with ⟨same, opens⟩
  have notMark : style.closing ≠ '?' := by
    cases style <;> decide
  have inside := read_double opens segment
  rw [Identifier.quoteSegment, same]
  constructor
  · rw [closingFrom, closingNext, opens, closingFrom_append, inside.1]
    simp [closingFrom, closingNext]
  · rw [countFrom_cons, closingNext, opens, countFrom_append, inside.1,
      inside.2]
    simp [countFrom, notMark]

/-! ## Names in brackets -/

/-- Text without placeholders in which no character opens a region. -/
def Unmarked (text : List Char) : Prop :=
  ∀ character ∈ text, character ≠ '?' ∧ closer? character = none

theorem counted_of_unmarked {text : List Char} (unmarked : Unmarked text) :
    Counted text 0 := by
  have counted :=
    counted_of_unopened fun character member => (unmarked character member).2
  have noMark : text.count '?' = 0 :=
    List.count_eq_zero_of_not_mem fun member => (unmarked '?' member).1 rfl
  exact noMark ▸ counted

/-- Names of tables that stand in a statement as they are. -/
def isTableName (text : String) : Bool :=
  text.toList.all fun character =>
    character.isAlphanum || character == '_' || character == '.'

theorem counted_of_isTableName
    {text : String} (plain : isTableName text = true) :
    Counted text.toList 0 := by
  apply counted_of_unmarked
  intro character member
  have named := List.all_eq_true.1 plain character member
  constructor
  · rintro rfl
    exact absurd named (by decide)
  · unfold closer?
    split
    · exact absurd named (by decide)
    · exact absurd named (by decide)
    · exact absurd named (by decide)
    · exact absurd named (by decide)
    · rfl

theorem mem_double
    {closing character : Char} {segment : List Char}
    (member : character ∈ Identifier.double closing segment) :
    character = closing ∨ character ∈ segment := by
  induction segment with
  | nil => cases member
  | cons first rest induction =>
      by_cases closes : first = closing
      · simp only [Identifier.double, closes, if_true, List.mem_cons] at member
        rcases member with same | same | inside
        · exact .inl same
        · exact .inl same
        · exact (induction inside).imp_right (List.mem_cons_of_mem _)
      · simp only [Identifier.double, closes, if_false, List.mem_cons] at member
        rcases member with same | inside
        · exact .inr (same ▸ List.mem_cons_self)
        · exact (induction inside).imp_right (List.mem_cons_of_mem _)

/-- Nothing but unmarked text stands behind a closing bracket. -/
def Harmless (segment : List Char) : Prop :=
  ∀ front behind, segment = front ++ ']' :: behind → Unmarked behind

theorem harmless_of_not_mem {segment : List Char} (absent : ']' ∉ segment) :
    Harmless segment := by
  rintro front behind rfl
  exact absurd (List.mem_append_right front List.mem_cons_self) absent

/-- Inside brackets a harmless segment counts nothing and opens no region. -/
theorem read_harmless {segment : List Char} (harmless : Harmless segment) :
    closingFrom (some ']') (Identifier.double ']' segment ++ [']']) = none ∧
      countFrom (some ']') (Identifier.double ']' segment ++ [']']) = 0 := by
  induction segment with
  | nil => exact ⟨rfl, rfl⟩
  | cons character rest induction =>
      by_cases closes : character = ']'
      · subst closes
        -- The first bracket ends the region, and the rest is read outside.
        have behind : Unmarked (Identifier.double ']' rest ++ [']']) := by
          intro character member
          rcases List.mem_append.1 member with inside | last
          · rcases mem_double inside with rfl | inside
            · exact by decide
            · exact harmless [] rest rfl character inside
          · rcases List.mem_singleton.1 last with rfl
            exact by decide
        have counted := counted_of_unmarked behind
        simp only [Identifier.double, if_true, List.cons_append, closingFrom,
          closingNext, countFrom_cons, closer?]
        simpa using ⟨counted.closing_eq, counted.count_eq⟩
      · have others : Harmless rest := by
          intro front behind split
          exact harmless (character :: front) behind (by rw [split]; rfl)
        simp only [Identifier.double, closes, if_false, List.cons_append,
          closingFrom, closingNext, countFrom_cons]
        simpa using induction others

theorem counted_quoteSegment_of_harmless
    {segment : List Char} (harmless : Harmless segment) :
    Counted (Identifier.quoteSegment .bracket segment) 0 := by
  have inside := read_harmless harmless
  exact ⟨inside.1, inside.2⟩

/-! ## The guarantee and its limits -/

/--
A name that statements in a style count right.  Brackets are the only quotes
that some names get the better of.
-/
def Countable (style : QuoteStyle) (identifier : String) : Prop :=
  style = .bracket →
    ∀ quoted, Identifier.quote style identifier = .ok quoted →
      Counted quoted.toList 0

/-- In brackets it is enough that every segment is harmless. -/
theorem countable_of_harmless
    {style : QuoteStyle} {identifier : String}
    (harmless : ∀ segment ∈ Identifier.segments identifier, Harmless segment) :
    Countable style identifier := by
  rintro rfl quoted done
  exact
    counted_of_quote
      (fun segment member =>
        counted_quoteSegment_of_harmless (harmless segment member))
      done

theorem Countable.counted
    {style : QuoteStyle} {identifier quoted : String}
    (countable : Countable style identifier)
    (done : Identifier.quote style identifier = .ok quoted) :
    Counted quoted.toList 0 := by
  by_cases brackets : style = .bracket
  · exact countable brackets quoted done
  · exact
      counted_of_quote
        (fun segment _ => counted_quoteSegment brackets segment) done

/-- The body of a `WHERE` with one condition of one column. -/
theorem toWhere_equals
    {options : Options} {column quoted : String}
    (done : options.quoteColumn column = .ok quoted) (value : Value) :
    (Filter.empty.equals column value).toWhere options =
      .ok (Clause.join [(Operator.equal.testValue value).clause quoted]) := by
  have entries :
      (Filter.empty.equals column value).entries =
        [(column, .value value)] := rfl
  simp [Filter.toWhere, Filter.clauses, entries, Filter.entryClauses, done,
    Condition.tests, bind, Except.bind, pure, Except.pure]

theorem closer_of_closingFrom
    {closing : Option Char} {text : List Char} {closer : Char}
    (start : ∀ first ∈ closing, first ∈ ['\'', '"', '\x60', ']'])
    (opened : closingFrom closing text = some closer) :
    closer ∈ ['\'', '"', '\x60', ']'] := by
  induction text generalizing closing with
  | nil => exact start closer opened
  | cons character rest induction =>
      refine induction ?_ opened
      intro next found
      cases closing with
      | some first =>
          simp only [closingNext] at found
          split at found
          · cases found
          · cases found
            exact start _ rfl
      | none =>
          simp only [closingNext, closer?] at found
          split at found <;> cases found <;> decide

/-- A region that a name leaves open takes the placeholder behind it. -/
theorem countFrom_closer
    {text : List Char} {closer : Char}
    (opened : closingFrom none text = some closer) :
    countFrom (some closer) " = ?".toList = 0 := by
  have known := closer_of_closingFrom (by simp) opened
  simp only [List.mem_cons, List.not_mem_nil, or_false] at known
  rcases known with rfl | rfl | rfl | rfl <;> rfl

/--
The names that are counted in quotes are those with which every statement
counts right: it has as many placeholders outside quotes as values.  The texts
of the caller have to be counted, as names of tables are.
-/
theorem placeholderCount_eq_length_iff
    (style : QuoteStyle) (named : String → Prop) :
    (∀ identifier, named identifier → Countable style identifier) ↔
      ∀ (dialect : Dialect) (request : Request) (queries : List Query),
        dialect.options.quoteStyle = style →
          (∀ text ∈ request.sources, Counted text.toList 0) →
            (∀ identifier ∈ request.names dialect, named identifier) →
              request.write dialect = .ok queries →
                ∀ query ∈ queries,
                  query.placeholderCount = query.params.length := by
  constructor
  · rintro countable dialect request queries rfl sources names written query
      member
    have woven :=
      woven_of_write (fun _ given => given) (fun _ isNamed => isNamed) written
        query member
    have counted : Counted query.sql.toList query.params.length :=
      Counted.of_woven woven sources
        fun identifier quoted isNamed done =>
          (countable identifier (names identifier isNamed)).counted done
    exact counted.count_eq
  · rintro right identifier isNamed rfl quoted done
    have quotedColumn :
        Backend.sqlServer.defaultOptions.quoteColumn identifier =
          .ok quoted := done
    have counts (value : Value) :=
      right (Dialect.ofBackend .sqlServer)
        (.condition (Filter.empty.equals identifier value)) _ rfl
        (fun text member => absurd member List.not_mem_nil)
        (fun name member => List.mem_singleton.1 member ▸ isNamed)
        (congrArg (Except.map ([·])) (toWhere_equals quotedColumn value))
        _ (List.mem_singleton_self _)
    have absent : countFrom none (quoted ++ " IS NULL").toList = 0 :=
      counts .null
    have present : countFrom none (quoted ++ " = ?").toList = 1 :=
      counts (.int 1)
    rw [String.toList_append, countFrom_append] at absent present
    have noMark : countFrom none quoted.toList = 0 := by omega
    refine ⟨?_, noMark⟩
    cases opened : closingFrom none quoted.toList with
    | none => rfl
    | some closer =>
        rw [noMark, opened, countFrom_closer opened] at present
        cases present

/-- An update with quotes and marks of most kinds in its names. -/
def markedUpdate : Request :=
  .update "orders_2.items" [("a?'\x60[\"", .int 1)]
    (Filter.empty.oneOf "b?.c'" [.int 7, .int 3])

theorem placeholderCount_eq_length_markedUpdate :
    ∃ query,
      markedUpdate.write (Dialect.ofBackend .sqlServer) = .ok [query] ∧
        query.params.length = 3 ∧ query.placeholderCount = 3 := by
  have written :
      markedUpdate.write (Dialect.ofBackend .sqlServer) =
        .ok [⟨"UPDATE orders_2.items SET [a?'\x60[\"] = ?" ++
            " WHERE [b?].[c'] IN(?,?)",
          [.int 1, .int 7, .int 3]⟩] := rfl
  have sources : ∀ text ∈ markedUpdate.sources, Counted text.toList 0 := by
    intro text member
    rcases List.mem_singleton.1 member with rfl
    exact counted_of_isTableName (by decide)
  have noBracket :
      ∀ identifier ∈ ["a?'\x60[\"", "b?.c'"],
        ∀ segment ∈ Identifier.segments identifier, ']' ∉ segment := by
    decide
  have counts :=
    (placeholderCount_eq_length_iff .bracket (· ∈ ["a?'\x60[\"", "b?.c'"])).1
      (fun identifier member =>
        countable_of_harmless fun segment inside =>
          harmless_of_not_mem (noBracket identifier member segment inside))
      (Dialect.ofBackend .sqlServer) markedUpdate _ rfl sources
      (fun _ member => member) written _ (List.mem_singleton_self _)
  exact ⟨_, written, rfl, counts⟩

/-- A condition on a column with a closing bracket and a mark. -/
def bracketColumn : Request :=
  .condition (Filter.empty.equals "a]?" (.int 1))

/-- In brackets this name is read as a placeholder of its own. -/
theorem placeholderCount_ne_length_bracketColumn :
    ∃ query,
      bracketColumn.write (Dialect.ofBackend .sqlServer) = .ok [query] ∧
        query.sql = "[a]]?] = ?" ∧
        query.placeholderCount = 2 ∧ query.params.length = 1 :=
  ⟨⟨"[a]]?] = ?", [.int 1]⟩, rfl, rfl, by decide, rfl⟩

end Sqlwright.Query
