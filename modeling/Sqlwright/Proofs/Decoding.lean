import Sqlwright.Proofs.Demands
import Sqlwright.Proofs.Quoting

/-!
# What the body of a condition says

The body of a `WHERE` shows everything about the comparisons of a filter but
their values.  It is cut up from its front: behind a quoted name stands a
space, so the name ends there; no text of a test begins another one; and tests
are followed by nothing or by ` AND `.

Each step is a law of cancellation, which says that two pieces with anything
behind them are the same text only if the pieces show the same and what stands
behind them is the same.  The values then belong to the tests in order, as many
to each as its text has placeholders.

Which comparisons these are is said by `Filter.demands`, for each operator, each
null and each list.
-/

namespace Sqlwright

open Sqlwright.Success

/-! ## Items that can be told apart -/

/--
Items with a separator between them can be told apart, as far as `view` goes,
if an item can be told from another one whatever stands behind them.  Some
texts may be barred from standing there, but not the separator.
-/
theorem intercalate_append_cancel
    {Item View : Type} {text : Item → List Char} {separator : List Char}
    (view : Item → View) (Behind : List Char → Prop)
    (cancel :
      ∀ left right front back, Behind front → Behind back →
        text left ++ front = text right ++ back →
          view left = view right ∧ front = back)
    (separates : ∀ rest, Behind (separator ++ rest))
    {front back : List Char} (frontBehind : Behind front)
    (backBehind : Behind back) (frontEnds : ¬ separator <+: front)
    (backEnds : ¬ separator <+: back)
    (left right : Item) (lefts rights : List Item)
    (same :
      separator.intercalate ((left :: lefts).map text) ++ front =
        separator.intercalate ((right :: rights).map text) ++ back) :
    (left :: lefts).map view = (right :: rights).map view ∧ front = back := by
  induction lefts generalizing left right rights with
  | nil =>
      cases rights with
      | nil =>
          simp only [List.map_cons, List.map_nil, List.intercalate_singleton]
            at same
          have parts :=
            cancel left right front back frontBehind backBehind same
          exact ⟨congrArg ([·]) parts.1, parts.2⟩
      | cons next rights =>
          simp only [List.map_cons, List.map_nil, List.intercalate_singleton,
            List.intercalate_cons_cons, List.append_assoc] at same
          have parts :=
            cancel left right front _ frontBehind (separates _) same
          exact absurd ⟨_, parts.2.symm⟩ frontEnds
  | cons next lefts induction =>
      cases rights with
      | nil =>
          simp only [List.map_cons, List.map_nil, List.intercalate_singleton,
            List.intercalate_cons_cons, List.append_assoc] at same
          have parts :=
            cancel left right _ back (separates _) backBehind same
          exact absurd ⟨_, parts.2⟩ backEnds
      | cons other rights =>
          simp only [List.map_cons, List.intercalate_cons_cons,
            List.append_assoc] at same
          have parts := cancel left right _ _ (separates _) (separates _) same
          have others :=
            induction next other rights (List.append_cancel_left parts.2)
          exact ⟨congrArg₂ List.cons parts.1 others.1, others.2⟩

namespace Identifier

/-! ## Quoted names -/

theorem quoteSegment_append_cancel
    {style : QuoteStyle} (left right front back : List Char)
    (frontEnds : front.head? ≠ some style.closing)
    (backEnds : back.head? ≠ some style.closing)
    (same :
      quoteSegment style left ++ front = quoteSegment style right ++ back) :
    left = right ∧ front = back := by
  simp only [quoteSegment, List.cons_append, List.append_assoc,
    List.nil_append, List.cons.injEq, true_and] at same
  have read := congrArg (readSegment? style.closing) same
  rw [readSegment?_double _ _ _ frontEnds, readSegment?_double _ _ _ backEnds]
    at read
  simpa using read

/-- A quoted identifier ends where neither a quote nor a dot goes on with it. -/
theorem quoteAll_append_cancel
    {style : QuoteStyle} {left right : String} {front back : List Char}
    (frontEnds : front.head? ≠ some style.closing)
    (backEnds : back.head? ≠ some style.closing)
    (frontApart : front.head? ≠ some '.') (backApart : back.head? ≠ some '.')
    (same :
      (quoteAll style left).toList ++ front =
        (quoteAll style right).toList ++ back) :
    left = right ∧ front = back := by
  have apart {text : List Char} (other : text.head? ≠ some '.') :
      ¬ ['.'] <+: text := by
    rintro ⟨rest, rfl⟩
    exact other rfl
  have dot (rest : List Char) :
      (['.'] ++ rest).head? ≠ some style.closing := by
    intro closes
    exact Lexical.closing_ne_dot style (Option.some.inj closes)
  rcases exists_segments left with ⟨first, more, leftSplit⟩
  rcases exists_segments right with ⟨other, others, rightSplit⟩
  rw [quoteAll, quoteAll, String.toList_ofList, String.toList_ofList,
    leftSplit, rightSplit] at same
  have parts :=
    intercalate_append_cancel id
      (fun text => text.head? ≠ some style.closing)
      quoteSegment_append_cancel dot frontEnds backEnds (apart frontApart)
      (apart backApart) first other more others same
  rw [List.map_id, List.map_id, ← leftSplit, ← rightSplit] at parts
  refine ⟨?_, parts.2⟩
  rw [← String.toList_inj, ← intercalate_segments, ← intercalate_segments,
    parts.1]

end Identifier

/-! ## Texts of tests -/

/-- What a test asks, without its values. -/
inductive TestKind where
  | compare (operator : Operator)
  | isNull
  | isNotNull
  | isIn
  | isNotIn
  deriving DecidableEq

namespace TestKind

/-- All kinds of tests. -/
def all : List TestKind :=
  isNull :: isNotNull :: isIn :: isNotIn :: Operator.all.map compare

theorem mem_all (kind : TestKind) : kind ∈ all := by
  cases kind with
  | compare operator => cases operator <;> decide
  | isNull | isNotNull | isIn | isNotIn => decide

/-- The part of the text of a test that its kind fixes. -/
def keyword : TestKind → List Char
  | compare operator => ' ' :: (operator.sql.toList ++ [' ', '?'])
  | isNull => " IS NULL".toList
  | isNotNull => " IS NOT NULL".toList
  | isIn => " IN(".toList
  | isNotIn => " NOT IN(".toList

/-- No keyword begins another one. -/
theorem keyword_prefixFree :
    ∀ left ∈ all, ∀ right ∈ all, left.keyword <+: right.keyword →
      left = right := by
  decide

theorem keyword_append_cancel
    {left right : TestKind} {front back : List Char}
    (same : left.keyword ++ front = right.keyword ++ back) :
    left = right ∧ front = back := by
  have first : left.keyword <+: right.keyword ++ back :=
    same ▸ List.prefix_append _ _
  have equal : left = right := by
    rcases List.prefix_or_prefix_of_prefix first (List.prefix_append _ back)
      with begins | begins
    · exact
        keyword_prefixFree left (mem_all left) right (mem_all right) begins
    · exact
        (keyword_prefixFree right (mem_all right) left (mem_all left)
          begins).symm
  subst equal
  exact ⟨rfl, List.append_cancel_left same⟩

theorem head?_keyword (kind : TestKind) : kind.keyword.head? = some ' ' := by
  cases kind <;> rfl

end TestKind

namespace Test

/-- The kind of a test. -/
def kind : Test → TestKind
  | compare operator _ => .compare operator
  | isNull => .isNull
  | isNotNull => .isNotNull
  | isIn _ => .isIn
  | isNotIn _ => .isNotIn

/-- What follows the keyword: the placeholders of a list and a parenthesis. -/
def marks : Test → List Char
  | isIn values | isNotIn values =>
      (placeholders values.length).toList ++ [')']
  | compare _ _ | isNull | isNotNull => []

theorem toList_sql (test : Test) :
    test.sql.toList = test.kind.keyword ++ test.marks := by
  cases test with
  | compare operator value =>
      rw [sql, String.toList_append, String.toList_append, marks,
        List.append_nil, List.append_assoc]
      rfl
  | isNull => rfl
  | isNotNull => rfl
  | isIn values | isNotIn values =>
      rw [sql, String.toList_append, String.toList_append, List.append_assoc]
      rfl

theorem toList_placeholders (count : Nat) :
    (placeholders count).toList =
      [','].intercalate ((List.replicate count ()).map fun _ => ['?']) := by
  rw [placeholders, String.toList_intercalate, List.map_replicate,
    List.map_replicate]
  rfl

/-- A list of placeholders ends with the parenthesis behind it. -/
theorem placeholders_append_cancel
    {left right : Nat} {front back : List Char}
    (same :
      (placeholders left).toList ++ ')' :: front =
        (placeholders right).toList ++ ')' :: back) :
    left = right ∧ front = back := by
  have starts (count : Nat) (rest : List Char) :
      ((placeholders (count + 1)).toList ++ rest).head? = some '?' := by
    rw [toList_placeholders]
    cases count <;> rfl
  rcases left with _ | left <;> rcases right with _ | right
  · exact ⟨rfl, List.cons.inj same |>.2⟩
  · have first := starts right (')' :: back)
    rw [← same] at first
    cases first
  · have first := starts left (')' :: front)
    rw [same] at first
    cases first
  · rw [toList_placeholders, toList_placeholders, List.replicate_succ,
      List.replicate_succ] at same
    have parts :=
      intercalate_append_cancel id (fun _ => True)
        (fun _ _ _ _ _ _ equal => ⟨rfl, List.append_cancel_left equal⟩)
        (fun _ => trivial) trivial trivial (by simp) (by simp) () () _ _ same
    have lengths := congrArg List.length parts.1
    exact ⟨by simpa using lengths, List.cons.inj parts.2 |>.2⟩

/-- The text of a test shows its kind and the number of its values. -/
theorem sql_append_cancel
    {left right : Test} {front back : List Char}
    (same : left.sql.toList ++ front = right.sql.toList ++ back) :
    (left.kind = right.kind ∧ left.params.length = right.params.length) ∧
      front = back := by
  rw [toList_sql, toList_sql, List.append_assoc, List.append_assoc] at same
  rcases TestKind.keyword_append_cancel same with ⟨sameKind, behind⟩
  cases left <;> cases right <;> cases sameKind
  case compare.compare.refl => exact ⟨⟨rfl, rfl⟩, behind⟩
  case isNull.isNull.refl => exact ⟨⟨rfl, rfl⟩, behind⟩
  case isNotNull.isNotNull.refl => exact ⟨⟨rfl, rfl⟩, behind⟩
  case isIn.isIn.refl values others =>
      rw [marks, marks, List.append_assoc, List.append_assoc] at behind
      have counts := placeholders_append_cancel behind
      exact ⟨⟨rfl, counts.1⟩, counts.2⟩
  case isNotIn.isNotIn.refl values others =>
      rw [marks, marks, List.append_assoc, List.append_assoc] at behind
      have counts := placeholders_append_cancel behind
      exact ⟨⟨rfl, counts.1⟩, counts.2⟩

/-- A test is known by its kind and its values. -/
theorem eq_of_kind
    {left right : Test} (sameKind : left.kind = right.kind)
    (sameParams : left.params = right.params) :
    left = right := by
  cases left <;> cases right <;> simp_all [kind, params]

end Test

/-! ## Comparisons -/

namespace Comparison

/-- What the text of a comparison shows of it: all but its values. -/
structure Outline where
  column : String
  kind : TestKind
  width : Nat

/-- What a comparison shows besides its values. -/
def outline (comparison : Comparison) : Outline :=
  ⟨comparison.column, comparison.test.kind, comparison.test.params.length⟩

/-- A comparison in a statement. -/
def clause (style : QuoteStyle) (comparison : Comparison) : Clause :=
  comparison.test.clause (Identifier.quoteAll style comparison.column)

theorem toList_clause (style : QuoteStyle) (comparison : Comparison) :
    (comparison.clause style).sql.toList =
      (Identifier.quoteAll style comparison.column).toList ++
        comparison.test.sql.toList := by
  rw [clause, Test.clause, String.toList_append]

theorem clause_append_cancel
    {style : QuoteStyle} (left right : Comparison) (front back : List Char)
    (same :
      (left.clause style).sql.toList ++ front =
        (right.clause style).sql.toList ++ back) :
    left.outline = right.outline ∧ front = back := by
  have space (test : Test) (behind : List Char) :
      (test.sql.toList ++ behind).head? = some ' ' := by
    rw [Test.toList_sql, List.append_assoc, List.head?_append,
      TestKind.head?_keyword]
    rfl
  have noQuote : some ' ' ≠ some style.closing := by
    cases style <;> decide
  have noDot : some ' ' ≠ some '.' := by decide
  rw [toList_clause, toList_clause, List.append_assoc, List.append_assoc]
    at same
  rcases
      Identifier.quoteAll_append_cancel (space left.test front ▸ noQuote)
        (space right.test back ▸ noQuote) (space left.test front ▸ noDot)
        (space right.test back ▸ noDot) same with
    ⟨sameColumn, tests⟩
  rcases Test.sql_append_cancel tests with ⟨⟨sameKind, sameWidth⟩, behind⟩
  refine ⟨?_, behind⟩
  rw [outline, outline, sameColumn, sameKind, sameWidth]

theorem toList_clause_ne_nil (style : QuoteStyle) (comparison : Comparison) :
    (comparison.clause style).sql.toList ≠ [] := by
  rw [toList_clause, Test.toList_sql]
  intro nothing
  simp only [List.append_eq_nil_iff] at nothing
  have space := comparison.test.kind.head?_keyword
  rw [nothing.2.1] at space
  cases space

/-- A body of at least one comparison is not empty. -/
theorem join_ne_empty
    (style : QuoteStyle) (first : Comparison) (rest : List Comparison) :
    (Clause.join ((first :: rest).map (clause style))).sql.toList ≠ [] := by
  have visible := toList_clause_ne_nil style first
  rw [Clause.join, String.toList_intercalate]
  cases rest with
  | nil => simpa using visible
  | cons next rest =>
      simp only [List.map_cons, List.intercalate_cons_cons]
      exact
        List.append_ne_nil_of_left_ne_nil
          (List.append_ne_nil_of_left_ne_nil visible _) _

/-- The body of some comparisons shows all of them, but for their values. -/
theorem outlines_eq_of_join
    {style : QuoteStyle} {lefts rights : List Comparison}
    (same :
      (Clause.join (lefts.map (clause style))).sql =
        (Clause.join (rights.map (clause style))).sql) :
    lefts.map outline = rights.map outline := by
  cases lefts with
  | nil =>
      cases rights with
      | nil => rfl
      | cons right rights =>
          exact absurd (congrArg String.toList same.symm)
            (join_ne_empty style right rights)
  | cons left lefts =>
      cases rights with
      | nil =>
          exact absurd (congrArg String.toList same)
            (join_ne_empty style left lefts)
      | cons right rights =>
          have texts (comparisons : List Comparison) :
              (Clause.join (comparisons.map (clause style))).sql.toList =
                " AND ".toList.intercalate
                  (comparisons.map fun comparison =>
                    (comparison.clause style).sql.toList) := by
            rw [Clause.join, String.toList_intercalate, List.map_map,
              List.map_map]
            rfl
          have equal := congrArg (String.toList · ++ []) same
          simp only [texts] at equal
          have parts :=
            intercalate_append_cancel outline (fun _ => True)
              (fun left right front back _ _ =>
                clause_append_cancel left right front back)
              (fun _ => trivial) trivial trivial (by decide) (by decide)
              left right lefts rights equal
          exact parts.1

/--
Two comparisons that are alike but for their values, which are related one by
one.
-/
structure Alike (same : Value → Value → Prop)
    (left right : Comparison) : Prop where
  outline_eq : left.outline = right.outline
  params : List.Forall₂ same left.test.params right.test.params

theorem eq_of_alike {left right : Comparison} (alike : Alike Eq left right) :
    left = right := by
  rcases left with ⟨column, test⟩
  rcases right with ⟨other, otherTest⟩
  rcases Outline.mk.inj alike.outline_eq with ⟨sameColumn, sameKind, -⟩
  have sameParams : test.params = otherTest.params := by
    simpa [List.forall₂_eq_eq_eq] using alike.params
  exact congrArg₂ mk sameColumn (Test.eq_of_kind sameKind sameParams)

/-- The values of a body belong to its comparisons in order. -/
theorem alike_of_outlines
    {same : Value → Value → Prop} {lefts rights : List Comparison}
    (outlines : lefts.map outline = rights.map outline)
    (values :
      List.Forall₂ same (lefts.flatMap fun left => left.test.params)
        (rights.flatMap fun right => right.test.params)) :
    List.Forall₂ (Alike same) lefts rights := by
  induction lefts generalizing rights with
  | nil =>
      cases rights with
      | nil => exact .nil
      | cons right rights => cases outlines
  | cons left lefts induction =>
      cases rights with
      | nil => cases outlines
      | cons right rights =>
          rw [List.map_cons, List.map_cons] at outlines
          rcases List.cons.inj outlines with ⟨sameOutline, others⟩
          rw [List.flatMap_cons, List.flatMap_cons] at values
          have width : right.test.params.length = left.test.params.length :=
            congrArg Outline.width sameOutline.symm
          have front := List.forall₂_take_append _ _ _ values
          have back := List.forall₂_drop_append _ _ _ values
          rw [width, List.take_left] at front
          rw [width, List.drop_left] at back
          exact .cons ⟨sameOutline, front⟩ (induction others back)

end Comparison

/-! ## Filters -/

namespace Filter

/-- The clauses of one column are those of its comparisons. -/
theorem entryClauses_eq_ok
    {options : Options} {column : String} {condition : Condition}
    {clauses : List Clause}
    (done : entryClauses options column condition = .ok clauses) :
    ∃ tests, condition.tests column = .ok tests ∧
      (tests.map (Comparison.mk column)).map
          (Comparison.clause options.quoteStyle) =
        clauses := by
  simp only [entryClauses, bind_eq_ok, pure_eq_ok] at done
  rcases done with ⟨quoted, quotedColumn, tests, tested, rfl⟩
  have quotedName := (Weaving.quoteColumn_eq_ok_iff.1 quotedColumn).2
  rcases (Identifier.quote_eq_ok_iff _ _ _).1 quotedName with ⟨-, rfl⟩
  refine ⟨tests, tested, ?_⟩
  rw [List.map_map]
  rfl

/-- The clauses of an accepted filter are those of its comparisons. -/
theorem clauses_eq_ok
    {options : Options} {filter : Filter} {clauses : List Clause}
    (done : filter.clauses options = .ok clauses) :
    ∃ comparisons, filter.comparisons = .ok comparisons ∧
      clauses = comparisons.map (Comparison.clause options.quoteStyle) := by
  simp only [Filter.clauses, bind_eq_ok, pure_eq_ok] at done
  rcases done with ⟨groups, written, rfl⟩
  rcases
      exists_mapM_of_mapM_eq_ok
        (fun entry => do
          pure ((← Condition.tests entry.1 entry.2).map
            (Comparison.mk entry.1)))
        (List.map (Comparison.clause options.quoteStyle)) written
        fun entry clauses entryWritten => by
          rcases entryClauses_eq_ok entryWritten with ⟨tests, tested, same⟩
          exact ⟨_, bind_eq_ok.2 ⟨tests, tested, rfl⟩, same⟩ with
    ⟨comparisons, compared, rfl⟩
  refine ⟨comparisons.flatten, ?_, ?_⟩
  · exact bind_eq_ok.2 ⟨comparisons, compared, rfl⟩
  · rw [List.map_flatten]

/-- The body of an accepted filter is written from its comparisons. -/
theorem toWhere_eq_ok
    {options : Options} {filter : Filter} {query : Query}
    (done : filter.toWhere options = .ok query) :
    ∃ comparisons, filter.comparisons = .ok comparisons ∧
      query =
        Clause.join
          (comparisons.map (Comparison.clause options.quoteStyle)) := by
  simp only [Filter.toWhere, bind_eq_ok, pure_eq_ok] at done
  rcases done with ⟨clauses, written, rfl⟩
  rcases clauses_eq_ok written with ⟨comparisons, compared, rfl⟩
  exact ⟨comparisons, compared, rfl⟩

theorem params_join (style : QuoteStyle) (comparisons : List Comparison) :
    (Clause.join (comparisons.map (Comparison.clause style))).params =
      comparisons.flatMap fun comparison => comparison.test.params := by
  rw [Clause.join, List.flatMap_map]
  rfl

/--
The body of a `WHERE` can be read in one way only.  Two filters that are
written with the same text, for the same options, demand the same comparisons
in the same order, whatever characters their columns have, but for the values;
and with the same values they demand the same comparisons.  The first half
speaks of any relation between values, so that it covers every notion of
sameness of values.
-/
theorem comparisons_eq_of_toWhere
    {options : Options} {left right : Filter} {first second : Query}
    (leftWritten : left.toWhere options = .ok first)
    (rightWritten : right.toWhere options = .ok second)
    (sameText : first.sql = second.sql) :
    left.comparisons = .ok left.demands ∧
      right.comparisons = .ok right.demands ∧
      (∀ same : Value → Value → Prop,
        List.Forall₂ same first.params second.params →
          List.Forall₂ (Comparison.Alike same) left.demands right.demands) ∧
      (first.params = second.params → left.demands = right.demands) := by
  rcases toWhere_eq_ok leftWritten with ⟨lefts, leftCompared, rfl⟩
  rcases toWhere_eq_ok rightWritten with ⟨rights, rightCompared, rfl⟩
  have outlines := Comparison.outlines_eq_of_join sameText
  rw [params_join, params_join]
  rw [← comparisons_eq_ok leftCompared, ← comparisons_eq_ok rightCompared]
  refine ⟨leftCompared, rightCompared, ?_, ?_⟩
  · intro same values
    exact Comparison.alike_of_outlines outlines values
  · intro sameParams
    have values :
        List.Forall₂ Eq
          (lefts.flatMap fun left => left.test.params)
          (rights.flatMap fun right => right.test.params) := by
      rw [List.forall₂_eq_eq_eq]
      exact sameParams
    have equal : List.Forall₂ Eq lefts rights :=
      (Comparison.alike_of_outlines outlines values).imp
        fun _ _ => Comparison.eq_of_alike
    rwa [List.forall₂_eq_eq_eq] at equal

/-- A list for a column whose name has the text of another condition in it. -/
def disguisedList : Filter :=
  empty.oneOf "a\" = ? AND \"b" [.int 1, .null]

/-- The same demand, made by an operator. -/
def disguisedOperator : Filter :=
  empty.compare "a\" = ? AND \"b" .equal (.list [.int 1, .null])

theorem comparisons_eq_of_disguised :
    disguisedList.toWhere Options.generic =
        .ok ⟨"\"a\"\" = ? AND \"\"b\" IN(?,?)", [.int 1, .null]⟩ ∧
      disguisedOperator.toWhere Options.generic =
        .ok ⟨"\"a\"\" = ? AND \"\"b\" IN(?,?)", [.int 1, .null]⟩ ∧
      disguisedList.demands = disguisedOperator.demands := by
  have first :
      disguisedList.toWhere Options.generic =
        .ok ⟨"\"a\"\" = ? AND \"\"b\" IN(?,?)", [.int 1, .null]⟩ := rfl
  have second :
      disguisedOperator.toWhere Options.generic =
        .ok ⟨"\"a\"\" = ? AND \"\"b\" IN(?,?)", [.int 1, .null]⟩ := rfl
  rcases comparisons_eq_of_toWhere first second rfl with ⟨-, -, -, equal⟩
  exact ⟨first, second, equal rfl⟩

end Filter

end Sqlwright
