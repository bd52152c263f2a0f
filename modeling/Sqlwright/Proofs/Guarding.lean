import Sqlwright.Proofs.Naming

/-!
# The allow-list guards every builder

Each builder asks the allow-list for the columns that it quotes, in its own
way and at its own moment.  `Guards` says what the caller can rely on: a result
means that all named columns are allowed, and a column is only refused if it
was named and is not allowed.  Running guarded steps one after the other, or
one for each item, guards the columns of all of them.

An insertion quotes the columns of its first row only.  The other rows are
permutations of it, or the insertion is refused, so their columns are guarded
as well.

With the identifiers of woven texts it follows that no statement quotes
anything but allowed columns and the column for ids.
-/

namespace Sqlwright

open Sqlwright.Insertion
open Sqlwright.Lexical
open Sqlwright.Success
open Sqlwright.Weaving

/-! ## Guarded computations -/

/-- A computation decides about some columns as the allow-list says. -/
structure Guards {Result : Type} (options : Options) (columns : List String)
    (run : Except Failure Result) : Prop where
  accepted :
    ∀ result, run = .ok result →
      ∀ column ∈ columns, options.allows column = true
  refused :
    ∀ column, run = .error (.column column) →
      column ∈ columns ∧ options.allows column = false

namespace Guards

variable {First Second Item : Type} {options : Options}
  {columns others : List String}

theorem ok (result : First) :
    Guards options [] (.ok result : Except Failure First) where
  accepted := fun _ _ _ member => absurd member List.not_mem_nil
  refused := fun _ failed => by cases failed

/-- A failure of another kind says nothing about columns. -/
theorem error {failure : Failure}
    (other : ∀ column, failure ≠ .column column) :
    Guards options columns (.error failure : Except Failure First) where
  accepted := fun _ done => by cases done
  refused := fun column failed => by
    cases failed
    exact absurd rfl (other column)

theorem argument (fault : ArgumentFault) :
    Guards options columns
      (.error (.argument fault) : Except Failure First) :=
  error fun _ same => by cases same

theorem setting (fault : SettingFault) :
    Guards options columns (.error (.setting fault) : Except Failure First) :=
  error fun _ same => by cases same

theorem bind
    {first : Except Failure First} {next : First → Except Failure Second}
    (start : Guards options columns first)
    (step :
      ∀ result, first = .ok result → Guards options others (next result)) :
    Guards options (columns ++ others) (first >>= next) := by
  constructor
  · intro result done
    rcases bind_eq_ok.1 done with ⟨value, begun, ended⟩
    rw [List.forall_mem_append]
    exact
      ⟨start.accepted value begun, (step value begun).accepted result ended⟩
  · intro column failed
    cases begun : first with
    | error failure =>
        rw [begun] at failed
        cases failed
        rcases start.refused column begun with ⟨member, absent⟩
        exact ⟨List.mem_append_left others member, absent⟩
    | ok value =>
        rw [begun] at failed
        rcases (step value begun).refused column failed with ⟨member, absent⟩
        exact ⟨List.mem_append_right columns member, absent⟩

/-- A first step that has nothing to do with columns. -/
theorem behind
    {first : Except Failure First} {next : First → Except Failure Second}
    (start : Guards options [] first)
    (step :
      ∀ result, first = .ok result → Guards options columns (next result)) :
    Guards options columns (first >>= next) :=
  start.bind step

/-- What is done with the result has nothing to do with columns. -/
theorem before
    {first : Except Failure First} {next : First → Except Failure Second}
    (start : Guards options columns first)
    (step : ∀ result, first = .ok result → Guards options [] (next result)) :
    Guards options columns (first >>= next) := by
  have whole := start.bind step
  rw [List.append_nil] at whole
  exact whole

theorem map
    {run : Except Failure First} (guarded : Guards options columns run)
    (change : First → Second) :
    Guards options columns (run.map change) := by
  cases run with
  | error failure =>
      constructor
      · intro result done
        cases done
      · intro column failed
        cases failed
        exact guarded.refused column rfl
  | ok result =>
      constructor
      · intro _ _
        exact guarded.accepted result rfl
      · intro column failed
        cases failed

/-- Guarded steps for all items guard the columns of all items. -/
theorem mapM
    {step : Item → Except Failure Second} {named : Item → List String}
    {items : List Item}
    (each : ∀ item ∈ items, Guards options (named item) (step item)) :
    Guards options (items.flatMap named) (items.mapM step) := by
  induction items with
  | nil => exact ok []
  | cons item rest induction =>
      rw [List.forall_mem_cons] at each
      rw [List.mapM_cons, List.flatMap_cons]
      apply each.1.bind
      intro result _
      apply (induction each.2).before
      intro results _
      exact ok (result :: results)

/-- Steps of which each is about one column. -/
theorem mapM_column
    {step : Item → Except Failure Second} {column : Item → String}
    {items : List Item}
    (each : ∀ item ∈ items, Guards options [column item] (step item)) :
    Guards options (items.map column) (items.mapM step) := by
  rw [List.map_eq_flatMap]
  exact mapM each

/-- Steps that have nothing to do with columns. -/
theorem mapM_nil
    {step : Item → Except Failure Second} {items : List Item}
    (each : ∀ item ∈ items, Guards options [] (step item)) :
    Guards options [] (items.mapM step) := by
  have whole := mapM each
  have nothing : (items.flatMap fun _ => ([] : List String)) = [] :=
    List.flatMap_eq_nil_iff.2 fun _ _ => rfl
  rw [nothing] at whole
  exact whole

/-- More columns may be named if they are allowed whenever there is a result. -/
theorem widen
    {run : Except Failure First} (guarded : Guards options columns run)
    (inside : columns ⊆ others)
    (covered :
      ∀ result, run = .ok result → ∀ column ∈ others, column ∈ columns) :
    Guards options others run where
  accepted := fun result done column member =>
    guarded.accepted result done column (covered result done column member)
  refused := fun column failed =>
    ⟨inside (guarded.refused column failed).1,
      (guarded.refused column failed).2⟩

end Guards

/-! ## Steps of the builders -/

section Builders

variable {options : Options}

theorem guards_validateColumn (column : String) :
    Guards options [column] (options.validateColumn column) := by
  unfold Options.validateColumn
  split
  · rename_i allowed
    constructor
    · intro _ _
      exact List.forall_mem_singleton.2 allowed
    · intro other failed
      cases failed
  · rename_i absent
    constructor
    · intro _ done
      cases done
    · intro other failed
      cases failed
      exact ⟨List.mem_singleton_self _, eq_false_of_ne_true absent⟩

theorem guards_quote (style : QuoteStyle) (identifier : String) :
    Guards options [] (Identifier.quote style identifier) := by
  unfold Identifier.quote
  split
  · exact .argument _
  · exact .ok _

theorem guards_validateTable (table : String) :
    Guards options [] (validateTable table) := by
  unfold validateTable
  split
  · exact .argument _
  · exact .ok _

theorem guards_quoteColumn (column : String) :
    Guards options [column] (options.quoteColumn column) := by
  apply (guards_validateColumn column).before
  intro _ _
  exact guards_quote options.quoteStyle column

theorem guards_quoteColumns (columns : List String) :
    Guards options columns (options.quoteColumns columns) := by
  have each :
      Guards options (columns.map id) (columns.mapM options.quoteColumn) :=
    .mapM_column fun column _ => guards_quoteColumn column
  rw [List.map_id] at each
  exact each

/-! ## Filters -/

theorem guards_testPattern
    (operator : Operator) (column : String) (pattern : Value) :
    Guards options [] (operator.testPattern column pattern) := by
  unfold Operator.testPattern
  split
  · exact .argument _
  · exact .ok _

theorem guards_testList
    (operator : Operator) (column : String) (values : List Value) :
    Guards options [] (operator.testList column values) := by
  unfold Operator.testList
  split
  · exact .argument _
  · cases operator with
    | equal | notEqual => exact .ok _
    | like | notLike =>
        exact .mapM_nil fun value _ => guards_testPattern _ column value
    | greaterOrEqual | greater | lessOrEqual | less => exact .argument _

theorem guards_operandTests
    (operator : Operator) (column : String) (operand : Operand) :
    Guards options [] (operand.tests column operator) := by
  cases operand with
  | value single =>
      simp only [Operand.tests]
      split
      · exact .argument _
      · exact .ok _
  | list several => exact guards_testList operator column several

theorem guards_tests (column : String) (condition : Condition) :
    Guards options [] (condition.tests column) := by
  cases condition with
  | value single => exact .ok _
  | oneOf values => exact guards_testList .equal column values
  | all comparisons =>
      simp only [Condition.tests]
      split
      · exact .argument _
      · have groups :
            Guards options []
              (comparisons.mapM fun part => part.2.tests column part.1) :=
          .mapM_nil fun part _ => guards_operandTests part.1 column part.2
        apply groups.before
        intro tests _
        exact .ok _

theorem guards_toWhere (filter : Filter) :
    Guards options filter.columns (filter.toWhere options) := by
  have groups :
      Guards options filter.columns
        (filter.entries.mapM fun entry =>
          Filter.entryClauses options entry.1 entry.2) := by
    refine .mapM_column fun entry _ => ?_
    apply (guards_quoteColumn entry.1).before
    intro quoted _
    apply (guards_tests entry.1 entry.2).before
    intro tests _
    exact .ok _
  have clauses : Guards options filter.columns (filter.clauses options) :=
    groups.before fun _ _ => .ok _
  exact clauses.before fun _ _ => .ok _

/-! ## Selects, updates and deletes -/

theorem guards_sortItem (item : SortItem) :
    Guards options [item.column] (item.write options) := by
  apply (guards_validateColumn item.column).before
  intro _ _
  split
  · exact .argument _
  · apply (guards_quote options.quoteStyle item.column).before
    intro quoted _
    exact .ok _

theorem guards_writeOrder (items : List SortItem) :
    Guards options (items.map SortItem.column) (writeOrder options items) := by
  have parts :
      Guards options (items.map SortItem.column)
        (items.mapM (SortItem.write options)) :=
    .mapM_column fun item _ => guards_sortItem item
  exact parts.before fun _ _ => .ok _

theorem guards_source (source : Source) :
    Guards options source.columns (source.write options) := by
  cases source with
  | table name columns =>
      apply (guards_validateTable name).behind
      intro _ _
      split
      · rename_i none
        rw [List.isEmpty_iff] at none
        rw [none]
        exact .ok _
      · apply (guards_quoteColumns columns).before
        intro quoted _
        exact .ok _
  | query sql =>
      simp only [Source.write]
      split
      · exact .argument _
      · exact .ok _

theorem guards_pageTail
    (dialect : Dialect) (order : String) (page : Option Page) :
    Guards options [] (dialect.pageTail order page) := by
  cases page with
  | none => exact .ok _
  | some page =>
      simp only [Dialect.pageTail]
      split
      · exact .argument _
      · exact .ok _

theorem guards_select (dialect : Dialect) (selection : Selection) :
    Guards dialect.options
      (selection.source.columns ++ selection.filter.columns ++
        selection.order.map SortItem.column)
      (dialect.select selection) := by
  rw [List.append_assoc]
  apply (guards_source selection.source).bind
  intro head _
  apply (guards_toWhere selection.filter).bind
  intro condition _
  apply (guards_writeOrder selection.order).before
  intro order _
  apply (guards_pageTail dialect order selection.page).before
  intro page _
  exact .ok _

theorem guards_selectFrom (dialect : Dialect) (sql : String) (filter : Filter) :
    Guards dialect.options filter.columns (dialect.selectFrom sql filter) := by
  have guarded := guards_select dialect ⟨.query sql, filter, [], none⟩
  simp only [Source.columns, List.nil_append, List.map_nil,
    List.append_nil] at guarded
  exact guarded

theorem guards_writeAssignments (assignments : Assignments) :
    Guards options (assignments.map Prod.fst)
      (writeAssignments options assignments) := by
  have parts :
      Guards options (assignments.map Prod.fst)
        (assignments.mapM fun entry => writeAssignment options entry.1) := by
    refine .mapM_column fun entry _ => ?_
    apply (guards_quoteColumn entry.1).before
    intro quoted _
    exact .ok _
  exact parts.before fun _ _ => .ok _

theorem guards_update
    (dialect : Dialect) (table : String) (assignments : Assignments)
    (filter : Filter) :
    Guards dialect.options (assignments.map Prod.fst ++ filter.columns)
      (dialect.update table assignments filter) := by
  apply (guards_validateTable table).behind
  intro _ _
  split
  · exact .argument _
  · split
    · exact .argument _
    · apply (guards_writeAssignments assignments).bind
      intro changes _
      apply (guards_toWhere filter).before
      intro condition _
      exact .ok _

theorem guards_delete (dialect : Dialect) (table : String) (filter : Filter) :
    Guards dialect.options filter.columns (dialect.delete table filter) := by
  apply (guards_validateTable table).behind
  intro _ _
  apply (guards_toWhere filter).before
  intro condition _
  exact .ok _

/-! ## Insertions -/

theorem guards_idRetrieval (dialect : Dialect) :
    Guards options [] dialect.idRetrieval := by
  unfold Dialect.idRetrieval
  split
  · exact .ok _
  · split
    · exact .ok _
    · exact .setting _
  · exact .setting _
  · exact .setting _
  · exact .ok _

theorem guards_alignRows
    (columns : List String) (index : Nat) (rows : List Assignments) :
    Guards options [] (alignRows columns index rows) := by
  induction rows generalizing index with
  | nil => exact .ok _
  | cons row rest induction =>
      unfold alignRows
      split
      · exact .argument _
      · apply (induction (index + 1)).before
        intro others _
        exact .ok _

theorem guards_batchSize (columns rows maxParams maxRows : Nat) :
    Guards options [] (batchSize columns rows maxParams maxRows) := by
  unfold batchSize
  split
  · exact .argument _
  · split
    · exact .argument _
    · exact .ok _

theorem guards_writeBatch
    (style : QuoteStyle) (table : String) (quoted : List String)
    (retrieval : IdRetrieval) (rows : List (List Value)) :
    Guards options [] (writeBatch style table quoted retrieval rows) := by
  have written :
      Guards options [] (writeInsert style table quoted rows retrieval) := by
    cases retrieval with
    | none | firstStride stride | lastStride stride => exact .ok _
    | outputTable column | returning column =>
        apply (guards_quote style column).before
        intro id _
        exact .ok _
  exact written.before fun _ _ => .ok _

/-- The columns of rows. -/
def rowColumns (rows : List Assignments) : List String :=
  rows.flatMap fun row => row.map Prod.fst

/-- A row that has been aligned names no column that the first one does not. -/
theorem PlanSteps.mem_columns
    {dialect : Dialect} {table : String} {first : Assignments}
    {rest : List Assignments} (steps : PlanSteps dialect table first rest) :
    ∀ column ∈ rowColumns (first :: rest), column ∈ first.map Prod.fst := by
  intro column member
  rcases List.mem_flatMap.1 member with ⟨row, listed, named⟩
  rcases exists_of_mem_of_forall₂ steps.forall₂_aligned listed with
    ⟨values, -, aligned⟩
  exact aligned.perm_columns.subset named

theorem guards_planInsert
    (dialect : Dialect) (table : String) (rows : List Assignments) :
    Guards dialect.options (rowColumns rows)
      (dialect.planInsert table rows) := by
  cases rows with
  | nil => exact .ok _
  | cons first rest =>
      have checked :
          Guards dialect.options (first.map Prod.fst)
            (dialect.planInsert table (first :: rest)) := by
        apply (guards_validateTable table).behind
        intro _ _
        apply (guards_idRetrieval dialect).behind
        intro retrieval _
        dsimp only
        split
        · exact .argument _
        · apply (guards_alignRows _ 0 (first :: rest)).behind
          intro aligned _
          apply (guards_quoteColumns (first.map Prod.fst)).before
          intro quoted _
          apply (guards_batchSize _ _ _ _).before
          intro size _
          apply
            (Guards.mapM_nil fun group _ =>
              guards_writeBatch _ table quoted retrieval group).before
          intro batches _
          exact .ok _
      apply checked.widen
      · exact List.subset_append_left _ _
      · intro plan planned
        rcases planInsert_eq_ok_iff.1 planned with ⟨steps, -⟩
        exact steps.mem_columns

/-! ## Requests -/

/-- All columns that a request names. -/
def Request.columns : Request → List String
  | condition filter | selectFrom _ filter | delete _ filter => filter.columns
  | select selection =>
      selection.source.columns ++ selection.filter.columns ++
        selection.order.map SortItem.column
  | update _ assignments filter => assignments.map Prod.fst ++ filter.columns
  | insert _ rows => rowColumns rows

/-- The allow-list guards the columns of every request. -/
theorem guards_write (dialect : Dialect) (request : Request) :
    Guards dialect.options request.columns (request.write dialect) := by
  cases request with
  | condition filter => exact (guards_toWhere filter).map _
  | select selection => exact (guards_select dialect selection).map _
  | selectFrom sql filter => exact (guards_selectFrom dialect sql filter).map _
  | update table assignments filter =>
      exact (guards_update dialect table assignments filter).map _
  | delete table filter => exact (guards_delete dialect table filter).map _
  | insert table rows => exact (guards_planInsert dialect table rows).map _

theorem names_subset_columns (dialect : Dialect) (request : Request) :
    ∀ name ∈ request.names dialect,
      name ∈ request.columns ∨ name ∈ dialect.idColumns := by
  cases request with
  | condition filter | selectFrom sql filter | delete table filter =>
      exact fun _ member => .inl member
  | select selection => exact fun _ member => .inl member
  | update table assignments filter => exact fun _ member => .inl member
  | insert table rows =>
      intro name member
      rcases List.mem_append.1 member with named | isId
      · cases rows with
        | nil => cases named
        | cons first rest => exact .inl (List.mem_append_left _ named)
      · exact .inr isId

end Builders

/-! ## The guarantee -/

theorem allows_iff {options : Options} (limited : options.columns ≠ [])
    (column : String) :
    options.allows column = true ↔ column ∈ options.columns := by
  have some : options.columns.isEmpty = false := by
    rw [List.isEmpty_eq_false_iff]
    exact limited
  rw [Options.allows, some, Bool.false_or, List.contains_iff_mem]

theorem not_allows_iff {options : Options} (column : String) :
    options.allows column = false ↔
      options.columns ≠ [] ∧ column ∉ options.columns := by
  rw [Options.allows, Bool.or_eq_false_iff, List.isEmpty_eq_false_iff,
    ← Bool.not_eq_true, List.contains_iff_mem]

/-- Nothing is quoted but listed columns and the column for ids. -/
theorem quotedIdentifiers_of_write
    {dialect : Dialect} {request : Request} {queries : List Query}
    (allowed : ∀ column ∈ request.columns, column ∈ dialect.options.columns)
    (bare : ∀ text ∈ request.sources, Bare text.toList)
    (written : request.write dialect = .ok queries) :
    ∀ query ∈ queries, ∀ found ∈ quotedIdentifiers query.sql,
      ∃ column ∈ dialect.options.columns ++ dialect.idColumns,
        dialect.quote column = .ok found := by
  have named :
      ∀ name ∈ request.names dialect,
        name ∈ dialect.options.columns ++ dialect.idColumns := by
    intro name member
    rcases names_subset_columns dialect request name member with inside | isId
    · exact List.mem_append_left _ (allowed name inside)
    · exact List.mem_append_right _ isId
  intro query member
  exact
    quotedIdentifiers_of_woven
      (woven_of_write (fun _ given => given) named written query member) bare

theorem quotedIdentifiers_of_writeOrder
    {options : Options} {items : List SortItem} {order : String}
    (allowed : ∀ column ∈ items.map SortItem.column, column ∈ options.columns)
    (written : writeOrder options items = .ok order) :
    ∀ found ∈ quotedIdentifiers order,
      ∃ column ∈ options.columns,
        Identifier.quote options.quoteStyle column = .ok found := by
  have woven :
      Woven options.quoteStyle (· ∈ options.columns) (fun _ => False) order 0 :=
    woven_of_writeOrder (List.forall_mem_map.1 allowed) written
  exact quotedIdentifiers_of_woven woven fun _ none => absurd none id

/--
A list of columns that is not empty is enforced: if anything is written, the
list has all columns that were named, those of every row included, and if the
texts of the caller are bare, every quoted identifier in a statement is the
quoted form of a listed column or of the column for ids.  A column is refused
only if it was named and there is a list without it.
-/
theorem columns_enforced (dialect : Dialect) :
    (dialect.options.columns ≠ [] →
      (∀ request queries, Request.write dialect request = .ok queries →
        (∀ column ∈ request.columns, column ∈ dialect.options.columns) ∧
        ((∀ text ∈ request.sources, Bare text.toList) →
          ∀ query ∈ queries, ∀ found ∈ quotedIdentifiers query.sql,
            ∃ column ∈ dialect.options.columns ++ dialect.idColumns,
              dialect.quote column = .ok found)) ∧
      (∀ items order, writeOrder dialect.options items = .ok order →
        (∀ column ∈ items.map SortItem.column,
          column ∈ dialect.options.columns) ∧
        ∀ found ∈ quotedIdentifiers order,
          ∃ column ∈ dialect.options.columns,
            dialect.quote column = .ok found)) ∧
    (∀ request column,
      Request.write dialect request = .error (.column column) →
        column ∈ request.columns ∧ dialect.options.columns ≠ [] ∧
          column ∉ dialect.options.columns) ∧
    (∀ items column,
      writeOrder dialect.options items = .error (.column column) →
        column ∈ items.map SortItem.column ∧ dialect.options.columns ≠ [] ∧
          column ∉ dialect.options.columns) := by
  refine ⟨fun limited => ⟨?_, ?_⟩, ?_, ?_⟩
  · intro request queries written
    have allowed :
        ∀ column ∈ request.columns, column ∈ dialect.options.columns := by
      intro column member
      exact
        (allows_iff limited column).1
          ((guards_write dialect request).accepted queries written column
            member)
    exact ⟨allowed, fun bare => quotedIdentifiers_of_write allowed bare written⟩
  · intro items order written
    have allowed :
        ∀ column ∈ items.map SortItem.column,
          column ∈ dialect.options.columns := by
      intro column member
      exact
        (allows_iff limited column).1
          ((guards_writeOrder items).accepted order written column member)
    exact ⟨allowed, quotedIdentifiers_of_writeOrder allowed written⟩
  · intro request column failed
    have refused := (guards_write dialect request).refused column failed
    exact ⟨refused.1, (not_allows_iff column).1 refused.2⟩
  · intro items column failed
    have refused := (guards_writeOrder items).refused column failed
    exact ⟨refused.1, (not_allows_iff column).1 refused.2⟩

/-- A dialect with a list of two columns, one of them with a dot. -/
def listedDialect : Dialect :=
  ⟨.sqlServer, { Options.sqlServer with columns := ["a", "shop.b"] }⟩

/-- An update of a column under a condition on another one. -/
def updateOf (changed compared : String) : Request :=
  .update "t" [(changed, .int 1)] (Filter.empty.equals compared (.int 2))

theorem columns_enforced_listedDialect :
    (∃ query,
      (updateOf "a" "shop.b").write listedDialect = .ok [query] ∧
        query.sql = "UPDATE t SET [a] = ? WHERE [shop].[b] = ?" ∧
        quotedIdentifiers query.sql = ["[a]", "[shop].[b]"] ∧
        ∀ found ∈ quotedIdentifiers query.sql,
          ∃ column ∈ ["a", "shop.b"],
            listedDialect.quote column = .ok found) ∧
    (updateOf "a" "secret").write listedDialect =
      .error (.column "secret") ∧
    "secret" ∈ (updateOf "a" "secret").columns ∧
    "secret" ∉ listedDialect.options.columns := by
  rcases columns_enforced listedDialect with ⟨enforced, refused, -⟩
  have written :
      (updateOf "a" "shop.b").write listedDialect =
        .ok [⟨"UPDATE t SET [a] = ? WHERE [shop].[b] = ?",
          [.int 1, .int 2]⟩] := rfl
  have failed :
      (updateOf "a" "secret").write listedDialect =
        .error (.column "secret") := rfl
  have bare : ∀ text ∈ (updateOf "a" "shop.b").sources, Bare text.toList := by
    intro text member
    rcases List.mem_singleton.1 member with rfl
    exact .of_neutral (by decide)
  have guarded :=
    ((enforced (List.cons_ne_nil _ _)).1 _ _ written).2 bare _
      (List.mem_singleton_self _)
  have secret := refused _ _ failed
  exact
    ⟨⟨_, written, rfl, by decide, guarded⟩, failed, secret.1, secret.2.2⟩

end Sqlwright
