import Mathlib.Data.List.Perm.Basic
import Sqlwright.Proofs.Checking
import Sqlwright.Proofs.Lookup
import Sqlwright.Proofs.Planning

/-!
# Aligned rows

A row is aligned with some columns if its values can be put into their order
and nothing is left over.  For distinct columns this is so exactly if the
columns of the row are a permutation of them, and then the values do not depend
on the order in which the row names its columns.

So an insertion that is otherwise in order is planned exactly if the first row
names distinct columns and every row a permutation of them, and the order
within the other rows makes no difference to the plan.
-/

namespace Sqlwright

open Sqlwright.Success

namespace Insertion

/-! ## One row -/

theorem mapM_eq_some_of_forall₂
    {Item Found : Type} {find : Item → Option Found} {items : List Item}
    {found : List Found}
    (each : List.Forall₂ (fun item result => find item = some result)
      items found) :
    items.mapM find = some found := by
  induction each with
  | nil => rfl
  | cons done _ step => simp [List.mapM_cons, done, step]

/-- Distinct columns have their values in an aligned row. -/
theorem Aligned.forall₂_lookup
    {columns : List String} (distinct : columns.Nodup) {row : Assignments}
    {values : List Value} (aligned : Aligned columns row values) :
    List.Forall₂ (fun column value => row.lookup column = some value)
      columns values := by
  have distinctRow : (row.map Prod.fst).Nodup :=
    aligned.perm_columns.nodup_iff.2 distinct
  rw [List.forall₂_iff_zip]
  refine ⟨aligned.length_eq.symm, ?_⟩
  intro column value member
  exact
    lookup_eq_some_of_mem distinctRow (aligned.perm.mem_iff.2 member)

theorem alignRow?_eq_some_iff
    {columns : List String} (distinct : columns.Nodup)
    (row : Assignments) (values : List Value) :
    alignRow? columns row = some values ↔ Aligned columns row values := by
  constructor
  · exact aligned_of_alignRow? distinct
  · intro aligned
    have width : row.length = columns.length := by
      rw [← List.length_map Prod.fst]
      exact aligned.perm_columns.length_eq
    rw [alignRow?, if_pos width]
    exact mapM_eq_some_of_forall₂ (aligned.forall₂_lookup distinct)

/-- A row can be aligned with a permutation of its columns. -/
theorem exists_aligned
    {columns : List String} {row : Assignments}
    (permuted : (row.map Prod.fst).Perm columns) :
    ∃ values, Aligned columns row values := by
  have named :
      List.Forall₂ (fun name (entry : String × Value) => name = entry.1)
        (row.map Prod.fst) row := by
    rw [List.forall₂_map_left_iff]
    exact List.forall₂_same.2 fun _ _ => rfl
  -- the entries of the row in the order of the columns
  rcases List.perm_comp_forall₂ permuted.symm named with
    ⟨ordered, sameNames, sameEntries⟩
  have names : columns = ordered.map Prod.fst := by
    rw [← List.forall₂_eq_eq_eq, List.forall₂_map_right_iff]
    exact sameNames
  refine ⟨ordered.map Prod.snd, ?_, ?_⟩
  · rw [names, List.length_map, List.length_map]
  · have entries :
        (ordered.map Prod.fst).zip (ordered.map Prod.snd) = ordered := by
      rw [List.zip_map', List.map_id']
    rw [names, entries]
    exact sameEntries.symm

theorem exists_alignRow?_iff
    {columns : List String} (distinct : columns.Nodup) (row : Assignments) :
    (∃ values, alignRow? columns row = some values) ↔
      (row.map Prod.fst).Perm columns := by
  simp only [alignRow?_eq_some_iff distinct]
  constructor
  · rintro ⟨values, aligned⟩
    exact aligned.perm_columns
  · exact exists_aligned

/-- The order in which a row names its columns makes no difference. -/
theorem alignRow?_eq_of_perm
    {columns : List String} (distinct : columns.Nodup)
    {row other : Assignments} (permuted : row.Perm other) :
    alignRow? columns other = alignRow? columns row := by
  apply Option.ext
  intro values
  rw [alignRow?_eq_some_iff distinct, alignRow?_eq_some_iff distinct]
  constructor
  · rintro ⟨width, perm⟩
    exact ⟨width, permuted.trans perm⟩
  · rintro ⟨width, perm⟩
    exact ⟨width, permuted.symm.trans perm⟩

/-! ## All rows -/

theorem exists_alignRows_iff
    (columns : List String) (index : Nat) (rows : List Assignments) :
    (∃ aligned, alignRows columns index rows = .ok aligned) ↔
      ∀ row ∈ rows, ∃ values, alignRow? columns row = some values := by
  induction rows generalizing index with
  | nil => simp [alignRows]
  | cons row rest step =>
      rw [List.forall_mem_cons, ← step (index + 1), alignRows]
      cases alignRow? columns row with
      | none => simp
      | some values =>
          simp only [bind_eq_ok, pure_eq_ok, Option.some.injEq,
            exists_eq', true_and]
          constructor
          · rintro ⟨-, others, aligned, -⟩
            exact ⟨others, aligned⟩
          · rintro ⟨others, aligned⟩
            exact ⟨_, others, aligned, rfl⟩

theorem alignRows_eq_of_forall₂
    {columns : List String} {rows others : List Assignments}
    (same :
      List.Forall₂
        (fun row other => alignRow? columns other = alignRow? columns row)
        rows others)
    (index : Nat) :
    alignRows columns index others = alignRows columns index rows := by
  induction same generalizing index with
  | nil => rfl
  | cons equal _ step => rw [alignRows, alignRows, equal, step]

/-! ## Batches -/

/-- A batch is written if the column of its ids has a name in every place. -/
theorem exists_writeBatch_iff
    (style : QuoteStyle) (table : String) (quoted : List String)
    (retrieval : IdRetrieval) (rows : List (List Value)) :
    (∃ batch, writeBatch style table quoted retrieval rows = .ok batch) ↔
      ∀ column ∈ retrieval.columns, ¬ Identifier.Refused column := by
  have written :
      (∃ batch, writeBatch style table quoted retrieval rows = .ok batch) ↔
        ∃ id, ∀ column ∈ retrieval.columns,
          Identifier.quote style column = .ok id := by
    simp only [writeBatch_eq_ok_iff, writeInsert_eq_ok_iff]
    constructor
    · rintro ⟨batch, ⟨id, quotedId, -⟩, -⟩
      exact ⟨id, quotedId⟩
    · rintro ⟨id, quotedId⟩
      exact ⟨⟨_, rows.length⟩, ⟨id, quotedId, rfl⟩, rfl⟩
  rw [written]
  cases retrieval with
  | none | firstStride stride | lastStride stride =>
      simp [IdRetrieval.columns]
  | outputTable column | returning column =>
      simp [IdRetrieval.columns, Identifier.quote_eq_ok_iff_not_refused]

end Insertion

open Insertion

/-! ## Plans -/

/--
What is asked of a table, of the first row's columns and of the options before
any row is compared with the first.
-/
structure Dialect.Plannable (dialect : Dialect) (table : String)
    (columns : List String) : Prop where
  table_named : Text.isBlank table = false
  ids_found : ∃ retrieval, dialect.idRetrieval = .ok retrieval
  columns_nameable : ∀ column ∈ columns, Nameable dialect.options column
  ids_quotable : ∀ column ∈ dialect.idColumns, ¬ Identifier.Refused column
  some_column : columns ≠ []
  /-- One row fits into the limit of placeholders. -/
  row_fits :
    ¬(0 < dialect.options.maxBoundParams ∧
      dialect.options.maxBoundParams < columns.length)

theorem Dialect.idColumns_of_idRetrieval
    {dialect : Dialect} {retrieval : IdRetrieval}
    (found : dialect.idRetrieval = .ok retrieval) :
    dialect.idColumns = retrieval.columns := by
  rw [idColumns, found]

section Plans

variable {dialect : Dialect} {table : String} {first : Assignments}
  {rest : List Assignments}

theorem PlanSteps.plannable (steps : PlanSteps dialect table first rest) :
    dialect.Plannable table (first.map Prod.fst) where
  table_named := (validateTable_eq_ok_iff table ()).1 steps.table_valid
  ids_found := ⟨steps.retrieval, steps.retrieval_found⟩
  columns_nameable :=
    ((dialect.options.quoteColumns_eq_ok_iff _ _).1 steps.columns_quoted).1
  ids_quotable := by
    rw [Dialect.idColumns_of_idRetrieval steps.retrieval_found]
    exact (exists_writeBatch_iff _ _ _ _ []).1 (steps.exists_writeBatch [])
  some_column :=
    List.length_pos_iff.1
      ((batchSize_eq_ok_iff _ _ _ _ _).1 steps.size_found).1
  row_fits := ((batchSize_eq_ok_iff _ _ _ _ _).1 steps.size_found).2.1

/-- Plannable columns and rows that can be aligned with them have a plan. -/
theorem Dialect.Plannable.exists_planInsert
    (plannable : dialect.Plannable table (first.map Prod.fst))
    (distinct : (first.map Prod.fst).Nodup)
    (permuted :
      ∀ row ∈ first :: rest,
        (row.map Prod.fst).Perm (first.map Prod.fst)) :
    ∃ plan, dialect.planInsert table (first :: rest) = .ok plan := by
  rcases plannable.ids_found with ⟨retrieval, retrieval_found⟩
  obtain ⟨aligned, rows_aligned⟩ :
      ∃ aligned,
        alignRows (first.map Prod.fst) 0 (first :: rest) = .ok aligned := by
    apply (exists_alignRows_iff _ _ _).2
    intro row member
    exact (exists_alignRow?_iff distinct row).2 (permuted row member)
  obtain ⟨size, size_found⟩ :
      ∃ size,
        batchSize (first.map Prod.fst).length (first :: rest).length
          dialect.options.maxBoundParams dialect.options.maxInsertRows =
            .ok size :=
    ⟨_, (batchSize_eq_ok_iff _ _ _ _ _).2
      ⟨List.length_pos_iff.2 plannable.some_column, plannable.row_fits, rfl⟩⟩
  have quotable := plannable.ids_quotable
  rw [Dialect.idColumns_of_idRetrieval retrieval_found] at quotable
  obtain ⟨batches, batches_written⟩ :=
    exists_mapM_eq_ok fun group (_ : group ∈ partition size aligned) =>
      (exists_writeBatch_iff dialect.options.quoteStyle table
        ((first.map Prod.fst).map
          (Identifier.quoteAll dialect.options.quoteStyle))
        retrieval group).2 quotable
  exact
    ⟨_, planInsert_eq_ok_iff.2
      ⟨{ retrieval := retrieval
         aligned := aligned
         quoted := _
         size := size
         batches := batches
         table_valid :=
           (validateTable_eq_ok_iff table ()).2 plannable.table_named
         retrieval_found := retrieval_found
         unrepeated := (repeated?_eq_none_iff [] _).2
           ⟨distinct, fun _ _ => List.not_mem_nil⟩
         rows_aligned := rows_aligned
         columns_quoted :=
           (dialect.options.quoteColumns_eq_ok_iff _ _).2
             ⟨plannable.columns_nameable, rfl⟩
         size_found := size_found
         batches_written := batches_written }, rfl⟩⟩

/-- Only through the aligned rows and their number a plan depends on the rows. -/
theorem Dialect.planInsert_eq_of_perm
    {others : List Assignments} (permuted : List.Forall₂ List.Perm rest others) :
    dialect.planInsert table (first :: others) =
      dialect.planInsert table (first :: rest) := by
  have count : (first :: others).length = (first :: rest).length :=
    congrArg (· + 1) permuted.length_eq.symm
  simp only [planInsert, count]
  cases repetition : repeated? [] (first.map Prod.fst) with
  | some column => rfl
  | none =>
      have distinct := ((repeated?_eq_none_iff [] _).1 repetition).1
      have same :
          alignRows (first.map Prod.fst) 0 (first :: others) =
            alignRows (first.map Prod.fst) 0 (first :: rest) := by
        apply alignRows_eq_of_forall₂
        refine .cons rfl (permuted.imp ?_)
        intro row other swapped
        exact alignRow?_eq_of_perm distinct swapped
      simp only [same]

end Plans

/--
An insertion is planned exactly if its table, its options and the columns of
the first row are in order, these columns are distinct, and every row names a
permutation of them.  In which order the other rows name their columns makes no
difference to what comes out, be it a plan or a failure.
-/
theorem Dialect.planInsert_aligns
    (dialect : Dialect) (table : String) (first : Assignments)
    (rest : List Assignments) :
    ((∃ plan, dialect.planInsert table (first :: rest) = .ok plan) ↔
      dialect.Plannable table (first.map Prod.fst) ∧
        (first.map Prod.fst).Nodup ∧
        ∀ row ∈ first :: rest,
          (row.map Prod.fst).Perm (first.map Prod.fst)) ∧
    ∀ others, List.Forall₂ List.Perm rest others →
      dialect.planInsert table (first :: others) =
        dialect.planInsert table (first :: rest) := by
  refine ⟨?_, fun _ permuted => planInsert_eq_of_perm permuted⟩
  constructor
  · rintro ⟨plan, planned⟩
    rcases planInsert_eq_ok_iff.1 planned with ⟨steps, -⟩
    refine ⟨steps.plannable, ?_, ?_⟩
    · exact ((repeated?_eq_none_iff [] _).1 steps.unrepeated).1
    · intro row member
      rcases exists_of_mem_of_forall₂ steps.forall₂_aligned member with
        ⟨values, -, aligned⟩
      exact aligned.perm_columns
  · rintro ⟨plannable, distinct, permuted⟩
    exact plannable.exists_planInsert distinct permuted

/-- Two values in the order of the columns `a` and `b`. -/
def straightRow (left right : Value) : Assignments :=
  [("a", left), ("b", right)]

/-- The same columns with the same values, in the other order. -/
def swappedRow (left right : Value) : Assignments :=
  [("b", right), ("a", left)]

/-- A row that names a column twice is refused, a swapped one makes no change. -/
theorem Dialect.planInsert_aligns_swappedRow :
    ¬ (∃ plan,
        (limitedTo 2 .none).planInsert "t"
          [straightRow (.int 1) (.int 2), [("a", .int 3), ("a", .int 4)]] =
            .ok plan) ∧
      (∃ plan,
        (limitedTo 2 .none).planInsert "t"
          [straightRow (.int 1) (.int 2), swappedRow (.int 3) (.int 4)] =
            .ok plan) ∧
      (straightRow (.int 3) (.int 4)).Perm (swappedRow (.int 3) (.int 4)) ∧
      (limitedTo 2 .none).planInsert "t"
          [straightRow (.int 1) (.int 2), swappedRow (.int 3) (.int 4)] =
        (limitedTo 2 .none).planInsert "t"
          [straightRow (.int 1) (.int 2), straightRow (.int 3) (.int 4)] := by
  have aligns (rest : List Assignments) :=
    (limitedTo 2 .none).planInsert_aligns "t"
      (straightRow (.int 1) (.int 2)) rest
  have plannable : (limitedTo 2 .none).Plannable "t" ["a", "b"] := by
    have quotable : ∀ column ∈ ["a", "b"], ¬ Identifier.Refused column := by
      unfold Identifier.Refused
      decide
    exact
      { table_named := rfl
        ids_found := ⟨.none, rfl⟩
        columns_nameable := fun column member =>
          ⟨.inl rfl, quotable column member⟩
        ids_quotable := fun _ member => absurd member List.not_mem_nil
        some_column := List.cons_ne_nil _ _
        row_fits := by decide }
  have swapped :
      (straightRow (.int 3) (.int 4)).Perm (swappedRow (.int 3) (.int 4)) :=
    .swap _ _ []
  refine ⟨?_, ?_, swapped, ?_⟩
  · rw [(aligns _).1]
    rintro ⟨-, -, permuted⟩
    have twice := permuted _ (List.mem_cons_of_mem _ List.mem_cons_self)
    exact absurd twice (by decide)
  · rw [(aligns _).1]
    exact ⟨plannable, by decide, by decide⟩
  · exact
      (aligns [straightRow (.int 3) (.int 4)]).2
        [swappedRow (.int 3) (.int 4)] (.cons swapped .nil)

end Sqlwright
