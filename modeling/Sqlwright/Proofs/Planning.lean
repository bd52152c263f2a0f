import Mathlib.Data.List.Nodup
import Mathlib.Data.List.Perm.Subperm
import Sqlwright.Insertion.Plan
import Sqlwright.Proofs.Batching
import Sqlwright.Proofs.Lookup
import Sqlwright.Proofs.Request
import Sqlwright.Proofs.Success

/-!
# Plans of insertions

A successful plan is opened into its steps by `planInsert_eq_ok_iff`.  From the
steps follows that a plan is exact: its values are those of the rows, in the
order of the rows and of the columns of the first row, every batch keeps
within the limits, and no division of the rows that keeps within them has
fewer groups.
-/

namespace Sqlwright

open Sqlwright.Success

namespace Insertion

/-! ## Rows and their values -/

/-- A row that consists of the given columns with the given values. -/
structure Aligned (columns : List String) (row : Assignments)
    (values : List Value) : Prop where
  length_eq : values.length = columns.length
  perm : row.Perm (columns.zip values)

/-- The columns of an aligned row are those that it is aligned with. -/
theorem Aligned.perm_columns
    {columns : List String} {row : Assignments} {values : List Value}
    (aligned : Aligned columns row values) :
    (row.map Prod.fst).Perm columns := by
  have permuted := aligned.perm.map Prod.fst
  rwa [List.map_fst_zip (Nat.le_of_eq aligned.length_eq.symm)] at permuted

theorem repeated?_eq_none_iff (seen names : List String) :
    repeated? seen names = none ↔
      names.Nodup ∧ ∀ name ∈ names, name ∉ seen := by
  induction names generalizing seen with
  | nil => simp [repeated?]
  | cons name rest induction =>
      by_cases known : name ∈ seen
      · simp [repeated?, known]
      · simp only [repeated?, List.contains_iff_mem, known, if_false,
          induction, List.nodup_cons, List.mem_cons, not_or]
        constructor
        · rintro ⟨distinct, fresh⟩
          have absent : name ∉ rest := fun member => (fresh name member).1 rfl
          refine ⟨⟨absent, distinct⟩, ?_⟩
          rintro other (rfl | member)
          · exact known
          · exact (fresh other member).2
        · rintro ⟨⟨absent, distinct⟩, fresh⟩
          refine ⟨distinct, fun other member => ⟨?_, fresh other (.inr member)⟩⟩
          rintro rfl
          exact absent member

theorem forall₂_of_mapM_eq_some
    {Item Found : Type} {find : Item → Option Found} {items : List Item}
    {found : List Found}
    (succeeded : items.mapM find = some found) :
    List.Forall₂ (fun item result => find item = some result) items found := by
  induction items generalizing found with
  | nil =>
      cases succeeded
      exact .nil
  | cons item rest induction =>
      simp only [List.mapM_cons, Option.bind_eq_bind, Option.bind_eq_some_iff,
        Option.pure_def, Option.some.injEq] at succeeded
      rcases succeeded with ⟨value, done, values, others, rfl⟩
      exact .cons done (induction others)

/-- Distinct columns with values from a row are entries of the row. -/
theorem zip_subset_of_lookup
    {columns : List String} {row : Assignments} {values : List Value}
    (found :
      List.Forall₂ (fun column value => row.lookup column = some value)
        columns values) :
    columns.zip values ⊆ row := by
  induction found with
  | nil => simp
  | cons lookup others induction =>
      rw [List.zip_cons_cons, List.cons_subset]
      exact ⟨mem_of_lookup_eq_some lookup, induction⟩

theorem aligned_of_alignRow?
    {columns : List String} (distinct : columns.Nodup)
    {row : Assignments} {values : List Value}
    (found : alignRow? columns row = some values) :
    Aligned columns row values := by
  unfold alignRow? at found
  split at found
  · rename_i width
    have lookups := forall₂_of_mapM_eq_some found
    have length_eq : values.length = columns.length := lookups.length_eq.symm
    refine ⟨length_eq, ?_⟩
    have keys : (columns.zip values).map Prod.fst = columns :=
      List.map_fst_zip (by omega)
    have distinctEntries : (columns.zip values).Nodup :=
      List.Nodup.of_map Prod.fst (by rw [keys]; exact distinct)
    have inside : (columns.zip values).Subperm row :=
      distinctEntries.subperm (zip_subset_of_lookup lookups)
    -- as many entries as the row has, so none is left over
    have full : row.length ≤ (columns.zip values).length := by
      rw [List.length_zip, length_eq, Nat.min_self]
      exact Nat.le_of_eq width
    exact (inside.perm_of_length_le full).symm
  · cases found

theorem forall₂_of_alignRows
    {columns : List String} {index : Nat} {rows : List Assignments}
    {aligned : List (List Value)}
    (found : alignRows columns index rows = .ok aligned) :
    List.Forall₂ (fun row values => alignRow? columns row = some values)
      rows aligned := by
  induction rows generalizing index aligned with
  | nil =>
      cases found
      exact .nil
  | cons row rest induction =>
      unfold alignRows at found
      cases first : alignRow? columns row with
      | none =>
          rw [first] at found
          cases found
      | some values =>
          rw [first] at found
          simp only [bind_eq_ok, pure_eq_ok] at found
          rcases found with ⟨others, remaining, rfl⟩
          exact .cons first (induction remaining)

/-! ## Statements of batches -/

/-- The part of an insert statement in front of its values. -/
def insertHead (table : String) (quoted : List String) : String :=
  "INSERT INTO " ++ table ++ " (" ++ ", ".intercalate quoted ++ ")"

/-- The text of an insert statement that finds ids in the quoted column `id`. -/
def insertText (head values id : String) : IdRetrieval → String
  | .outputTable _ =>
      "DECLARE @ids TABLE(RowID int); " ++ head ++ " OUTPUT inserted." ++ id ++
        " INTO @ids(RowID) " ++ values ++ "; SELECT * FROM @ids;"
  | .returning _ => head ++ " " ++ values ++ " RETURNING " ++ id
  | _ => head ++ " " ++ values

/-- An insert statement is written if the column of its ids can be quoted. -/
theorem writeInsert_eq_ok_iff
    {style : QuoteStyle} {table : String} {quoted : List String}
    {rows : List (List Value)} {retrieval : IdRetrieval} {query : Query} :
    writeInsert style table quoted rows retrieval = .ok query ↔
      ∃ id,
        (∀ column ∈ retrieval.columns,
          Identifier.quote style column = .ok id) ∧
        query =
          ⟨insertText (insertHead table quoted)
            ("VALUES " ++ placeholders quoted.length rows.length) id retrieval,
            rows.flatten⟩ := by
  cases retrieval with
  | none | firstStride stride | lastStride stride =>
      simp only [IdRetrieval.columns, List.not_mem_nil, false_implies,
        implies_true, true_and]
      constructor
      · intro written
        cases written
        exact ⟨"", rfl⟩
      · rintro ⟨-, rfl⟩
        rfl
  | outputTable column | returning column =>
      simp only [IdRetrieval.columns, List.mem_singleton, forall_eq]
      constructor
      · intro written
        rcases bind_eq_ok.1 written with ⟨id, quotedId, rest⟩
        cases rest
        exact ⟨id, quotedId, rfl⟩
      · rintro ⟨id, quotedId, rfl⟩
        exact bind_eq_ok.2 ⟨id, quotedId, rfl⟩

theorem writeBatch_eq_ok_iff
    {style : QuoteStyle} {table : String} {quoted : List String}
    {retrieval : IdRetrieval} {rows : List (List Value)} {batch : Batch} :
    writeBatch style table quoted retrieval rows = .ok batch ↔
      writeInsert style table quoted rows retrieval = .ok batch.query ∧
        batch.rowCount = rows.length := by
  simp only [writeBatch, bind_eq_ok, pure_eq_ok]
  constructor
  · rintro ⟨query, written, rfl⟩
    exact ⟨written, rfl⟩
  · rintro ⟨written, count⟩
    exact ⟨batch.query, written, by rw [← count]⟩

theorem params_of_writeBatch
    {style : QuoteStyle} {table : String} {quoted : List String}
    {retrieval : IdRetrieval} {rows : List (List Value)} {batch : Batch}
    (written : writeBatch style table quoted retrieval rows = .ok batch) :
    batch.query.params = rows.flatten := by
  rcases writeInsert_eq_ok_iff.1 (writeBatch_eq_ok_iff.1 written).1 with
    ⟨id, -, same⟩
  rw [same]

/-- Whether a batch can be written does not depend on its rows. -/
theorem exists_writeBatch
    {style : QuoteStyle} {table : String} {quoted : List String}
    {retrieval : IdRetrieval} {rows : List (List Value)} {batch : Batch}
    (written : writeBatch style table quoted retrieval rows = .ok batch)
    (others : List (List Value)) :
    ∃ other, writeBatch style table quoted retrieval others = .ok other := by
  rcases writeInsert_eq_ok_iff.1 (writeBatch_eq_ok_iff.1 written).1 with
    ⟨id, quotedId, -⟩
  exact
    ⟨⟨_, others.length⟩,
      writeBatch_eq_ok_iff.2
        ⟨writeInsert_eq_ok_iff.2 ⟨id, quotedId, rfl⟩, rfl⟩⟩

end Insertion

open Insertion

/-! ## The steps of a plan -/

/-- The results of all steps of a successful plan for `first :: rest`. -/
structure PlanSteps (dialect : Dialect) (table : String)
    (first : Assignments) (rest : List Assignments) where
  retrieval : IdRetrieval
  aligned : List (List Value)
  quoted : List String
  size : Nat
  batches : List Batch
  table_valid : validateTable table = .ok ()
  retrieval_found : dialect.idRetrieval = .ok retrieval
  unrepeated : repeated? [] (first.map Prod.fst) = none
  rows_aligned :
    alignRows (first.map Prod.fst) 0 (first :: rest) = .ok aligned
  columns_quoted :
    dialect.options.quoteColumns (first.map Prod.fst) = .ok quoted
  size_found :
    batchSize (first.map Prod.fst).length (first :: rest).length
      dialect.options.maxBoundParams dialect.options.maxInsertRows = .ok size
  batches_written :
    (partition size aligned).mapM
      (writeBatch dialect.options.quoteStyle table quoted retrieval) =
        .ok batches

theorem planInsert_eq_ok_iff
    {dialect : Dialect} {table : String} {first : Assignments}
    {rest : List Assignments} {plan : InsertPlan} :
    dialect.planInsert table (first :: rest) = .ok plan ↔
      ∃ steps : PlanSteps dialect table first rest,
        plan = ⟨steps.batches, steps.retrieval⟩ := by
  constructor
  · intro planned
    simp only [Dialect.planInsert, bind_eq_ok] at planned
    rcases planned with ⟨⟨⟩, table_valid, retrieval, retrieval_found, planned⟩
    split at planned
    · cases planned
    · rename_i unrepeated
      simp only [bind_eq_ok, pure_eq_ok] at planned
      rcases planned with
        ⟨aligned, rows_aligned, quoted, columns_quoted, size, size_found,
         batches, batches_written, rfl⟩
      exact
        ⟨⟨retrieval, aligned, quoted, size, batches, table_valid,
          retrieval_found, unrepeated, rows_aligned, columns_quoted,
          size_found, batches_written⟩, rfl⟩
  · rintro ⟨steps, rfl⟩
    simp only [Dialect.planInsert, bind_eq_ok]
    refine
      ⟨(), steps.table_valid, steps.retrieval, steps.retrieval_found, ?_⟩
    rw [steps.unrepeated]
    simp only [bind_eq_ok, pure_eq_ok]
    exact
      ⟨steps.aligned, steps.rows_aligned, steps.quoted, steps.columns_quoted,
        steps.size, steps.size_found, steps.batches, steps.batches_written,
        rfl⟩

namespace PlanSteps

variable {dialect : Dialect} {table : String} {first : Assignments}
  {rest : List Assignments}

/-- Every row is aligned with its values. -/
theorem forall₂_aligned (steps : PlanSteps dialect table first rest) :
    List.Forall₂ (Aligned (first.map Prod.fst)) (first :: rest)
      steps.aligned := by
  have distinct := ((repeated?_eq_none_iff [] _).1 steps.unrepeated).1
  exact (forall₂_of_alignRows steps.rows_aligned).imp
    fun _ _ found => aligned_of_alignRow? distinct found

theorem length_aligned (steps : PlanSteps dialect table first rest) :
    steps.aligned.length = (first :: rest).length :=
  steps.forall₂_aligned.length_eq.symm

theorem length_of_mem_aligned (steps : PlanSteps dialect table first rest) :
    ∀ values ∈ steps.aligned, values.length = first.length := by
  refine forall_right_of_forall₂ steps.forall₂_aligned ?_
  intro row _ values alignment
  simpa using alignment.length_eq

/-- The batches write the groups of the partition one by one. -/
theorem forall₂_batches (steps : PlanSteps dialect table first rest) :
    List.Forall₂
      (fun group batch =>
        batch.query.params = group.flatten ∧ batch.rowCount = group.length)
      (partition steps.size steps.aligned) steps.batches :=
  (mapM_eq_ok.1 steps.batches_written).imp fun _ _ written =>
    ⟨params_of_writeBatch written, (writeBatch_eq_ok_iff.1 written).2⟩

/-- The batches together hold the values of all rows in order. -/
theorem flatten_params (steps : PlanSteps dialect table first rest) :
    (steps.batches.map fun batch => batch.query.params).flatten =
      steps.aligned.flatten := by
  rw [map_eq_map_of_forall₂ steps.forall₂_batches
    fun _ _ written => written.1]
  rw [← List.flatten_flatten, flatten_partition]

theorem sum_rowCount (steps : PlanSteps dialect table first rest) :
    (steps.batches.map Batch.rowCount).sum = (first :: rest).length := by
  rw [map_eq_map_of_forall₂ steps.forall₂_batches
    fun _ _ written => written.2]
  rw [sum_length_partition, steps.length_aligned]

theorem width_of_mem_partition (steps : PlanSteps dialect table first rest)
    {group : List (List Value)}
    (member : group ∈ partition steps.size steps.aligned) :
    ∀ values ∈ group, values.length = first.length := by
  intro values inside
  apply steps.length_of_mem_aligned
  rw [← flatten_partition steps.size steps.aligned]
  exact List.mem_flatten_of_mem member inside

/-- Every group of the partition is a group of rows that fits. -/
theorem fits_of_mem_partition (steps : PlanSteps dialect table first rest)
    {group : List (List Value)}
    (member : group ∈ partition steps.size steps.aligned) :
    0 < group.length ∧ group.flatten.length = group.length * first.length ∧
      Fits first.length dialect.options.maxBoundParams
        dialect.options.maxInsertRows group.length := by
  rcases length_of_mem_partition member with ⟨positive, bounded⟩
  have width := steps.width_of_mem_partition member
  rw [Nat.max_eq_left (batchSize_pos steps.size_found)] at bounded
  have fits := ((le_batchSize_iff steps.size_found group.length).1 bounded).1
  rw [List.length_map] at fits
  exact ⟨positive, length_flatten_of_forall width, fits⟩

/-- No division of the rows into groups that fit has fewer groups. -/
theorem length_batches_le (steps : PlanSteps dialect table first rest)
    {groups : List (List Assignments)}
    (divided : groups.flatten = first :: rest)
    (fitting :
      ∀ group ∈ groups,
        Fits first.length dialect.options.maxBoundParams
          dialect.options.maxInsertRows group.length) :
    steps.batches.length ≤ groups.length := by
  rw [← steps.forall₂_batches.length_eq]
  apply length_partition_le (batchSize_pos steps.size_found)
  · rw [divided, steps.length_aligned]
  · intro group member
    have inside : group.length ≤ (first :: rest).length := by
      rw [← divided]
      exact (List.sublist_flatten_of_mem member).length_le
    apply (le_batchSize_iff steps.size_found group.length).2
    rw [List.length_map]
    exact
      ⟨fitting group member, Nat.le_trans inside (Nat.le_max_left _ _)⟩

/-- A plan has a batch, and so any other rows can be written as well. -/
theorem exists_writeBatch (steps : PlanSteps dialect table first rest)
    (others : List (List Value)) :
    ∃ batch,
      writeBatch dialect.options.quoteStyle table steps.quoted
        steps.retrieval others = .ok batch := by
  have written := mapM_eq_ok.1 steps.batches_written
  obtain ⟨values, remaining, split⟩ :
      ∃ values remaining, steps.aligned = values :: remaining :=
    List.exists_cons_of_length_eq_add_one steps.length_aligned
  rw [split, partition_cons] at written
  rcases List.forall₂_cons_left_iff.1 written with ⟨batch, -, head, -⟩
  exact Insertion.exists_writeBatch head others

end PlanSteps

/-! ## Exact plans -/

/-- A dialect with the same checks but without limits. -/
def Dialect.unlimited (dialect : Dialect) : Dialect :=
  { dialect with
    options := { dialect.options with maxBoundParams := 0, maxInsertRows := 0 } }

@[simp]
theorem Dialect.idRetrieval_unlimited (dialect : Dialect) :
    dialect.unlimited.idRetrieval = dialect.idRetrieval := rfl

@[simp]
theorem Dialect.quoteColumns_unlimited
    (dialect : Dialect) (columns : List String) :
    dialect.unlimited.options.quoteColumns columns =
      dialect.options.quoteColumns columns := rfl

/-- What a plan for some rows has to be, the first of which is `first`. -/
structure ExactPlan (options : Options) (first : Assignments)
    (rows : List Assignments) (plan : InsertPlan) : Prop where
  /-- The values of the rows, row by row, in the order of the first row. -/
  values :
    ∃ aligned,
      List.Forall₂ (Aligned (first.map Prod.fst)) rows aligned ∧
        (plan.batches.map fun batch => batch.query.params).flatten =
          aligned.flatten
  bounds :
    ∀ batch ∈ plan.batches,
      1 ≤ batch.rowCount ∧
        batch.query.params.length = batch.rowCount * first.length ∧
        (0 < options.maxBoundParams →
          batch.query.params.length ≤ options.maxBoundParams) ∧
        (0 < options.maxInsertRows → batch.rowCount ≤ options.maxInsertRows)
  row_total : (plan.batches.map Batch.rowCount).sum = rows.length
  /-- No division into groups that keep within the limits has fewer groups. -/
  fewest :
    ∀ groups : List (List Assignments), groups.flatten = rows →
      (∀ group ∈ groups,
        Fits first.length options.maxBoundParams options.maxInsertRows
          group.length) →
        plan.batches.length ≤ groups.length

namespace PlanSteps

variable {dialect : Dialect} {table : String} {first : Assignments}
  {rest : List Assignments}

theorem exactPlan (steps : PlanSteps dialect table first rest) :
    ExactPlan dialect.options first (first :: rest)
      ⟨steps.batches, steps.retrieval⟩ where
  values := ⟨steps.aligned, steps.forall₂_aligned, steps.flatten_params⟩
  bounds := by
    refine forall_right_of_forall₂ steps.forall₂_batches ?_
    intro group member batch written
    rcases steps.fits_of_mem_partition member with ⟨positive, width, fits⟩
    rw [written.1, written.2]
    refine ⟨positive, width, ?_, fits.rows_le⟩
    rw [width]
    exact fits.params_le
  row_total := steps.sum_rowCount
  fewest := fun _ divided fitting => steps.length_batches_le divided fitting

/-- A row that is too wide is what the limits refuse. -/
theorem planInsert_of_wide
    (steps : PlanSteps dialect.unlimited table first rest)
    (limit : 0 < dialect.options.maxBoundParams)
    (wide : dialect.options.maxBoundParams < first.length) :
    dialect.planInsert table (first :: rest) =
      .error (.argument
        (.rowTooWide first.length dialect.options.maxBoundParams)) := by
  have width : (first.map Prod.fst).length = first.length := List.length_map _
  have refused :
      batchSize first.length (first :: rest).length
        dialect.options.maxBoundParams dialect.options.maxInsertRows =
          .error (.argument
            (.rowTooWide first.length dialect.options.maxBoundParams)) :=
    batchSize_eq_error_of_wide limit wide
  have found := steps.retrieval_found
  have quoted := steps.columns_quoted
  rw [Dialect.idRetrieval_unlimited] at found
  rw [Dialect.quoteColumns_unlimited] at quoted
  simp only [Dialect.planInsert, steps.table_valid, found, steps.unrepeated,
    steps.rows_aligned, quoted, width, refused]
  rfl

/-- Rows that are not too wide are planned under any limits. -/
theorem exists_planInsert
    (steps : PlanSteps dialect.unlimited table first rest)
    (narrow :
      ¬(0 < dialect.options.maxBoundParams ∧
        dialect.options.maxBoundParams < first.length)) :
    ∃ plan, dialect.planInsert table (first :: rest) = .ok plan := by
  have nonempty := ((batchSize_eq_ok_iff _ _ _ _ _).1 steps.size_found).1
  obtain ⟨size, size_found⟩ :
      ∃ size,
        batchSize (first.map Prod.fst).length (first :: rest).length
          dialect.options.maxBoundParams dialect.options.maxInsertRows =
            .ok size :=
    ⟨_, (batchSize_eq_ok_iff _ _ _ _ _).2
      ⟨nonempty, by rwa [List.length_map], rfl⟩⟩
  rcases
      exists_mapM_eq_ok
        fun group (_ : group ∈ partition size steps.aligned) =>
          steps.exists_writeBatch group with
    ⟨batches, batches_written⟩
  exact
    ⟨_, planInsert_eq_ok_iff.2
      ⟨{ steps with
          size := size
          batches := batches
          size_found := size_found
          batches_written := batches_written }, rfl⟩⟩

end PlanSteps

/--
Every plan is exact.  If rows can be planned without limits, the limits refuse
them exactly when a single row has more columns than a statement may have
placeholders.
-/
theorem planInsert_exact
    (dialect : Dialect) (table : String) (first : Assignments)
    (rest : List Assignments) :
    (∀ plan, dialect.planInsert table (first :: rest) = .ok plan →
      ExactPlan dialect.options first (first :: rest) plan) ∧
    ((∃ plan, dialect.unlimited.planInsert table (first :: rest) = .ok plan) →
      ∀ failure,
        dialect.planInsert table (first :: rest) = .error failure ↔
          (0 < dialect.options.maxBoundParams ∧
            dialect.options.maxBoundParams < first.length) ∧
          failure =
            .argument
              (.rowTooWide first.length dialect.options.maxBoundParams)) := by
  constructor
  · intro plan planned
    rcases planInsert_eq_ok_iff.1 planned with ⟨steps, rfl⟩
    exact steps.exactPlan
  · rintro ⟨plan, planned⟩ failure
    rcases planInsert_eq_ok_iff.1 planned with ⟨steps, -⟩
    constructor
    · intro refused
      by_cases wide :
          0 < dialect.options.maxBoundParams ∧
            dialect.options.maxBoundParams < first.length
      · rw [steps.planInsert_of_wide wide.1 wide.2] at refused
        cases refused
        exact ⟨wide, rfl⟩
      · rcases steps.exists_planInsert wide with ⟨other, succeeded⟩
        rw [succeeded] at refused
        cases refused
    · rintro ⟨wide, rfl⟩
      exact steps.planInsert_of_wide wide.1 wide.2

/-- A dialect that allows some number of placeholders in a statement. -/
def limitedTo (placeholders : Nat) (retrieval : IdRetrieval) : Dialect :=
  ⟨.generic retrieval, { Options.generic with maxBoundParams := placeholders }⟩

/-- Three rows of two columns, which the second row names in reverse. -/
def twoColumnRows : List Assignments :=
  [[("a", .int 1), ("b", .int 2)],
    [("b", .int 4), ("a", .int 3)],
    [("a", .int 5), ("b", .int 6)]]

theorem planInsert_twoColumnRows
    {placeholders size : Nat} {retrieval : IdRetrieval}
    {groups : List (List (List Value))} {batches : List Batch}
    (found : (limitedTo placeholders retrieval).idRetrieval = .ok retrieval)
    (size_found :
      batchSize 2 3 placeholders Options.generic.maxInsertRows = .ok size)
    (divided :
      partition size
        [[.int 1, .int 2], [.int 3, .int 4], [.int 5, .int 6]] = groups)
    (written :
      groups.mapM (writeBatch .ansi "t" ["\"a\"", "\"b\""] retrieval) =
        .ok batches) :
    (limitedTo placeholders retrieval).planInsert "t" twoColumnRows =
      .ok ⟨batches, retrieval⟩ :=
  planInsert_eq_ok_iff.2
    ⟨⟨retrieval, _, _, size, batches, rfl, found, rfl, rfl, rfl, size_found,
      divided ▸ written⟩, rfl⟩

/-- The rows in groups of two. -/
theorem partition_twoColumnRows :
    partition 2 [[.int 1, .int 2], [.int 3, .int 4], [.int 5, .int 6]] =
      [[[Value.int 1, .int 2], [.int 3, .int 4]], [[.int 5, .int 6]]] := by
  simp [partition_cons]

/-- The rows in two batches, with a tail that tells how ids are found. -/
def twoBatches (tail : String) : List Batch :=
  [⟨⟨"INSERT INTO t (\"a\", \"b\") VALUES (?,?),(?,?)" ++ tail,
      [.int 1, .int 2, .int 3, .int 4]⟩, 2⟩,
    ⟨⟨"INSERT INTO t (\"a\", \"b\") VALUES (?,?)" ++ tail,
      [.int 5, .int 6]⟩, 1⟩]

/-- Four placeholders hold two of the rows, and one does not hold any. -/
theorem planInsert_exact_twoColumnRows :
    (∃ plan,
      (limitedTo 4 .none).planInsert "t" twoColumnRows = .ok plan ∧
        plan.batches.map Batch.rowCount = [2, 1] ∧
        ExactPlan (limitedTo 4 .none).options [("a", .int 1), ("b", .int 2)]
          twoColumnRows plan) ∧
    (limitedTo 1 .none).planInsert "t" twoColumnRows =
      .error (.argument (.rowTooWide 2 1)) := by
  constructor
  · have size : batchSize 2 3 4 Options.generic.maxInsertRows = .ok 2 := rfl
    have planned :
        (limitedTo 4 .none).planInsert "t" twoColumnRows =
          .ok ⟨twoBatches "", .none⟩ :=
      planInsert_twoColumnRows rfl size partition_twoColumnRows rfl
    exact ⟨_, planned, rfl, (planInsert_exact _ _ _ _).1 _ planned⟩
  · have undivided :
        partition 3 [[.int 1, .int 2], [.int 3, .int 4], [.int 5, .int 6]] =
          [[[Value.int 1, .int 2], [.int 3, .int 4], [.int 5, .int 6]]] := by
      simp [partition_cons]
    have size : batchSize 2 3 0 Options.generic.maxInsertRows = .ok 3 := rfl
    have unlimited : (limitedTo 1 .none).unlimited = limitedTo 0 .none := rfl
    have free :
        ∃ plan,
          (limitedTo 1 .none).unlimited.planInsert "t" twoColumnRows =
            .ok plan := by
      rw [unlimited]
      exact ⟨_, planInsert_twoColumnRows rfl size undivided rfl⟩
    exact ((planInsert_exact _ _ _ _).2 free _).2 ⟨by decide, rfl⟩

end Sqlwright
