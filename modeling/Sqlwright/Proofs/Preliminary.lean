import Mathlib.Algebra.Order.BigOperators.Group.List
import Sqlwright.Proofs.Inserting
import Sqlwright.Proofs.Scripting

/-!
# Failures before the backend is asked

Arguments and settings are looked at while statements are written, and then
only the driver and its answers can fail.  So a preliminary failure should
leave the connection as it was, and all calls keep to that but one: a stride
that does not fit into an id is only found when the ids of a batch are
rebuilt, and by then the batch has been inserted.

`Session.cautious_iff` says for which dialects preliminary failures come first.
-/

namespace Sqlwright

open Sqlwright.Insertion
open Sqlwright.Success

variable {Connection Cursor : Type}

/-- A result that does not fail for a reason that was there from the start. -/
def Late {Result : Type} (result : Except Failure Result) : Prop :=
  ∀ failure, result = .error failure → failure.isPreliminary = false

namespace Late

variable {First Second : Type}

theorem of_ok {result : Except Failure First} {value : First}
    (succeeded : result = .ok value) : Late result := by
  intro failure failed
  rw [succeeded] at failed
  cases failed

theorem of_error {result : Except Failure First} {failure : Failure}
    (failed : result = .error failure)
    (later : failure.isPreliminary = false) : Late result := by
  intro other same
  rw [failed] at same
  cases same
  exact later

theorem map {result : Except Failure First} (late : Late result)
    (change : First → Second) : Late (result.map change) := by
  cases result with
  | ok value => exact .of_ok rfl
  | error failure => exact .of_error rfl (late failure rfl)

theorem bind {result : Except Failure First}
    {next : First → Except Failure Second} (late : Late result)
    (later : ∀ value, Late (next value)) : Late (result.bind next) := by
  cases result with
  | ok value => exact later value
  | error failure => exact .of_error rfl (late failure rfl)

theorem ite {condition : Prop} [Decidable condition]
    {yes no : Except Failure First} (first : Late yes) (second : Late no) :
    Late (if condition then yes else no) := by
  split
  · exact first
  · exact second

end Late

/-! ## Statements -/

namespace Statement

variable (driver : Driver Connection Cursor) (statement : Statement Cursor)
  (connection : Connection)

theorem late_leave (next : Phase Cursor) :
    Late (statement.leave driver next connection).result := by
  unfold leave
  split
  · split
    · exact .of_ok rfl
    · exact .of_error rfl rfl
  · exact .of_ok rfl

theorem late_close : Late (statement.close driver connection).result := by
  unfold close
  split
  · exact .of_error rfl rfl
  · exact late_leave driver statement connection .closed

theorem late_next : Late (statement.next driver connection).result := by
  unfold next
  split
  · split
    · exact .of_ok rfl
    · exact (late_leave driver statement _ .finished).map _
    · exact .of_error rfl rfl
  · exact .of_ok rfl

theorem late_drain : Late (statement.drain driver connection).result := by
  fun_induction drain driver statement connection with
  | case1 statement connection row found rest induction =>
      exact induction.map _
  | case2 => exact .of_ok rfl
  | case3 statement connection failure found =>
      exact .of_error rfl (late_next driver statement connection failure found)

theorem late_all : Late (statement.all driver connection).result := by
  by_cases spent : statement.Spent
  · rcases claim_of_spent spent with ⟨fault, refused⟩
    simp only [all, claiming, refused]
    exact .of_error rfl rfl
  · simp only [all, claiming, claim_of_not_spent spent]
    exact late_drain driver _ connection

theorem late_execute (options : Options) (query : Query) :
    Late (execute driver options query connection).1 := by
  unfold execute
  split
  · exact .of_error rfl rfl
  · split
    · exact .of_error rfl rfl
    · dsimp only
      split
      · exact .of_ok rfl
      · exact (late_leave driver _ _ .finished).map _

end Statement

/-! ## Ids -/

namespace Insertion

/-- Ids are only refused for what the driver has reported. -/
theorem late_reconstructIds
    {retrieval : IdRetrieval} {rows : Nat} (reported : Option Int64)
    (narrow :
      ∀ stride, retrieval.stride? = some stride → stride ≤ greatestId)
    (few : rows ≤ greatestId) :
    Late (reconstructIds retrieval reported rows) := by
  have spread (fromLast : Bool) (id : Int64) {stride : Nat}
      (known : retrieval.stride? = some stride) :
      Late (spreadIds fromLast stride id rows) := by
    have inside := narrow stride known
    simp only [spreadIds]
    rw [if_neg (by omega), if_neg (by omega)]
    exact .ite (.of_error rfl rfl) (.of_ok rfl)
  unfold reconstructIds
  split
  · exact .of_ok rfl
  · split
    · exact spread _ _ rfl
    · exact spread _ _ rfl
    · exact .of_ok rfl

/-- A distance that is no id is only found when an id has been reported. -/
theorem reconstructIds_of_wide
    {retrieval : IdRetrieval} {stride : Nat} {id : Int64} (rows : Nat)
    (known : retrieval.stride? = some stride) (wide : greatestId < stride)
    (generated : id ≠ 0) :
    reconstructIds retrieval (some id) rows =
      .error (.setting (.strideOutOfRange stride)) := by
  rw [reconstructIds_of_stride known generated, spreadIds]
  exact if_pos wide

end Insertion

namespace Session

theorem late_returnedId (value : Option Value) : Late (returnedId value) := by
  unfold returnedId
  split
  · exact .of_ok rfl
  · split
    · exact .of_ok rfl
    · exact .of_error rfl rfl
  · exact .of_error rfl rfl

theorem late_returnedIds (rows : List Row) : Late (returnedIds rows) := by
  unfold returnedIds
  induction rows with
  | nil => exact .of_ok rfl
  | cons row rows induction =>
      rw [List.mapM_cons]
      exact
        (late_returnedId _).bind fun id => induction.bind fun ids => .of_ok rfl

variable (session : Session Connection Cursor) {retrieval : IdRetrieval}

section

variable
  (narrow : ∀ stride, retrieval.stride? = some stride → stride ≤ greatestId)

include narrow

theorem late_readBatch
    {rowCount : Nat} (few : rowCount ≤ greatestId)
    (statement : Statement Cursor) (connection : Connection) :
    Late
      (session.readBatch retrieval rowCount statement connection).result := by
  unfold readBatch
  split
  · exact
      ((Statement.late_all session.driver statement connection).bind
        late_returnedIds).map _
  · exact (late_reconstructIds _ narrow few).map _

theorem late_insertBatch
    {batch : Batch} (few : batch.rowCount ≤ greatestId)
    (connection : Connection) :
    Late (session.insertBatch retrieval batch connection).1 := by
  have started :=
    Statement.late_execute session.driver connection session.dialect.options
      batch.query
  unfold insertBatch
  split
  · rename_i failure after ran
    exact .of_error rfl (started failure (congrArg Prod.fst ran))
  · rename_i statement after ran
    have read := late_readBatch session narrow few statement after
    dsimp only
    split
    · rename_i failure failed
      exact .of_error rfl (read failure failed)
    · exact (Statement.late_close session.driver _ _).map _

theorem late_insertBatches
    {batches : List Batch}
    (few : ∀ batch ∈ batches, batch.rowCount ≤ greatestId)
    (connection : Connection) :
    Late (session.insertBatches retrieval batches connection).1 := by
  induction batches generalizing connection with
  | nil => exact .of_ok rfl
  | cons batch batches induction =>
      simp only [List.forall_mem_cons] at few
      have head := late_insertBatch session narrow few.1 connection
      unfold insertBatches
      split
      · rename_i failure after inserted
        exact .of_error rfl (head failure (congrArg Prod.fst inserted))
      · rename_i ids affected after inserted
        have tail := induction few.2 after
        split
        · rename_i failure final others
          exact .of_error rfl (tail failure (congrArg Prod.fst others))
        · exact .of_ok rfl

end

/-! ## Calls -/

/-- A preliminary failure leaves the connection as it was. -/
def Cautious {Result : Type} (before : Connection)
    (answered : Except Failure Result × Connection) : Prop :=
  ∀ failure,
    answered.1 = .error failure →
      failure.isPreliminary = true → answered.2 = before

theorem Cautious.of_late
    {Result : Type} {before : Connection}
    {answered : Except Failure Result × Connection} (late : Late answered.1) :
    Cautious before answered := by
  intro failure failed preliminary
  rw [late failure failed] at preliminary
  cases preliminary

theorem Cautious.replyWith
    {Result : Type} {before : Connection}
    {answered : Except Failure Result × Connection}
    (cautious : Cautious before answered) (wrap : Result → Reply Cursor) :
    Cautious before (replyWith wrap answered) := by
  rcases answered with ⟨failure | result, after⟩
  · intro other same
    cases same
    exact cautious failure rfl
  · intro other same
    cases same

theorem cautious_runWritten
    (written : Except Failure Query) (before : Connection) :
    Cautious before (session.runWritten written before) := by
  cases written with
  | error failure =>
      intro other same preliminary
      rfl
  | ok query =>
      exact
        .of_late
          (Statement.late_execute session.driver before
            session.dialect.options query)

theorem cautious_count
    (written : Except Failure Query) (before : Connection) :
    Cautious before (session.count written before) := by
  have cautious := cautious_runWritten session written before
  unfold count
  split
  · intro failure same
    cases same
  · rename_i failure after ran
    rw [ran] at cautious
    intro other same
    cases same
    exact cautious failure rfl

theorem cautious_transact
    (transaction : Transaction) (before : Connection) :
    Cautious before (session.transact transaction before) := by
  apply Cautious.of_late
  unfold transact
  split
  · exact .of_ok rfl
  · exact .of_error rfl rfl

end Session

/-- The ids of a dialect are at a distance that is an id itself. -/
def Dialect.Narrow (dialect : Dialect) : Prop :=
  ∀ retrieval stride,
    dialect.idRetrieval = .ok retrieval →
      retrieval.stride? = some stride → stride ≤ greatestId

/-- There is a column that statements may name, so that rows can be inserted. -/
def Dialect.NamesColumn (dialect : Dialect) : Prop :=
  ∃ column quoted, dialect.options.quoteColumn column = .ok quoted

namespace PlanSteps

variable {dialect : Dialect} {table : String} {first : Assignments}
  {rest : List Assignments}

theorem rowCount_le (steps : PlanSteps dialect table first rest) :
    ∀ batch ∈ steps.batches, batch.rowCount ≤ (first :: rest).length := by
  intro batch member
  rw [← steps.sum_rowCount]
  exact List.le_sum_of_mem (List.mem_map_of_mem member)

/-- A row of a plan has a column, and its name could be quoted. -/
theorem namesColumn (steps : PlanSteps dialect table first rest) :
    dialect.NamesColumn := by
  have nonempty := ((batchSize_eq_ok_iff _ _ _ _ _).1 steps.size_found).1
  have quoted := mapM_eq_ok.1 steps.columns_quoted
  cases columns : first.map Prod.fst with
  | nil =>
      rw [columns] at nonempty
      cases nonempty
  | cons column others =>
      rw [columns] at quoted
      rcases List.forall₂_cons_left_iff.1 quoted with ⟨name, _, found, _⟩
      exact ⟨column, name, found⟩

end PlanSteps

namespace Session

/-- No more rows than a memory with addresses of 64 bits can hold. -/
def Call.InMemory : Call → Prop
  | insertRows _ rows => rows.length ≤ greatestId
  | _ => True

theorem cautious_insertRows
    (session : Session Connection Cursor) {table : String}
    {rows : List Assignments}
    (narrow : session.dialect.Narrow ∨ ¬session.dialect.NamesColumn)
    (few : rows.length ≤ greatestId) (before : Connection) :
    Cautious before (session.insertRows table rows before) := by
  unfold insertRows
  split
  · intro failure failed preliminary
    rfl
  · rename_i plan planned
    cases rows with
    | nil =>
        cases planned
        exact .of_late (.of_ok rfl)
    | cons first rest =>
        rcases planInsert_eq_ok_iff.1 planned with ⟨steps, rfl⟩
        have distances := narrow.resolve_right (not_not_intro steps.namesColumn)
        have late :=
          late_insertBatches session
            (fun stride => distances _ stride steps.retrieval_found)
            (fun batch member =>
              Nat.le_trans (steps.rowCount_le batch member) few)
            before
        apply Cautious.of_late
        dsimp only
        split
        · rename_i failure after inserted
          exact .of_error rfl (late failure (congrArg Prod.fst inserted))
        · exact .of_ok rfl

theorem cautious_perform
    (session : Session Connection Cursor) {call : Call}
    (narrow : session.dialect.Narrow ∨ ¬session.dialect.NamesColumn)
    (inMemory : call.InMemory) (before : Connection) :
    Cautious before (session.perform before call) := by
  cases call with
  | run query =>
      exact (cautious_runWritten session (.ok query) before).replyWith _
  | select selection =>
      exact (cautious_runWritten session _ before).replyWith _
  | selectFrom sql filter =>
      exact (cautious_runWritten session _ before).replyWith _
  | insertRows table rows =>
      exact (cautious_insertRows session narrow inMemory before).replyWith _
  | insertRow table row =>
      apply Cautious.replyWith
      have single : [row].length ≤ greatestId := by
        rw [List.length_singleton]
        decide
      have inserted :
          Cautious before (session.insertRows table [row] before) :=
        cautious_insertRows session narrow single before
      unfold insertRow
      split
      · exact .of_late (.of_ok rfl)
      · rename_i failure after ran
        rw [ran] at inserted
        intro other same
        cases same
        exact inserted failure rfl
  | updateRows table assignments filter =>
      exact (cautious_count session _ before).replyWith _
  | deleteFrom table filter =>
      exact (cautious_count session _ before).replyWith _
  | transact transaction =>
      exact (cautious_transact session transaction before).replyWith _

/-- A script that inserts one row and reports its id. -/
def insertedRow : Script :=
  .ofPending false [.plain (.succeed ⟨none, [], 1, some 1⟩)]

/-- The batch that inserts a value into a quoted column. -/
def batchOf (quoted : String) (value : Value) : Batch :=
  ⟨⟨insertHead "t" [quoted] ++ " " ++ ("VALUES " ++ placeholders 1 1),
    [value]⟩, 1⟩

/-- A row can be planned alone if its only column can be written. -/
theorem planInsert_row
    {dialect : Dialect} {retrieval : IdRetrieval} {stride : Nat}
    {column quoted : String}
    (found : dialect.idRetrieval = .ok retrieval)
    (known : retrieval.stride? = some stride)
    (written : dialect.options.quoteColumn column = .ok quoted)
    (value : Value) :
    dialect.planInsert "t" [[(column, value)]] =
      .ok ⟨[batchOf quoted value], retrieval⟩ := by
  have aligned :
      alignRows [column] 0 [[(column, value)]] = .ok [[value]] := by
    simp [alignRows, alignRow?, List.lookup_cons_self]
  have size :
      ∃ size,
        batchSize 1 1 dialect.options.maxBoundParams
          dialect.options.maxInsertRows = .ok size :=
    ⟨_, (batchSize_eq_ok_iff _ _ _ _ _).2 ⟨Nat.one_pos, by omega, rfl⟩⟩
  rcases size with ⟨size, size_found⟩
  have divided : partition size [[value]] = [[[value]]] := by
    have whole : [[value]].length ≤ max size 1 := Nat.le_max_right size 1
    rw [partition_cons, List.take_of_length_le whole,
      List.drop_of_length_le whole, partition_nil]
  have written_row :
      writeBatch dialect.options.quoteStyle "t" [quoted] retrieval
          [[value]] =
        .ok (batchOf quoted value) := by
    cases retrieval with
    | firstStride distance | lastStride distance => rfl
    | none | outputTable name | returning name => cases known
  refine
    planInsert_eq_ok_iff.2
      ⟨⟨retrieval, [[value]], [quoted], size, [batchOf quoted value], rfl,
        found, rfl, aligned, ?_, size_found, ?_⟩, rfl⟩
  · exact mapM_eq_ok.2 (.cons written .nil)
  · rw [divided]
    exact mapM_eq_ok.2 (.cons written_row .nil)

/-- Ids that are refused end a batch, which has been inserted by then. -/
theorem insertBatch_of_refused
    {session : Session Connection Cursor} {retrieval : IdRetrieval}
    {batch : Batch} {statement : Statement Cursor} {failure : Failure}
    {before started : Connection}
    (execution : session.run batch.query before = (.ok statement, started))
    (finished : statement.phase = .finished)
    (plain : retrieval.readsRows = false)
    (refused :
      reconstructIds retrieval statement.reportedId batch.rowCount =
        .error failure) :
    session.insertBatch retrieval batch before = (.error failure, started) := by
  have none_left :
      reconstructIds retrieval statement.insertId batch.rowCount =
        .error failure := by
    rw [← refused]
    simp [Statement.insertId, reconstructIds]
  have read :
      session.readBatch retrieval batch.rowCount statement started =
        ⟨.error failure, statement, started⟩ := by
    simp only [readBatch, plain, none_left]
    rfl
  have dropped : statement.drop session.driver started = started := by
    simp only [Statement.drop, Statement.leave, finished]
  simp only [insertBatch, execution, read, dropped]

theorem insertRows_of_wide
    {dialect : Dialect} {retrieval : IdRetrieval} {stride : Nat}
    {column quoted : String} (valid : dialect.options.fault? = none)
    (found : dialect.idRetrieval = .ok retrieval)
    (known : retrieval.stride? = some stride) (wide : greatestId < stride)
    (written : dialect.options.quoteColumn column = .ok quoted)
    (value : Value) :
    ∃ after,
      insertRows ⟨Script.driver, dialect, valid⟩ "t" [[(column, value)]]
            insertedRow =
          (.error (.setting (.strideOutOfRange stride)), after) ∧
        after.executed.length = 1 := by
  have planned := planInsert_row found known written value
  generalize batchOf quoted value = batch at planned
  have pending :
      insertedRow.pending =
        [.plain (.succeed ⟨none, [], 1, some 1⟩)] := rfl
  rcases Script.exists_starts dialect.options batch.query pending rfl with
    ⟨started, starts, _, executed⟩
  have lasting :
      (Script.answered batch.query.sql
        (.plain (.succeed ⟨none, [], 1, some 1⟩))
        ⟨none, [], 1, some 1⟩).failClose = none := rfl
  rcases Script.exists_close lasting started with ⟨after, closed, continues⟩
  have ran := Statement.execute_of_noColumns starts rfl closed
  have plain : retrieval.readsRows = false := by
    cases retrieval with
    | firstStride distance | lastStride distance => rfl
    | none | outputTable name | returning name => cases known
  have generated : (1 : Int64) ≠ 0 := by decide
  have refused :=
    reconstructIds_of_wide batch.rowCount known wide generated
  refine ⟨after, ?_, ?_⟩
  · have ended :
        insertBatch ⟨Script.driver, dialect, valid⟩ retrieval batch
            insertedRow = _ :=
      insertBatch_of_refused ran rfl plain refused
    simp only [insertRows, planned, insertBatches, ended]
  · rw [continues.executed_eq, executed]
    rfl

/--
Preliminary failures come before the driver is called, whatever the driver and
the call, exactly for the dialects whose ids are at a distance that is an id,
and for those that cannot insert any row.
-/
theorem cautious_iff
    (dialect : Dialect) (valid : dialect.options.fault? = none) :
    (∀ (Connection Cursor : Type) (driver : Driver Connection Cursor)
        (before : Connection) (call : Call),
      call.InMemory →
        Cautious before (perform ⟨driver, dialect, valid⟩ before call)) ↔
      dialect.Narrow ∨ ¬dialect.NamesColumn := by
  constructor
  · intro cautious
    by_cases names : dialect.NamesColumn
    · refine .inl ?_
      intro retrieval stride found known
      rcases names with ⟨column, quoted, written⟩
      -- A single row is enough to notice a distance that is too wide.
      rcases Nat.lt_or_ge greatestId stride with wide | narrow
      · rcases insertRows_of_wide valid found known wide written .null with
          ⟨after, failed, executed⟩
        have single : [[(column, Value.null)]].length ≤ greatestId := by
          rw [List.length_singleton]
          decide
        have unchanged :=
          cautious _ _ Script.driver insertedRow
            (.insertRows "t" [[(column, .null)]]) single
        simp only [perform, failed] at unchanged
        have same : after = insertedRow := unchanged _ rfl rfl
        rw [same] at executed
        cases executed
      · exact narrow
    · exact .inr names
  · intro narrow Connection Cursor driver before call inMemory
    exact cautious_perform ⟨driver, dialect, valid⟩ narrow inMemory before

/-- A session whose ids are one apart refuses a repeated column at once. -/
theorem cautious_iff_repeatedColumn :
    ∃ after,
      perform ⟨Script.driver, .ofBackend .mysql, rfl⟩ insertedRow
            (.insertRows "t" [[("a", .int 1), ("a", .int 2)]]) =
          (.error (.argument (.repeatedColumn "a")), after) ∧
        after = insertedRow := by
  have narrow : (Dialect.ofBackend .mysql).Narrow := by
    intro retrieval stride found known
    cases found
    cases known
    decide
  have single : [[("a", Value.int 1), ("a", .int 2)]].length ≤ greatestId := by
    decide
  refine ⟨_, rfl, ?_⟩
  exact
    (cautious_iff (.ofBackend .mysql) rfl).2 (.inl narrow) _ _ Script.driver
      insertedRow (.insertRows "t" [[("a", .int 1), ("a", .int 2)]]) single _
      rfl rfl

/-- A distance of `2 ^ 63` between ids, which passes validation. -/
def wideIncrement : Dialect :=
  ⟨.mysql,
    { Options.mysql with autoIncrementIncrement := 9223372036854775808 }⟩

/-- The row has been inserted when the distance is found to be out of range. -/
theorem inserted_before_strideOutOfRange :
    ∃ session started,
      start Script.driver wideIncrement insertedRow =
          .ok (session, started) ∧
        session.perform started (.insertRows "t" [[("a", .int 1)]]) =
          (.error (.setting (.strideOutOfRange 9223372036854775808)),
            { started with
              pending := []
              executed := [⟨"INSERT INTO t (`a`) VALUES (?)", [.int 1]⟩]
              calls := 3
              maxOpened := 1
              closes := 1 }) ∧
        ¬Cautious started
          (session.perform started (.insertRows "t" [[("a", .int 1)]])) := by
  have planned :
      wideIncrement.planInsert "t" [[("a", .int 1)]] =
        .ok ⟨[batchOf "`a`" (.int 1)], .firstStride 9223372036854775808⟩ :=
    planInsert_row rfl rfl rfl (.int 1)
  refine
    ⟨⟨Script.driver, wideIncrement, rfl⟩,
      { insertedRow with configured := some wideIncrement.options }, rfl, ?_⟩
  simp only [perform, insertRows, planned]
  constructor
  · rfl
  · intro cautious
    have unchanged := cautious _ rfl rfl
    cases congrArg Script.calls unchanged

end Session

end Sqlwright
