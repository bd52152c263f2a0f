import Sqlwright.Proofs.DecimalText
import Sqlwright.Proofs.Executing
import Sqlwright.Proofs.Ids
import Sqlwright.Proofs.Planning
import Sqlwright.Session.Basic
import Sqlwright.Session.Scripted

/-!
# Insertions in several batches

The limits of a backend decide how many batches an insertion takes.  They do
not decide about its result: if the backend gives the rows ids at a fixed
distance, or returns the ids, a session finds the ids of all rows in order.

What the backend does is a chain of answered batches.  `Session.InsertsFrom`
carries the number of rows that earlier batches have inserted, so that each
batch reports an id as its place in the whole insertion demands.
-/

namespace Sqlwright

open Sqlwright.Insertion
open Sqlwright.Success
open Sqlwright.Text

variable {Connection Cursor : Type}

namespace Driver

/-- All rows of a batch are inserted, and an id is reported for it. -/
def Inserts (driver : Driver Connection Cursor) (options : Options)
    (batch : Batch) (id : Int64) (before after : Connection) : Prop :=
  ∃ cursor started,
    driver.Starts options batch.query before cursor started ∧
      (driver.columns cursor = none ∨ options.affectedIsRowCount = true) ∧
      driver.affected cursor = batch.rowCount ∧
      driver.insertId cursor = some id ∧
      driver.close cursor started = (.ok (), after)

/-- A query is answered with a result set of some rows. -/
def Returns (driver : Driver Connection Cursor) (options : Options)
    (query : Query) (rows : List (List Value)) (before after : Connection) :
    Prop :=
  ∃ cursor started last fetched,
    driver.Starts options query before cursor started ∧
      (driver.columns cursor).isSome = true ∧
      driver.Fetches cursor started rows last fetched ∧
      driver.close last fetched = (.ok (), after)

end Driver

/-- The first value of a row is an id, as an integer or as a decimal text. -/
def CarriesId (values : List Value) (id : Int64) : Prop :=
  ∃ value rest,
    values = value :: rest ∧
      (value = .int id ∨ ∃ text, value = .text text ∧ Decimal text id.toInt)

namespace Session

variable {session : Session Connection Cursor} {retrieval : IdRetrieval}

/-- A batch is executed, its ids are read, and its statement is closed. -/
theorem insertBatch_of_steps
    {batch : Batch} {statement read closed : Statement Cursor}
    {found : List Int64 × Int} {before started behind after : Connection}
    (execution : session.run batch.query before = (.ok statement, started))
    (reading :
      session.readBatch retrieval batch.rowCount statement started =
        ⟨.ok found, read, behind⟩)
    (closing :
      read.close session.driver behind = ⟨.ok (), closed, after⟩) :
    session.insertBatch retrieval batch before = (.ok found, after) := by
  simp only [insertBatch, execution, reading, closing]
  rfl

/-- A batch gives the ids that can be rebuilt from the one that was reported. -/
theorem readBatch_of_rebuilt
    {statement : Statement Cursor} {ids : List Int64} {rowCount : Nat}
    (connection : Connection)
    (plain : retrieval.readsRows = false)
    (rebuilt :
      reconstructIds retrieval statement.reportedId rowCount = .ok ids) :
    session.readBatch retrieval rowCount statement connection =
      ⟨.ok (ids, statement.affected), statement, connection⟩ := by
  have found :
      reconstructIds retrieval statement.insertId rowCount = .ok ids := by
    rw [← rebuilt]
    simp [Statement.insertId, reconstructIds]
  simp only [readBatch, plain, found]
  rfl

/-- A batch gives some ids, and as many rows as the backend has counted. -/
theorem insertBatch_of_inserts
    {batch : Batch} {id : Int64} {ids : List Int64}
    {before after : Connection}
    (inserts :
      session.driver.Inserts session.dialect.options batch id before after)
    (plain : retrieval.readsRows = false)
    (rebuilt : reconstructIds retrieval (some id) batch.rowCount = .ok ids) :
    session.insertBatch retrieval batch before =
      (.ok (ids, batch.rowCount), after) := by
  rcases inserts with
    ⟨cursor, started, starts, columns, affected, reported, closed⟩
  rw [← reported] at rebuilt
  have counted :
      (Statement.ofCursor session.driver session.dialect.options batch.query
        cursor).affected = batch.rowCount := by
    rcases columns with absent | counts
    · simp [Statement.ofCursor, absent, affected]
    · simp [Statement.ofCursor, counts, affected]
  rw [← counted]
  cases answered : session.driver.columns cursor with
  | none =>
      exact
        insertBatch_of_steps
          (Statement.execute_of_noColumns starts answered closed)
          (readBatch_of_rebuilt after plain rebuilt)
          (Statement.close_of_finished rfl after)
  | some names =>
      exact
        insertBatch_of_steps
          (Statement.execute_of_columns starts (by rw [answered]; rfl))
          (readBatch_of_rebuilt started plain rebuilt)
          (Statement.close_of_active rfl closed)

theorem returnedId_of_carriesId
    {values : List Value} {id : Int64} (carries : CarriesId values id)
    (columns : List String) :
    returnedId ((Row.mk columns values).at? 0) = .ok id := by
  rcases carries with ⟨value, rest, rfl, rfl | ⟨text, rfl, decimal⟩⟩
  · rfl
  · simp [Row.at?, returnedId, readInt64?_of_decimal decimal]

theorem returnedIds_of_carriesId
    {rows : List (List Value)} {ids : List Int64}
    (carried : List.Forall₂ CarriesId rows ids) (columns : List String) :
    returnedIds (rows.map (Row.mk columns)) = .ok ids := by
  rw [returnedIds, mapM_eq_ok, List.forall₂_map_left_iff]
  exact carried.imp fun _ _ carries => returnedId_of_carriesId carries columns

theorem readBatch_of_returned
    {statement read : Statement Cursor} {rows : List Row} {ids : List Int64}
    {started behind : Connection} (rowCount : Nat)
    (reads : retrieval.readsRows = true)
    (reading :
      statement.all session.driver started = ⟨.ok rows, read, behind⟩)
    (carried : returnedIds rows = .ok ids) :
    session.readBatch retrieval rowCount statement started =
      ⟨.ok (ids, (ids.length : Int)), read, behind⟩ := by
  have found : (Except.ok rows).bind returnedIds = .ok ids := carried
  simp only [readBatch, reads, reading, found]
  rfl

/-- A batch gives the ids in the first values of the rows that it returns. -/
theorem insertBatch_of_returns
    {batch : Batch} {rows : List (List Value)} {ids : List Int64}
    {before after : Connection}
    (returns :
      session.driver.Returns session.dialect.options batch.query rows before
        after)
    (reads : retrieval.readsRows = true)
    (carried : List.Forall₂ CarriesId rows ids) :
    session.insertBatch retrieval batch before =
      (.ok (ids, (ids.length : Int)), after) := by
  rcases returns with
    ⟨cursor, started, last, fetched, starts, columns, fetches, closed⟩
  have opened :
      (Statement.ofCursor session.driver session.dialect.options batch.query
        cursor).phase = .active cursor := rfl
  have reading := Statement.all_of_fetches opened rfl fetches closed
  exact
    insertBatch_of_steps (Statement.execute_of_columns starts columns)
      (readBatch_of_returned batch.rowCount reads reading
        (returnedIds_of_carriesId carried _))
      (Statement.close_of_finished rfl after)

/-! ## Chains of batches -/

theorem insertBatches_cons
    {batch : Batch} {batches : List Batch} {ids moreIds : List Int64}
    {affected more : Int} {before between after : Connection}
    (head :
      session.insertBatch retrieval batch before =
        (.ok (ids, affected), between))
    (tail :
      session.insertBatches retrieval batches between =
        (.ok (moreIds, more), after)) :
    session.insertBatches retrieval (batch :: batches) before =
      (.ok (ids ++ moreIds, affected + more), after) := by
  simp only [insertBatches, head, tail]

/--
Batches are inserted one after another.  Row number `index` of the whole
insertion gets the id `first + index * stride`, and the first of the batches
begins with row number `row`.
-/
inductive InsertsFrom (session : Session Connection Cursor)
    (retrieval : IdRetrieval) (first stride : Nat) :
    Nat → List Batch → Connection → Connection → Prop where
  | done {row : Nat} {connection : Connection} :
      InsertsFrom session retrieval first stride row [] connection connection
  | batch {row : Nat} {batch : Batch} {batches : List Batch} {id : Int64}
      {before between after : Connection} :
      id.toInt =
          ((first +
            retrieval.reportedRow row batch.rowCount * stride : Nat) : Int) →
        session.driver.Inserts session.dialect.options batch id before
          between →
          InsertsFrom session retrieval first stride (row + batch.rowCount)
            batches between after →
            InsertsFrom session retrieval first stride row (batch :: batches)
              before after

/-- Batches are answered one after another with rows that carry ids. -/
inductive ReturnsEach (session : Session Connection Cursor) :
    List Batch → List (List Int64) → Connection → Connection → Prop where
  | done {connection : Connection} :
      ReturnsEach session [] [] connection connection
  | batch {batch : Batch} {batches : List Batch} {rows : List (List Value)}
      {ids : List Int64} {groups : List (List Int64)}
      {before between after : Connection} :
      List.Forall₂ CarriesId rows ids →
        session.driver.Returns session.dialect.options batch.query rows before
          between →
          ReturnsEach session batches groups between after →
            ReturnsEach session (batch :: batches) (ids :: groups) before after

/-- The ids of a run of batches continue across their borders. -/
theorem insertBatches_of_insertsFrom
    {first stride row : Nat} {batches : List Batch}
    {before after : Connection}
    (known : retrieval.stride? = some stride) (apart : 1 ≤ stride)
    (narrow : stride ≤ greatestId) (positive : 1 ≤ first)
    (nonempty : ∀ batch ∈ batches, 1 ≤ batch.rowCount)
    (inside :
      ∀ index < row + (batches.map Batch.rowCount).sum,
        first + index * stride ≤ greatestId)
    (run :
      InsertsFrom session retrieval first stride row batches before after) :
    session.insertBatches retrieval batches before =
      (.ok
        (idsFrom ((first + row * stride : Nat) : Int) stride
          (batches.map Batch.rowCount).sum,
          ((batches.map Batch.rowCount).sum : Nat)), after) := by
  induction run with
  | done => rfl
  | @batch row batch batches id before between after reported inserts _
      induction =>
      simp only [List.forall_mem_cons] at nonempty
      -- The bound speaks of every row, so it passes to the rest of the run.
      simp only [List.map_cons, List.sum_cons, ← Nat.add_assoc] at inside
      have plain : retrieval.readsRows = false := by
        cases retrieval <;> first | rfl | cases known
      have rebuilt :=
        reconstructIds_eq_ok known apart narrow positive nonempty.1
          (inside (row + (batch.rowCount - 1)) (by omega)) reported
      have head := insertBatch_of_inserts inserts plain rebuilt
      rw [insertBatches_cons head (induction nonempty.2 inside),
        List.map_cons, List.sum_cons, idsFrom_add, Nat.add_mul,
        ← Nat.add_assoc]
      rfl

theorem insertBatches_of_returnsEach
    {batches : List Batch} {groups : List (List Int64)}
    {before after : Connection}
    (reads : retrieval.readsRows = true)
    (run : ReturnsEach session batches groups before after) :
    session.insertBatches retrieval batches before =
      (.ok (groups.flatten, (groups.flatten.length : Int)), after) := by
  induction run with
  | done => rfl
  | batch carried returns _ induction =>
      have head := insertBatch_of_returns returns reads carried
      rw [insertBatches_cons head induction, List.flatten_cons,
        List.length_append]
      rfl

theorem insertRows_of_insertBatches
    {table : String} {rows : List Assignments} {plan : InsertPlan}
    {ids : List Int64} {affected : Int} {before after : Connection}
    (planned : session.dialect.planInsert table rows = .ok plan)
    (inserted :
      session.insertBatches plan.retrieval plan.batches before =
        (.ok (ids, affected), after)) :
    session.insertRows table rows before =
      (.ok ⟨ids, affected, plan.batches.length⟩, after) := by
  simp only [insertRows, planned, inserted]

/--
The result of an insertion does not show its batches.  Whatever the limits,
the ids are those of all rows in order, if the backend gives them at a fixed
distance and reports one for each batch, or if it returns them.
-/
theorem insertRows_merges
    {session : Session Connection Cursor} {table : String}
    {first : Assignments} {rest : List Assignments} {plan : InsertPlan}
    (planned : session.dialect.planInsert table (first :: rest) = .ok plan)
    (before after : Connection) :
    (∀ start stride : Nat,
      plan.retrieval.stride? = some stride →
        1 ≤ stride → stride ≤ greatestId → 1 ≤ start →
          start + rest.length * stride ≤ greatestId →
            InsertsFrom session plan.retrieval start stride 0 plan.batches
                before after →
              ∃ ids : List Int64,
                session.insertRows table (first :: rest) before =
                    (.ok ⟨ids, ((first :: rest).length : Nat),
                      plan.batches.length⟩, after) ∧
                  ids.map Int64.toInt =
                    (List.range (first :: rest).length).map fun index =>
                      ((start + index * stride : Nat) : Int)) ∧
    (∀ groups : List (List Int64),
      plan.retrieval.readsRows = true →
        ReturnsEach session plan.batches groups before after →
          session.insertRows table (first :: rest) before =
            (.ok ⟨groups.flatten, groups.flatten.length,
              plan.batches.length⟩, after)) := by
  rcases planInsert_eq_ok_iff.1 planned with ⟨steps, rfl⟩
  constructor
  · intro start stride known apart narrow positive fits run
    have nonempty : ∀ batch ∈ steps.batches, 1 ≤ batch.rowCount :=
      fun batch member => (steps.exactPlan.bounds batch member).1
    have inside :
        ∀ index < 0 + (steps.batches.map Batch.rowCount).sum,
          start + index * stride ≤ greatestId := by
      intro index below
      rw [steps.sum_rowCount, List.length_cons] at below
      have ordered : index * stride ≤ rest.length * stride :=
        Nat.mul_le_mul_right stride (by omega)
      omega
    have inserted :=
      insertBatches_of_insertsFrom known apart narrow positive nonempty inside
        run
    rw [steps.sum_rowCount, Nat.zero_mul, Nat.add_zero] at inserted
    exact ⟨_, insertRows_of_insertBatches planned inserted, toInt_idsFrom fits⟩
  · intro groups reads run
    exact
      insertRows_of_insertBatches planned
        (insertBatches_of_returnsEach reads run)

/-- A scripted session that binds at most four values in a statement. -/
def scripted (retrieval : IdRetrieval) : Session Script Script.Cursor where
  driver := Script.driver
  dialect := limitedTo 4 retrieval
  valid := rfl

/-- A script that reports the last id of each of two batches. -/
def reportedScript : Script :=
  .ofPending false
    [.plain (.succeed ⟨none, [], 2, some 12⟩),
      .plain (.succeed ⟨none, [], 1, some 14⟩)]

/-- A script that returns the ids of three rows, as an integer and as texts. -/
def returnedScript : Script :=
  .ofPending false
    [.plain (.succeed (.ofRows ["id"] [[.int 7], [.text " 5"]])),
      .plain (.succeed (.ofRows ["id"] [[.text "-3"]]))]

theorem insertsFrom_reportedScript :
    ∃ after,
      InsertsFrom (scripted (.lastStride 2)) (.lastStride 2) 10 2 0
        (twoBatches "") reportedScript after := by
  exact
    ⟨_, .batch (show (12 : Int64).toInt = 12 from rfl)
      ⟨_, _, ⟨_, _, rfl, rfl⟩, .inl rfl, rfl, rfl, rfl⟩
      (.batch (show (14 : Int64).toInt = 14 from rfl)
        ⟨_, _, ⟨_, _, rfl, rfl⟩, .inl rfl, rfl, rfl, rfl⟩ .done)⟩

theorem returnsEach_returnedScript :
    ∃ after,
      ReturnsEach (scripted (.returning "id"))
        (twoBatches " RETURNING \"id\"") [[7, 5], [-3]] returnedScript
        after := by
  have integer : CarriesId [.int 7] 7 := ⟨_, _, rfl, .inl rfl⟩
  have blank : CarriesId [.text " 5"] 5 := by
    have digits : Digits ['5'] := ⟨by decide, by decide⟩
    exact
      ⟨_, _, rfl, .inr ⟨_, rfl, [' '], ['5'], [], rfl, rfl, rfl,
        .unsigned digits⟩⟩
  have negative : CarriesId [.text "-3"] (-3) := by
    have text : toString (-3 : Int64).toInt = "-3" := by cbv
    exact ⟨_, _, rfl, .inr ⟨_, rfl, text ▸ decimal_toString _⟩⟩
  exact
    ⟨_, .batch (.cons integer (.cons blank .nil))
      ⟨_, _, _, _, ⟨_, _, rfl, rfl⟩, rfl, .row rfl (.row rfl (.done rfl)), rfl⟩
      (.batch (.cons negative .nil)
        ⟨_, _, _, _, ⟨_, _, rfl, rfl⟩, rfl, .row rfl (.done rfl), rfl⟩ .done)⟩

theorem insertRows_merges_twoColumnRows :
    (∃ ids after,
      (scripted (.lastStride 2)).insertRows "t" twoColumnRows reportedScript =
          (.ok ⟨ids, 3, 2⟩, after) ∧
        ids.map Int64.toInt = [10, 12, 14]) ∧
    (∃ after,
      (scripted (.returning "id")).insertRows "t" twoColumnRows
          returnedScript =
        (.ok ⟨[7, 5, -3], 3, 2⟩, after)) := by
  have size : batchSize 2 3 4 Options.generic.maxInsertRows = .ok 2 := rfl
  constructor
  · have planned :
        (scripted (.lastStride 2)).dialect.planInsert "t" twoColumnRows =
          .ok ⟨twoBatches "", .lastStride 2⟩ :=
      planInsert_twoColumnRows rfl size partition_twoColumnRows rfl
    rcases insertsFrom_reportedScript with ⟨after, run⟩
    rcases (insertRows_merges planned reportedScript after).1 10 2 rfl
        (by decide) (by decide) (by decide) (by decide) run with
      ⟨ids, inserted, spread⟩
    exact ⟨ids, after, inserted, spread⟩
  · have planned :
        (scripted (.returning "id")).dialect.planInsert "t" twoColumnRows =
          .ok ⟨twoBatches " RETURNING \"id\"", .returning "id"⟩ :=
      planInsert_twoColumnRows rfl size partition_twoColumnRows rfl
    rcases returnsEach_returnedScript with ⟨after, run⟩
    exact ⟨after, (insertRows_merges planned returnedScript after).2 _ rfl run⟩

end Session

end Sqlwright
