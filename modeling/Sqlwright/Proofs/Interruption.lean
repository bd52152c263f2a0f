import Sqlwright.Proofs.Accounting
import Sqlwright.Proofs.Inserting
import Sqlwright.Proofs.Scripting

/-!
# Insertions that stop

An insertion of several batches stops at the first one that cannot be prepared
or executed.  `Session.Inserted` is a chain of batches that were inserted, and
`Driver.Fails` says where the driver fails at the next one.  What comes out is
the report of that batch; the batches before it stay, and those behind it are
never asked for.

`Session.insertRows_stops` puts this together for a scripted connection, on
which everything that was done can be looked up.
-/

namespace Sqlwright

open Sqlwright.Insertion
open Sqlwright.Success

variable {Connection Cursor : Type}

/--
The driver fails to prepare a query, or to execute it; in the latter case the
prepared cursor is given back.
-/
inductive Driver.Fails (driver : Driver Connection Cursor) (options : Options)
    (query : Query) (before : Connection) (errors : List NativeError) :
    DriverCall → Connection → Prop where
  | prepare {after : Connection} :
      driver.prepare query.sql before = (.error errors, after) →
        Fails driver options query before errors .prepare after
  | execute {cursor : Cursor} {between failed : Connection} :
      driver.prepare query.sql before = (.ok cursor, between) →
        driver.execute cursor (Statement.boundValues options query.params)
              between =
            (.error errors, failed) →
          Fails driver options query before errors .execute
            (driver.close cursor failed).2

variable {driver : Driver Connection Cursor} {options : Options}
  {query : Query} {errors : List NativeError} {call : DriverCall}

theorem Statement.execute_of_fails
    {before after : Connection}
    (fails : driver.Fails options query before errors call after) :
    execute driver options query before =
      (.error (.ofCall call errors query.sql query.params), after) := by
  cases fails with
  | prepare refused => simp only [execute, refused]
  | execute prepared failed => simp only [execute, prepared, failed]

/-- A failure is noted as one attempt, and leaves no handle open. -/
theorem Driver.Fails.recorded
    {before : Recorded Connection} {after : Connection}
    (fails : driver.Fails options query before.connection errors call after) :
    ∃ seen,
      driver.recorded.Fails options query before errors call seen ∧
        attempts seen.log = attempts before.log + 1 ∧
        handles seen.log =
          handles before.log + if call = .execute then 1 else 0 := by
  cases fails with
  | prepare refused =>
      refine ⟨before.note .refused after, .prepare ?_, ?_, ?_⟩
      · simp only [Driver.recorded, refused]
        rfl
      · exact attempts_append before.log .refused
      · exact handles_append before.log .refused
  | @execute cursor between failed prepared failure =>
      generalize number : handles before.log = handle
      have preparation :
          driver.recorded.prepare query.sql before =
            (.ok (handle, cursor),
              before.note (.prepared handle) between) := by
        simp only [Driver.recorded, prepared, number]
        rfl
      have execution :
          driver.recorded.execute (handle, cursor)
              (Statement.boundValues options query.params)
              (before.note (.prepared handle) between) =
            (.error errors,
              (before.note (.prepared handle) between).note (.executed handle)
                failed) := by
        simp only [Driver.recorded, Recorded.note, failure]
        rfl
      refine ⟨_, .execute preparation execution, ?_⟩
      have calls :
          (driver.recorded.close (handle, cursor)
              ((before.note (.prepared handle) between).note
                (.executed handle) failed)).2.log =
            before.log ++ lifeOf handle 0 true := by
        simp [Driver.recorded, Recorded.note, lifeOf]
      rw [calls, attempts_lifeOf, handles_lifeOf, number]
      exact ⟨rfl, rfl⟩

namespace Session

variable {session : Session Connection Cursor} {retrieval : IdRetrieval}

/-- Batches that were inserted one after another. -/
inductive Inserted (session : Session Connection Cursor)
    (retrieval : IdRetrieval) :
    List Batch → Connection → Connection → Prop where
  | done {connection : Connection} :
      Inserted session retrieval [] connection connection
  | batch {batch : Batch} {batches : List Batch} {found : List Int64 × Int}
      {before between after : Connection} :
      session.insertBatch retrieval batch before = (.ok found, between) →
        Inserted session retrieval batches between after →
          Inserted session retrieval (batch :: batches) before after

/-- The failure of a batch is the failure of the insertion. -/
theorem insertBatches_of_fails
    {served later : List Batch} {failed : Batch}
    {before between after : Connection}
    (inserted : Inserted session retrieval served before between)
    (fails :
      session.driver.Fails session.dialect.options failed.query between errors
        call after) :
    session.insertBatches retrieval (served ++ failed :: later) before =
      (.error (.ofCall call errors failed.query.sql failed.query.params),
        after) := by
  induction inserted with
  | done =>
      have ran := Statement.execute_of_fails fails
      simp only [List.nil_append, insertBatches, insertBatch, run, ran]
  | batch head _ induction =>
      simp only [List.cons_append, insertBatches, head, induction fails]

theorem insertRows_of_fails
    {table : String} {rows : List Assignments} {plan : InsertPlan}
    {served later : List Batch} {failed : Batch}
    {before between after : Connection}
    (planned : session.dialect.planInsert table rows = .ok plan)
    (split : plan.batches = served ++ failed :: later)
    (inserted : Inserted session plan.retrieval served before between)
    (fails :
      session.driver.Fails session.dialect.options failed.query between errors
        call after) :
    session.insertRows table rows before =
      (.error (.ofCall call errors failed.query.sql failed.query.params),
        after) := by
  simp only [insertRows, planned, split, insertBatches_of_fails inserted fails]

theorem log_insertBatch
    {batch : Batch} {found : List Int64 × Int}
    {before after : Recorded Connection}
    (inserted :
      session.recorded.insertBatch retrieval batch before =
        (.ok found, after)) :
    ∃ fetches,
      after.log = before.log ++ lifeOf (handles before.log) fetches true := by
  let life : session.recorded.driver.Custody :=
    session.driver.life before.log (handles before.log)
  unfold insertBatch at inserted
  split at inserted
  · cases inserted
  · rename_i statement started ran
    have opened : statement.KeptBy life started :=
      Statement.keptBy_life_of_execute ran
    have read := keptBy_readBatch retrieval batch.rowCount opened
    dsimp only at inserted
    split at inserted
    · cases inserted
    · rename_i found read_eq
      have closed := Statement.keptBy_close read
      rw [Statement.keptBy_iff_of_isClosed (Statement.isClosed_close _)]
        at closed
      rcases closed with ⟨_, fetches, calls⟩
      have left := congrArg Prod.snd inserted
      dsimp only at left
      rw [left] at calls
      exact ⟨fetches, calls⟩

/-- Each batch that is inserted is noted as one attempt and one handle. -/
theorem Inserted.recorded
    {batches : List Batch} {before : Recorded Connection} {after : Connection}
    (inserted :
      Inserted session retrieval batches before.connection after) :
    ∃ seen,
      Inserted session.recorded retrieval batches before seen ∧
        seen.connection = after ∧
        attempts seen.log = attempts before.log + batches.length ∧
        handles seen.log = handles before.log + batches.length := by
  generalize start : before.connection = connection at inserted
  induction inserted generalizing before with
  | done => exact ⟨before, .done, start, rfl, rfl⟩
  | @batch batch batches found connection between after head _ induction =>
      have same :
          session.insertBatch retrieval batch before.connection = _ :=
        insertBatch_map session.recording before retrieval batch
      rw [start, head] at same
      rcases noted : session.recorded.insertBatch retrieval batch before with
        ⟨failure | other, mid⟩
      · rw [noted] at same
        cases same
      · rw [noted] at same
        cases same
        rcases log_insertBatch noted with ⟨fetches, calls⟩
        rcases induction rfl with ⟨seen, others, final, asked, handed⟩
        refine ⟨seen, .batch noted others, final, ?_, ?_⟩
        · rw [asked, calls, attempts_lifeOf, List.length_cons]
          omega
        · rw [handed, calls, handles_lifeOf, List.length_cons]
          omega

/-! ## Over a script -/

/--
An outcome by which a batch is inserted: the answer comes with ids that make
sense, whichever way they are found.
-/
structure Serves (retrieval : IdRetrieval) (batch : Batch)
    (scripted : Scripted) (answer : Answer) : Prop where
  succeeds : scripted.outcome = .succeed answer
  closes : scripted.failClose = none
  /-- The ids come back as rows: each can be fetched and starts with an id. -/
  returned :
    retrieval.readsRows = true →
      answer.columns.isSome = true →
        (∀ index errors,
          scripted.failFetch = some (index, errors) →
            answer.rows.length < index) ∧
          ∀ values ∈ answer.rows, ∃ id, returnedId values.head? = .ok id
  /-- The ids can be rebuilt from the one that was reported. -/
  rebuilt :
    retrieval.readsRows = false →
      ∃ ids,
        reconstructIds retrieval answer.insertId batch.rowCount = .ok ids

/-- Rows of which each starts with an id give their ids. -/
theorem exists_returnedIds
    (columns : List String) {rows : List (List Value)}
    (each : ∀ values ∈ rows, ∃ id, returnedId values.head? = .ok id) :
    ∃ ids, returnedIds (rows.map (Row.mk columns)) = .ok ids := by
  apply exists_mapM_eq_ok
  intro row member
  rcases List.mem_map.1 member with ⟨values, inside, rfl⟩
  rw [Row.at?, ← List.head?_eq_getElem?]
  exact each values inside

/-- What a batch of a session binds, as a script records it. -/
def bound (session : Session Connection Cursor) (batch : Batch) : Query :=
  ⟨batch.query.sql,
    Statement.boundValues session.dialect.options batch.query.params⟩

theorem insertBatch_of_serves
    {session : Session Script Script.Cursor} {batch : Batch}
    {script : Script} {scripted : Scripted} {rest : List Scripted}
    {answer : Answer}
    (overScript : session.driver = Script.driver)
    (pending : script.pending = scripted :: rest)
    (serves : Serves retrieval batch scripted answer) :
    ∃ found after,
      session.insertBatch retrieval batch script = (.ok found, after) ∧
        after.pending = rest ∧
        after.executed = script.executed ++ [session.bound batch] := by
  rcases session with ⟨driver, dialect, valid⟩
  cases overScript
  rcases Script.exists_starts dialect.options batch.query pending
      serves.succeeds with
    ⟨started, starts, left, recorded⟩
  have lasting :
      (Script.answered batch.query.sql scripted answer).failClose = none :=
    serves.closes
  -- Without columns the statement has closed itself; with them it is closed by
  -- reading the ids to the end, or else at the end of the batch.
  cases columns : answer.columns with
  | none =>
      rcases Script.exists_close lasting started with
        ⟨after, closed, continues⟩
      have ran := Statement.execute_of_noColumns starts columns closed
      cases reads : retrieval.readsRows with
      | false =>
          rcases serves.rebuilt reads with ⟨ids, rebuilt⟩
          exact
            ⟨_, after,
              insertBatch_of_steps ran
                (readBatch_of_rebuilt after reads rebuilt)
                (Statement.close_of_finished rfl after),
              continues.pending_eq.trans left,
              continues.executed_eq.trans recorded⟩
      | true =>
          exact
            ⟨_, after,
              insertBatch_of_steps ran
                (readBatch_of_returned batch.rowCount reads
                  (Statement.all_of_finished rfl rfl after) rfl)
                (Statement.close_of_finished rfl after),
              continues.pending_eq.trans left,
              continues.executed_eq.trans recorded⟩
  | some names =>
      have shown :
          (Script.driver.columns
            (Script.answered batch.query.sql scripted answer)).isSome = true :=
        Option.isSome_of_eq_some columns
      have ran := Statement.execute_of_columns starts shown
      cases reads : retrieval.readsRows with
      | false =>
          rcases serves.rebuilt reads with ⟨ids, rebuilt⟩
          rcases Script.exists_close lasting started with
            ⟨after, closed, continues⟩
          exact
            ⟨_, after,
              insertBatch_of_steps ran
                (readBatch_of_rebuilt started reads rebuilt)
                (Statement.close_of_active rfl closed),
              continues.pending_eq.trans left,
              continues.executed_eq.trans recorded⟩
      | true =>
          rcases serves.returned reads shown with ⟨fetchable, each⟩
          rcases Script.exists_fetches
              (Script.answered batch.query.sql scripted answer) started
              (by simpa [Script.answered, Script.cursor] using fetchable) with
            ⟨last, fetched, fetches, same, between⟩
          rcases Script.exists_close (same.trans lasting) fetched with
            ⟨after, closed, behind⟩
          rcases exists_returnedIds (answer.columns.getD []) each with
            ⟨ids, found⟩
          exact
            ⟨_, after,
              insertBatch_of_steps ran
                (readBatch_of_returned batch.rowCount reads
                  (Statement.all_of_fetches rfl rfl fetches closed) found)
                (Statement.close_of_finished rfl after),
              (between.trans behind).pending_eq.trans left,
              (between.trans behind).executed_eq.trans recorded⟩

/-- The batches of a script's successful outcomes are inserted in order. -/
theorem exists_inserted
    {session : Session Script Script.Cursor} {batches : List Batch}
    {script : Script} {answers rest : List Scripted}
    (overScript : session.driver = Script.driver)
    (pending : script.pending = answers ++ rest)
    (accepted :
      List.Forall₂
        (fun batch scripted => ∃ answer, Serves retrieval batch scripted answer)
        batches answers) :
    ∃ after,
      Inserted session retrieval batches script after ∧
        after.pending = rest ∧
        after.executed = script.executed ++ batches.map session.bound := by
  induction accepted generalizing script with
  | nil => exact ⟨script, .done, pending, (List.append_nil _).symm⟩
  | cons serves _ induction =>
      rcases serves with ⟨answer, serves⟩
      rcases insertBatch_of_serves overScript pending serves with
        ⟨found, between, head, left, recorded⟩
      rcases induction left with ⟨after, others, final, executed⟩
      refine ⟨after, .batch head others, final, ?_⟩
      rw [executed, recorded, List.append_assoc]
      rfl

end Session

/-- An outcome that does not let a statement be prepared, or executed. -/
inductive Scripted.Fails (scripted : Scripted) (errors : List NativeError) :
    DriverCall → Prop where
  | prepare :
      scripted.outcome = .failPrepare errors → Fails scripted errors .prepare
  | execute :
      scripted.outcome = .failExecute errors → Fails scripted errors .execute

theorem Script.exists_fails
    (options : Options) (query : Query) {script : Script}
    {failing : Scripted} {rest : List Scripted}
    (pending : script.pending = failing :: rest)
    (fails : failing.Fails errors call) :
    ∃ after,
      Script.driver.Fails options query script errors call after ∧
        after.pending = rest ∧
        after.executed =
          script.executed ++
            if call = .execute then
              [⟨query.sql, Statement.boundValues options query.params⟩]
            else [] := by
  rcases failing with ⟨outcome, failFetch, failClose⟩
  rcases script with
    ⟨entries, echoes, executed, calls, opened, maxOpened, closes,
      transactions, failTransactions, configured⟩
  cases pending
  cases fails with
  | prepare refused =>
      cases refused
      exact ⟨_, .prepare rfl, rfl, (List.append_nil _).symm⟩
  | execute failed =>
      cases failed
      exact
        ⟨_, .execute rfl rfl, (continues_close _ _).pending_eq,
          (continues_close _ _).executed_eq⟩

namespace Session

/--
An insertion stops at the first batch that cannot be prepared or executed.  The
report is about the statement of that batch, with the values as the caller gave
them, and with code and state of the first record.  The batches before it were
executed in order, that batch only if it could be prepared, and none behind it
was asked for.  Every handle was closed.
-/
theorem insertRows_stops
    {session : Session Script Script.Cursor} {table : String}
    {rows : List Assignments} {plan : InsertPlan}
    {served later : List Batch} {failed : Batch} {script : Script}
    {answers rest : List Scripted} {failing : Scripted}
    (overScript : session.driver = Script.driver)
    (planned : session.dialect.planInsert table rows = .ok plan)
    (split : plan.batches = served ++ failed :: later)
    (pending : script.pending = answers ++ failing :: rest)
    (accepted :
      List.Forall₂
        (fun batch scripted =>
          ∃ answer, Serves plan.retrieval batch scripted answer)
        served answers)
    (fails : failing.Fails errors call) :
    let seen := (session.recorded.insertRows table rows ⟨script, []⟩).2
    session.insertRows table rows script =
        (.error
          (.backend
            { message := call.context ++ ": " ++ joinedMessages errors
              sqlState := (errors.head?.bind NativeError.sqlState).getD ""
              code := (errors.head?.bind NativeError.code).getD 0
              sql := failed.query.sql
              params := failed.query.params }),
          seen.connection) ∧
      seen.connection.executed =
        script.executed ++ served.map session.bound ++
          (if call = .execute then [session.bound failed] else []) ∧
      seen.connection.pending = rest ∧
      attempts seen.log = served.length + 1 ∧
      handles seen.log =
        served.length + (if call = .execute then 1 else 0) ∧
      seen.connection.opened = script.opened ∧
      seen.connection.closes = script.closes + handles seen.log ∧
      Balanced none seen.log := by
  rcases exists_inserted overScript pending accepted with
    ⟨between, inserted, left, executed⟩
  rcases Script.exists_fails session.dialect.options failed.query left
      fails with
    ⟨after, stopped, final, recorded⟩
  rw [← overScript] at stopped
  have result := insertRows_of_fails planned split inserted stopped
  -- The same steps over the recorded driver, which leave a log.
  have start : (Recorded.mk script []).connection = script := rfl
  rw [← start] at inserted
  rcases inserted.recorded with ⟨middle, insertedSeen, same, asked, handed⟩
  rw [← same] at stopped
  rcases stopped.recorded with ⟨last, stoppedSeen, askedLast, handedLast⟩
  have noted :
      session.recorded.insertRows table rows ⟨script, []⟩ = (_, last) :=
    insertRows_of_fails planned split insertedSeen stoppedSeen
  have projected :
      session.insertRows table rows script = _ :=
    insertRows_map session.recording ⟨script, []⟩ table rows
  rw [noted, result] at projected
  have reached : last.connection = after :=
    (congrArg Prod.snd projected).symm
  have accounts := accounts_insertRows overScript script table rows
  have throughout :
      Throughout none
        (session.recorded.insertRows table rows ⟨script, []⟩).2.log :=
    holds_none_insertRows session.recorded session.driver.balanced table rows
      Throughout.nil
  rw [noted] at accounts throughout
  simp only [noted, reached]
  refine ⟨result, ?_, final, ?_, ?_, ?_, ?_, throughout.balanced⟩
  · rw [recorded, executed]
    rfl
  · rw [askedLast, asked]
    exact congrArg (· + 1) (Nat.zero_add _)
  · rw [handedLast, handed]
    exact congrArg (· + _) (Nat.zero_add _)
  · rw [← reached, accounts.opened_eq]
    rfl
  · rw [← reached, ← accounts.closes_eq]
    rfl

/-- The record of a key that is there already. -/
def duplicateEntry : NativeError :=
  ⟨some 1062, some "23000", "Duplicate entry"⟩

/-- A script that inserts a batch, fails to execute the next, and goes on. -/
def stoppedScript : Script :=
  .ofPending false
    [.plain (.succeed ⟨none, [], 2, some 12⟩),
      .plain (.failExecute [duplicateEntry]),
      .plain (.succeed ⟨none, [], 1, some 14⟩)]

theorem insertRows_stops_twoColumnRows :
    ∃ after,
      (scripted (.lastStride 2)).insertRows "t" twoColumnRows stoppedScript =
          (.error
            (.backend
              { message :=
                  "Failed to execute prepared statement: Duplicate entry"
                sqlState := "23000"
                code := 1062
                sql := "INSERT INTO t (\"a\", \"b\") VALUES (?,?)"
                params := [.int 5, .int 6] }),
            after) ∧
        after.executed =
          [⟨"INSERT INTO t (\"a\", \"b\") VALUES (?,?),(?,?)",
              [.int 1, .int 2, .int 3, .int 4]⟩,
            ⟨"INSERT INTO t (\"a\", \"b\") VALUES (?,?)",
              [.int 5, .int 6]⟩] ∧
        after.pending.length = 1 ∧
        after.opened = 0 ∧
        after.closes = 2 := by
  have size : batchSize 2 3 4 Options.generic.maxInsertRows = .ok 2 := rfl
  have planned :
      (scripted (.lastStride 2)).dialect.planInsert "t" twoColumnRows =
        .ok ⟨twoBatches "", .lastStride 2⟩ :=
    planInsert_twoColumnRows rfl size partition_twoColumnRows rfl
  have served :
      ∃ answer,
        Serves (.lastStride 2)
          ⟨⟨"INSERT INTO t (\"a\", \"b\") VALUES (?,?),(?,?)",
            [.int 1, .int 2, .int 3, .int 4]⟩, 2⟩
          (.plain (.succeed ⟨none, [], 2, some 12⟩)) answer := by
    refine ⟨_, rfl, rfl, ?_, fun _ => ⟨_, rfl⟩⟩
    intro reads
    cases reads
  have fails :
      (Scripted.plain (.failExecute [duplicateEntry])).Fails [duplicateEntry]
        .execute :=
    .execute rfl
  have pending : stoppedScript.pending = [_] ++ _ :: _ := rfl
  rcases insertRows_stops rfl planned rfl pending (.cons served .nil)
      fails with
    ⟨result, executed, pending, asked, handed, opened, closes, balanced⟩
  rw [handed] at closes
  exact
    ⟨_, result, executed, congrArg List.length pending, opened, closes⟩

end Session

end Sqlwright
