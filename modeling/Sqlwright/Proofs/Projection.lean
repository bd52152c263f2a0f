import Sqlwright.Proofs.Executing
import Sqlwright.Proofs.Visiting

/-!
# Projections of drivers

A driver may keep more than another one and otherwise answer in the same way.
A `Driver.Projection` forgets what it keeps beyond the other driver, and
commutes with every call.  A session makes nothing of what is forgotten: its
answers are the same over both drivers, and the connections that it leaves
correspond to each other.
-/

namespace Sqlwright

variable {Seen Handle Connection Cursor : Type}

/-- What an outer driver keeps beyond an inner one can be forgotten. -/
structure Driver.Projection (outer : Driver Seen Handle)
    (inner : Driver Connection Cursor) where
  connection : Seen → Connection
  cursor : Handle → Cursor
  prepare :
    ∀ (sql : String) (before : Seen),
      inner.prepare sql (connection before) =
        (outer.prepare sql before).map (.map cursor) connection
  execute :
    ∀ (handle : Handle) (params : List Value) (before : Seen),
      inner.execute (cursor handle) params (connection before) =
        (outer.execute handle params before).map (.map cursor) connection
  columns :
    ∀ handle : Handle, inner.columns (cursor handle) = outer.columns handle
  affected :
    ∀ handle : Handle, inner.affected (cursor handle) = outer.affected handle
  insertId :
    ∀ handle : Handle, inner.insertId (cursor handle) = outer.insertId handle
  fetch :
    ∀ (handle : Handle) (before : Seen),
      inner.fetch (cursor handle) (connection before) =
        (outer.fetch handle before).map (.map (.map (.map id cursor)))
          connection
  close :
    ∀ (handle : Handle) (before : Seen),
      inner.close (cursor handle) (connection before) =
        (outer.close handle before).map id connection
  transact :
    ∀ (transaction : Transaction) (before : Seen),
      inner.transact transaction (connection before) =
        (outer.transact transaction before).map id connection

/-- A phase with another cursor in it. -/
def Phase.map (change : Handle → Cursor) : Phase Handle → Phase Cursor
  | active handle => .active (change handle)
  | finished => .finished
  | closed => .closed

/-- A statement with another cursor. -/
def Statement.map (change : Handle → Cursor) (statement : Statement Handle) :
    Statement Cursor :=
  { query := statement.query
    columns := statement.columns
    affected := statement.affected
    reportedId := statement.reportedId
    phase := statement.phase.map change
    claimed := statement.claimed }

variable {outer : Driver Seen Handle} {inner : Driver Connection Cursor}
  (projection : outer.Projection inner)

/-- What came out of a use, as the inner driver shows it. -/
def Used.project {Result : Type} (used : Used Seen Handle Result) :
    Used Connection Cursor Result :=
  ⟨used.result, used.statement.map projection.cursor,
    projection.connection used.connection⟩

namespace Statement

variable (statement : Statement Handle) (before : Seen)

theorem leave_map (next : Phase Handle) :
    (statement.map projection.cursor).leave inner (next.map projection.cursor)
        (projection.connection before) =
      (statement.leave outer next before).project projection := by
  cases phase : statement.phase with
  | active handle =>
      have same := projection.close handle before
      rcases closed : outer.close handle before with ⟨_ | _, after⟩ <;>
      · simp only [closed, Prod.map] at same
        simp only [leave, map, phase, Phase.map, same, closed]
        rfl
  | finished => simp only [leave, map, phase, Phase.map, Used.project]
  | closed => simp only [leave, map, phase, Phase.map, Used.project]

theorem finish_map :
    (statement.map projection.cursor).finish inner
        (projection.connection before) =
      (statement.finish outer before).project projection :=
  leave_map projection statement before .finished

theorem close_map :
    (statement.map projection.cursor).close inner
        (projection.connection before) =
      (statement.close outer before).project projection := by
  rcases phase : statement.phase with handle | _ | _
  · have left := leave_map projection statement before .closed
    simp only [close, phase]
    rw [← left]
    simp only [map, phase, Phase.map]
  · simp only [close, leave, map, phase, Phase.map, Used.project]
  · simp only [close, map, phase, Phase.map, Used.project]

theorem drop_map :
    (statement.map projection.cursor).drop inner
        (projection.connection before) =
      projection.connection (statement.drop outer before) := by
  have finished := finish_map projection statement before
  exact congrArg Used.connection finished

theorem next_map :
    (statement.map projection.cursor).next inner
        (projection.connection before) =
      (statement.next outer before).project projection := by
  cases phase : statement.phase with
  | active handle =>
      have same := projection.fetch handle before
      have active :
          (statement.map projection.cursor).phase =
            .active (projection.cursor handle) := by
        simp only [map, phase, Phase.map]
      rcases fetched : outer.fetch handle before with ⟨_ | _ | ⟨_, _⟩, after⟩
      · simp only [fetched, Prod.map, Except.map] at same
        simp only [next, active, phase, same, fetched, finish_map]
        rfl
      · simp only [fetched, Prod.map, Except.map, Option.map] at same
        simp only [next, active, phase, same, fetched, finish_map]
        rfl
      · simp only [fetched, Prod.map, Except.map, Option.map] at same
        simp only [next, active, phase, same, fetched]
        rfl
  | finished => simp only [next, map, phase, Phase.map, Used.project]
  | closed => simp only [next, map, phase, Phase.map, Used.project]

theorem drain_map :
    (statement.map projection.cursor).drain inner
        (projection.connection before) =
      (statement.drain outer before).project projection := by
  fun_induction drain outer statement before with
  | case1 statement before row found rest induction =>
      have same := next_map projection statement before
      rw [drain_of_some (by rw [same]; exact found), same]
      simp only [Used.project, induction]
      rfl
  | case2 statement before found =>
      have same := next_map projection statement before
      rw [drain_of_none (by rw [same]; exact found), same]
      rfl
  | case3 statement before failure found =>
      have same := next_map projection statement before
      rw [drain_of_error (by rw [same]; exact found), same]
      rfl

theorem read_map (count : Nat) :
    (statement.map projection.cursor).read inner count
        (projection.connection before) =
      let reading := statement.read outer count before
      ⟨reading.outcomes, reading.statement.map projection.cursor,
        projection.connection reading.connection⟩ := by
  induction count generalizing statement before with
  | zero => rfl
  | succ count induction =>
      have same := next_map projection statement before
      simp only [read, same, Used.project, induction]

theorem claim_map :
    (statement.map projection.cursor).claim =
      statement.claim.map (map projection.cursor) := by
  rcases statement with ⟨query, columns, affected, reportedId, phase, claimed⟩
  cases phase <;> cases claimed <;> rfl

theorem claiming_map
    {Result : Type} {read : Statement Handle → Used Seen Handle Result}
    {other : Statement Cursor → Used Connection Cursor Result}
    (same :
      ∀ claimed : Statement Handle,
        other (claimed.map projection.cursor) =
          (read claimed).project projection) :
    (statement.map projection.cursor).claiming (projection.connection before)
        other =
      (statement.claiming before read).project projection := by
  unfold claiming
  rw [claim_map]
  cases statement.claim with
  | error failure => rfl
  | ok claimed => exact same claimed

theorem all_map :
    (statement.map projection.cursor).all inner
        (projection.connection before) =
      (statement.all outer before).project projection :=
  claiming_map projection statement before fun claimed =>
    drain_map projection claimed before

theorem first_map :
    (statement.map projection.cursor).first inner
        (projection.connection before) =
      (statement.first outer before).project projection := by
  refine claiming_map projection statement before fun claimed => ?_
  have same := next_map projection claimed before
  simp only [same, Used.project]
  cases result : (claimed.next outer before).result with
  | error failure => simp only [result]
  | ok row =>
      simp only [finish_map]
      rfl

theorem use_map (use : Use) :
    (statement.map projection.cursor).use inner (projection.connection before)
        use =
      (statement.use outer before use).project projection := by
  cases use with
  | rows count =>
      refine claiming_map projection statement before fun claimed => ?_
      rw [read_map]
      rfl
  | all =>
      simp only [Statement.use, all_map]
      rfl
  | first =>
      simp only [Statement.use, first_map]
      rfl
  | close =>
      simp only [Statement.use, close_map]
      rfl

theorem afterUses_map (uses : List Use) :
    (statement.map projection.cursor).afterUses inner uses
        (projection.connection before) =
      (statement.afterUses outer uses before).map (map projection.cursor)
        projection.connection := by
  induction uses generalizing statement before with
  | nil => rfl
  | cons use uses induction =>
      have same := use_map projection statement before use
      simp only [afterUses, List.foldl_cons] at induction ⊢
      simp only [same, Used.project]
      exact induction _ _

theorem execute_map (options : Options) (query : Query) :
    execute inner options query (projection.connection before) =
      (execute outer options query before).map (.map (map projection.cursor))
        projection.connection := by
  have prepared := projection.prepare query.sql before
  rcases preparation : outer.prepare query.sql before with
    ⟨errors | handle, between⟩
  · simp only [preparation, Prod.map, Except.map] at prepared
    simp only [execute, prepared, preparation]
    rfl
  · simp only [preparation, Prod.map, Except.map] at prepared
    have bound :=
      projection.execute handle (boundValues options query.params) between
    rcases execution :
        outer.execute handle (boundValues options query.params) between with
      ⟨errors | executed, after⟩
    · simp only [execution, Prod.map, Except.map] at bound
      simp only [execute, prepared, preparation, bound, execution,
        projection.close handle after]
      rfl
    · simp only [execution, Prod.map, Except.map] at bound
      have opened :
          ofCursor inner options query (projection.cursor executed) =
            (ofCursor outer options query executed).map projection.cursor := by
        simp only [ofCursor, map, projection.columns, projection.affected,
          projection.insertId, Phase.map]
      have columns :
          ((ofCursor outer options query executed).map
              projection.cursor).columns =
            (ofCursor outer options query executed).columns := rfl
      simp only [execute, prepared, preparation, bound, execution, opened,
        columns, finish_map]
      split
      · rfl
      · simp only [Used.project, Prod.map]
        cases ((ofCursor outer options query executed).finish outer
          after).result <;> rfl

end Statement

namespace Session

/-- The same session over another driver. -/
def onDriver (session : Session Seen Handle)
    (driver : Driver Connection Cursor) : Session Connection Cursor where
  driver := driver
  dialect := session.dialect
  valid := session.valid

variable {session : Session Seen Handle}
  (projection : session.driver.Projection inner) (before : Seen)

theorem runWritten_map (written : Except Failure Query) :
    (session.onDriver inner).runWritten written (projection.connection before) =
      (session.runWritten written before).map
        (.map (Statement.map projection.cursor)) projection.connection := by
  cases written with
  | error failure => rfl
  | ok query =>
      exact
        Statement.execute_map projection before session.dialect.options query

theorem count_map (written : Except Failure Query) :
    (session.onDriver inner).count written (projection.connection before) =
      (session.count written before).map id projection.connection := by
  simp only [count, runWritten_map]
  rcases session.runWritten written before with ⟨failure | statement, after⟩
  · rfl
  · exact
      congrArg (Prod.mk (Except.ok statement.affected))
        (Statement.drop_map projection statement after)

theorem readBatch_map
    (retrieval : IdRetrieval) (rowCount : Nat) (statement : Statement Handle) :
    (session.onDriver inner).readBatch retrieval rowCount
        (statement.map projection.cursor) (projection.connection before) =
      (session.readBatch retrieval rowCount statement before).project
        projection := by
  unfold readBatch
  split
  · have same := Statement.all_map projection statement before
    simp only [onDriver, same]
    rfl
  · rfl

theorem insertBatch_map (retrieval : IdRetrieval) (batch : Batch) :
    (session.onDriver inner).insertBatch retrieval batch
        (projection.connection before) =
      (session.insertBatch retrieval batch before).map id
        projection.connection := by
  have ran := runWritten_map projection before (.ok batch.query)
  simp only [runWritten] at ran
  simp only [insertBatch, ran]
  rcases session.run batch.query before with ⟨failure | statement, started⟩
  · rfl
  · simp only [Prod.map, Except.map, readBatch_map, Used.project]
    cases (session.readBatch retrieval batch.rowCount statement
        started).result with
    | error failure =>
        exact
          congrArg (Prod.mk (Except.error failure))
            (Statement.drop_map projection _ _)
    | ok found =>
        have closed :=
          Statement.close_map projection
            (session.readBatch retrieval batch.rowCount statement
              started).statement
            (session.readBatch retrieval batch.rowCount statement
              started).connection
        simp only [onDriver, closed]
        rfl

theorem insertBatches_map (retrieval : IdRetrieval) (batches : List Batch) :
    (session.onDriver inner).insertBatches retrieval batches
        (projection.connection before) =
      (session.insertBatches retrieval batches before).map id
        projection.connection := by
  induction batches generalizing before with
  | nil => rfl
  | cons batch batches induction =>
      simp only [insertBatches, insertBatch_map]
      rcases session.insertBatch retrieval batch before with
        ⟨failure | ⟨ids, affected⟩, after⟩
      · rfl
      · simp only [Prod.map, id, induction]
        rcases session.insertBatches retrieval batches after with
          ⟨failure | ⟨moreIds, more⟩, final⟩ <;> rfl

theorem insertRows_map (table : String) (rows : List Assignments) :
    (session.onDriver inner).insertRows table rows
        (projection.connection before) =
      (session.insertRows table rows before).map id projection.connection := by
  have planned :
      (session.onDriver inner).dialect.planInsert table rows =
        session.dialect.planInsert table rows := rfl
  simp only [insertRows, planned]
  cases session.dialect.planInsert table rows with
  | error failure => rfl
  | ok plan =>
      simp only [insertBatches_map]
      rcases session.insertBatches plan.retrieval plan.batches before with
        ⟨failure | ⟨ids, affected⟩, after⟩ <;> rfl

theorem insertRow_map (table : String) (row : Assignments) :
    (session.onDriver inner).insertRow table row
        (projection.connection before) =
      (session.insertRow table row before).map id projection.connection := by
  simp only [insertRow, insertRows_map]
  rcases session.insertRows table [row] before with ⟨failure | bulk, after⟩ <;>
    rfl

theorem transact_map (transaction : Transaction) :
    (session.onDriver inner).transact transaction
        (projection.connection before) =
      (session.transact transaction before).map id projection.connection := by
  have same := projection.transact transaction before
  have driver : (session.onDriver inner).driver = inner := rfl
  simp only [transact, driver, same]
  rcases session.driver.transact transaction before with
    ⟨errors | ⟨⟩, after⟩ <;> rfl

/-- A reply with another cursor. -/
def Reply.map (change : Handle → Cursor) : Reply Handle → Reply Cursor
  | .statement opened => .statement (opened.map change)
  | .bulk inserted => .bulk inserted
  | .single inserted => .single inserted
  | .count affected => .count affected
  | .done => .done

theorem replyWith_statement_map
    (answered : Except Failure (Statement Handle) × Seen) :
    replyWith .statement
        (answered.map (Except.map (Statement.map projection.cursor))
          projection.connection) =
      (replyWith .statement answered).map
        (Except.map (Reply.map projection.cursor)) projection.connection := by
  rcases answered with ⟨failure | statement, after⟩ <;> rfl

/-- A reply without a cursor is the same over both drivers. -/
theorem replyWith_map
    {Result : Type} (outerWrap : Result → Reply Handle)
    (innerWrap : Result → Reply Cursor)
    (same :
      ∀ result, innerWrap result = (outerWrap result).map projection.cursor)
    (answered : Except Failure Result × Seen) :
    replyWith innerWrap (answered.map id projection.connection) =
      (replyWith outerWrap answered).map
        (Except.map (Reply.map projection.cursor)) projection.connection := by
  rcases answered with ⟨failure | result, after⟩
  · rfl
  · simp only [replyWith, Prod.map, Except.map, id, same]

theorem perform_map (call : Call) :
    (session.onDriver inner).perform (projection.connection before) call =
      (session.perform before call).map
        (Except.map (Reply.map projection.cursor)) projection.connection := by
  cases call with
  | run query =>
      exact
        (congrArg _ (runWritten_map projection before (.ok query))).trans
          (replyWith_statement_map projection _)
  | select selection =>
      exact
        (congrArg _ (runWritten_map projection before _)).trans
          (replyWith_statement_map projection _)
  | selectFrom sql filter =>
      exact
        (congrArg _ (runWritten_map projection before _)).trans
          (replyWith_statement_map projection _)
  | insertRows table rows =>
      simp only [perform, insertRows_map]
      exact replyWith_map projection .bulk .bulk (fun _ => rfl) _
  | insertRow table row =>
      simp only [perform, insertRow_map]
      exact replyWith_map projection .single .single (fun _ => rfl) _
  | updateRows table assignments filter =>
      simp only [perform, updateRows, count_map]
      exact replyWith_map projection .count .count (fun _ => rfl) _
  | deleteFrom table filter =>
      simp only [perform, deleteFrom, count_map]
      exact replyWith_map projection .count .count (fun _ => rfl) _
  | transact transaction =>
      simp only [perform, transact_map]
      exact
        replyWith_map projection (fun _ => .done) (fun _ => .done)
          (fun _ => rfl) _

theorem afterVisit_map (visit : Visit) :
    (session.onDriver inner).afterVisit (projection.connection before) visit =
      projection.connection (session.afterVisit before visit) := by
  simp only [afterVisit, perform_map]
  rcases session.perform before visit.call with ⟨failure | reply, after⟩
  · rfl
  · cases reply with
    | statement statement =>
        have used :=
          Statement.afterUses_map projection statement after visit.uses
        have dropped :=
          Statement.drop_map projection
            (statement.afterUses session.driver visit.uses after).1
            (statement.afterUses session.driver visit.uses after).2
        simp only [Prod.map, Except.map, Reply.map, onDriver, afterReply, used]
        exact dropped
    | bulk | single | count | done => rfl

theorem afterVisits_map (visits : List Visit) :
    (session.onDriver inner).afterVisits (projection.connection before) visits =
      projection.connection (session.afterVisits before visits) := by
  induction visits generalizing before with
  | nil => rfl
  | cons visit visits induction =>
      simp only [afterVisits, List.foldl_cons] at induction ⊢
      rw [afterVisit_map]
      exact induction _

end Session

end Sqlwright
