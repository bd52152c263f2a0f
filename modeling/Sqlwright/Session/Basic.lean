import Sqlwright.Change
import Sqlwright.Insertion.Ids
import Sqlwright.Insertion.Plan
import Sqlwright.Session.Results
import Sqlwright.Session.Statement

/-!
# Sessions

A `Session` is a driver together with the dialect that statements are written
in; its options have passed validation.  Its operations take the state of the
connection and give back a result or a failure, and the connection afterwards.

A statement is always written before the driver is asked for anything, so a
faulty argument leaves the connection as it was.  Rows are inserted batch by
batch; the first batch that fails ends the insertion and leaves the earlier
ones in place.
-/

namespace Sqlwright

open Sqlwright.Insertion
open Sqlwright.Text

/-- A driver and a dialect with options that a session can work with. -/
structure Session (Connection Cursor : Type) where
  driver : Driver Connection Cursor
  dialect : Dialect
  valid : dialect.options.fault? = none

namespace Session

variable {Connection Cursor : Type}

/-- Pair a driver with a dialect, after its options have been validated. -/
def start (driver : Driver Connection Cursor) (dialect : Dialect)
    (connection : Connection) :
    Except Failure (Session Connection Cursor × Connection) :=
  match fault : dialect.options.fault? with
  | some found => .error (.setting found)
  | none =>
      .ok (⟨driver, dialect, fault⟩,
        driver.configure dialect.options connection)

/-- An identifier in the quotes of the dialect. -/
def quote (session : Session Connection Cursor) (identifier : String) :
    Except Failure String :=
  session.dialect.quote identifier

/-- Execute a query of the caller. -/
def run (session : Session Connection Cursor) (query : Query)
    (connection : Connection) :
    Except Failure (Statement Cursor) × Connection :=
  Statement.execute session.driver session.dialect.options query connection

/-- Execute a query that had to be written first, unless it was refused. -/
def runWritten (session : Session Connection Cursor)
    (written : Except Failure Query) (connection : Connection) :
    Except Failure (Statement Cursor) × Connection :=
  match written with
  | .ok query => session.run query connection
  | .error failure => (.error failure, connection)

/-- Execute the statement of a selection. -/
def select (session : Session Connection Cursor) (selection : Selection)
    (connection : Connection) :
    Except Failure (Statement Cursor) × Connection :=
  session.runWritten (session.dialect.select selection) connection

/-- Execute a statement of the caller with the conditions of a filter. -/
def selectFrom (session : Session Connection Cursor) (sql : String)
    (filter : Filter) (connection : Connection) :
    Except Failure (Statement Cursor) × Connection :=
  session.runWritten (session.dialect.selectFrom sql filter) connection

/-- Execute a query that could be written, for the count of its rows only. -/
def count (session : Session Connection Cursor)
    (written : Except Failure Query) (connection : Connection) :
    Except Failure Int × Connection :=
  match session.runWritten written connection with
  | (.ok statement, after) =>
      (.ok statement.affected, statement.drop session.driver after)
  | (.error failure, after) => (.error failure, after)

/-- Set columns of the rows of a filter, and count them. -/
def updateRows (session : Session Connection Cursor) (table : String)
    (assignments : Assignments) (filter : Filter) (connection : Connection) :
    Except Failure Int × Connection :=
  session.count (session.dialect.update table assignments filter) connection

/-- Delete the rows of a filter, and count them. -/
def deleteFrom (session : Session Connection Cursor) (table : String)
    (filter : Filter) (connection : Connection) :
    Except Failure Int × Connection :=
  session.count (session.dialect.delete table filter) connection

/-- Begin, commit or roll back a transaction. -/
def transact (session : Session Connection Cursor) (transaction : Transaction)
    (connection : Connection) : Except Failure Unit × Connection :=
  match session.driver.transact transaction connection with
  | (.ok (), after) => (.ok (), after)
  | (.error errors, after) =>
      (.error (.ofCall transaction.call errors "" []), after)

/-- The id in a returned value: an integer, or the text of one. -/
def returnedId (value : Option Value) : Except Failure Int64 :=
  match value with
  | some (.int id) => .ok id
  | some (.text text) =>
      match readInt64? (trim text.toList) with
      | some id => .ok id
      | none => .error (.result (.idNotInteger text))
  | other => .error (.result (.noId other))

/-- The ids in the first column of some rows. -/
def returnedIds (rows : List Row) : Except Failure (List Int64) :=
  rows.mapM fun row => returnedId (row.at? 0)

/-- The ids of a batch and the number of its rows, from its statement. -/
def readBatch (session : Session Connection Cursor) (retrieval : IdRetrieval)
    (rowCount : Nat) (statement : Statement Cursor) (connection : Connection) :
    Used Connection Cursor (List Int64 × Int) :=
  if retrieval.readsRows then
    let read := statement.all session.driver connection
    let ids := read.result.bind returnedIds
    ⟨ids.map fun ids => (ids, (ids.length : Int)), read.statement,
      read.connection⟩
  else
    let ids := reconstructIds retrieval statement.insertId rowCount
    ⟨ids.map fun ids => (ids, statement.affected), statement, connection⟩

/-- Execute a batch, read its ids, and close its statement. -/
def insertBatch (session : Session Connection Cursor) (retrieval : IdRetrieval)
    (batch : Batch) (connection : Connection) :
    Except Failure (List Int64 × Int) × Connection :=
  match session.run batch.query connection with
  | (.error failure, after) => (.error failure, after)
  | (.ok statement, started) =>
      let read :=
        session.readBatch retrieval batch.rowCount statement started
      match read.result with
      | .error failure =>
          (.error failure, read.statement.drop session.driver read.connection)
      | .ok found =>
          let closed := read.statement.close session.driver read.connection
          (closed.result.map fun _ => found, closed.connection)

/-- Execute batches in order up to the first that fails. -/
def insertBatches (session : Session Connection Cursor)
    (retrieval : IdRetrieval) : List Batch → Connection →
    Except Failure (List Int64 × Int) × Connection
  | [], connection => (.ok ([], 0), connection)
  | batch :: batches, connection =>
      match session.insertBatch retrieval batch connection with
      | (.error failure, after) => (.error failure, after)
      | (.ok (ids, affected), after) =>
          match session.insertBatches retrieval batches after with
          | (.error failure, final) => (.error failure, final)
          | (.ok (moreIds, more), final) =>
              (.ok (ids ++ moreIds, affected + more), final)

/-- Insert rows in as many statements as the limits of the backend demand. -/
def insertRows (session : Session Connection Cursor) (table : String)
    (rows : List Assignments) (connection : Connection) :
    Except Failure BulkInsert × Connection :=
  match session.dialect.planInsert table rows with
  | .error failure => (.error failure, connection)
  | .ok plan =>
      match session.insertBatches plan.retrieval plan.batches connection with
      | (.error failure, after) => (.error failure, after)
      | (.ok (ids, affected), after) =>
          (.ok ⟨ids, affected, plan.batches.length⟩, after)

/-- Insert one row, and give its id. -/
def insertRow (session : Session Connection Cursor) (table : String)
    (row : Assignments) (connection : Connection) :
    Except Failure SingleInsert × Connection :=
  match session.insertRows table [row] connection with
  | (.ok bulk, after) => (.ok bulk.toSingle, after)
  | (.error failure, after) => (.error failure, after)

end Session

end Sqlwright
