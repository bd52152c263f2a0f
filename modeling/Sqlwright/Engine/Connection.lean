import Sqlwright.Engine.Database
import Sqlwright.Lexical.Routing
import Sqlwright.Session.Driver

/-!
# Connections to a database

The calls of a session, answered by a `Database`.  All rows of a statement are
read while it is executed, and handed out one by one afterwards, so fetching and
closing never touch the database.
-/

namespace Sqlwright.Engine

namespace Database

/-- A statement of a connection, with the rows that are left. -/
structure Cursor where
  sql : String
  labels : Option (List String)
  rows : List (List Value)
  affected : Int
  insertId : Option Int64

/-- Prepare a statement. -/
def open? (sql : String) (database : Database) : Native Database Cursor :=
  match database.prepare sql with
  | (.ok (), after) => (.ok ⟨sql, none, [], 0, none⟩, after)
  | (.error errors, after) => (.error errors, after)

/-- The id to be reported: that of the last row, if the statement inserted any. -/
def reportedId (sql : String) (affected : Nat) (database : Database) :
    Option Int64 :=
  if 0 < affected && Lexical.insertsRows sql then
    some (Int64.ofInt database.lastRowId)
  else
    none

/-- Execute a statement with its values, and read all of its rows. -/
def fill (cursor : Cursor) (params : List Value) (database : Database) :
    Native Database Cursor :=
  let cells := params.map fun param => (Cell.ofValue param).kept
  match database.execute cursor.sql cells with
  | (.ok effect, after) =>
      (.ok
        { cursor with
          labels := effect.labels
          rows := effect.rows.map fun cells => cells.map Cell.toValue
          affected := effect.affected
          insertId := after.reportedId cursor.sql effect.affected },
        after)
  | (.error fault, after) => (.error [fault.native], after)

/-- The next row, and the cursor behind it. -/
def Cursor.step (cursor : Cursor) : Option (List Value × Cursor) :=
  match cursor.rows with
  | [] => none
  | values :: rows => some (values, { cursor with rows := rows })

/-- Begin, commit or roll back. -/
def frame (transaction : Transaction) (database : Database) :
    Native Database Unit :=
  match database.transact transaction with
  | (.ok _, after) => (.ok (), after)
  | (.error fault, after) => (.error [fault.native], after)

theorem length_rows_step
    {cursor next : Cursor} {values : List Value}
    (found : cursor.step = some (values, next)) :
    next.rows.length < cursor.rows.length := by
  unfold Cursor.step at found
  cases rows : cursor.rows with
  | nil => simp [rows] at found
  | cons head tail =>
      simp only [rows, Option.some.injEq, Prod.mk.injEq] at found
      simp [← found.2]

/-- The driver of a database. -/
def driver : Driver Database Cursor :=
  { configure := fun _ database => database
    prepare := open?
    execute := fill
    columns := Cursor.labels
    affected := Cursor.affected
    insertId := Cursor.insertId
    fetch := fun cursor database => (.ok cursor.step, database)
    close := fun _ database => (.ok (), database)
    transact := frame
    remaining := fun cursor => cursor.rows.length
    remaining_fetch := fun _ _ _ _ found =>
      length_rows_step (Except.ok.inj found) }

end Database

end Sqlwright.Engine
