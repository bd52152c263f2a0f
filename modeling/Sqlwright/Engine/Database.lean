import Sqlwright.Engine.Parser
import Sqlwright.Engine.Plan
import Sqlwright.Text.Blank

/-!
# Databases

A `Database` holds tables, the tables as they were before an open transaction,
and two counters: how many rows the last change concerned, and the id of the
last row that was inserted.

`Database.run` carries out a plan.  A change that fails leaves all tables as they
were, and sets the number of changed rows to zero.

`Database.prepare` reads a statement and finds out what its names stand for.
The texts that were prepared last are remembered, and such a text is not looked
at again: if its names have lost their meaning since, this shows only when the
statement runs.
-/

namespace Sqlwright.Engine

open Sqlwright.Text

/-- A statement text that is remembered, with the columns of its result set. -/
structure Remembered where
  text : List Char
  labels : Option (List String)

/-- What a database holds from one statement to the next. -/
structure Database where
  tables : List Table
  /-- The tables at the beginning of the open transaction. -/
  saved : Option (List Table)
  /-- The number of rows that the last change concerned. -/
  changes : Nat
  /-- The id of the row that was inserted last. -/
  lastRowId : Int
  /-- The texts that were prepared last, the latest first. -/
  remembered : List Remembered

/-- What a statement answers. -/
structure Effect where
  labels : Option (List String)
  rows : List (List Cell)
  /-- The number of rows that were read or changed. -/
  affected : Nat

/-- A result or a fault, and the database afterwards. -/
abbrev Run (Result : Type) := Except Fault Result × Database

namespace Database

/-- A database without tables. -/
def empty : Database :=
  ⟨[], none, 0, 0, []⟩

/-- The database at a path; only the path `:memory:` can be opened. -/
def openAt (path : String) : Except Fault Database :=
  if path = ":memory:" then .ok empty else .error (.cannotOpen path)

/-- The database at a path, with the report of why it cannot be opened. -/
def connect (path : String) : Except Failure Database :=
  (openAt path).mapError fun fault =>
    .ofCall .openDatabase [fault.native] "" []

/-- Whether no transaction is open. -/
def isAutocommit (database : Database) : Bool :=
  database.saved.isNone

/-- A database with a table in the place of the one of the same name. -/
def withTable (database : Database) (table : Table) : Database :=
  { database with
    tables := database.tables.map fun other =>
      if other.name == table.name then table else other }

/-- What a change leaves: rows that it returns, and how many it concerned. -/
def changed (database : Database) (table : Table)
    (returning : List ResultColumn) (rows : List StoredRow) : Run Effect :=
  let after := { database.withTable table with changes := rows.length }
  let returned := rows.map fun row => Reading.emit returning 1 row.cells
  (.ok
    { labels := Plan.labelsOf returning
      rows := if returning.isEmpty then [] else returned
      affected := rows.length },
    after)

/-- A change that failed. -/
def unchanged (database : Database) (fault : Fault) : Run Effect :=
  (.error fault, { database with changes := 0 })

/-- The effect of a statement without a result set that changes no rows. -/
def quiet (database : Database) : Run Effect :=
  (.ok ⟨none, [], database.changes⟩, database)

/-- Begin, commit or roll back. -/
def transact (transaction : Transaction) (database : Database) : Run Effect :=
  match transaction, database.saved with
  | .begin, none => quiet { database with saved := some database.tables }
  | .begin, some _ => (.error .beginInTransaction, database)
  | .commit, some _ => quiet { database with saved := none }
  | .commit, none => (.error .commitOutside, database)
  | .rollback, some tables =>
      quiet { database with tables := tables, saved := none }
  | .rollback, none => (.error .rollbackOutside, database)

/-- Carry out a plan. -/
def run (plan : Plan) (database : Database) : Run Effect :=
  match plan with
  | .create table =>
      quiet { database with tables := database.tables ++ [table] }
  | .dropTable table =>
      quiet
        { database with
          tables := database.tables.filter fun other => other.name != table.name }
  | .idle => quiet database
  | .insert table policy places reading returning =>
      let inserted : Except Fault (List StoredRow × Table) := do
        let rows ← reading.rows
        let full := rows.map (Plan.fullRow table.columns.length places)
        Table.insertAll policy full table
      match inserted with
      | .error fault => unchanged database fault
      | .ok (rows, after) =>
          let last := (rows.getLast?.map StoredRow.id).getD database.lastRowId
          changed { database with lastRowId := last } after returning rows
  | .update table assigned tests returning =>
      let chosen := table.rows.filter fun row => passes tests row.cells
      let change (cells : List Cell) : List Cell :=
        assigned.foldl (fun cells (index, cell) => cells.set index cell) cells
      match Table.replaceAll change chosen table with
      | .error fault => unchanged database fault
      | .ok (rows, after) => changed database after returning rows
  | .delete table tests returning =>
      let (rows, after) := table.delete fun row => passes tests row.cells
      changed database after returning rows
  | .select reading =>
      match reading.rows with
      | .error fault => (.error fault, database)
      | .ok rows =>
          (.ok ⟨some (reading.outputs.map ResultColumn.label), rows, rows.length⟩,
            database)
  | .transact transaction => transact transaction database

/-- The plan of the first statement of a text, if there is one, and what is behind it. -/
def plan? (database : Database) (params : List Cell) (text : List Char) :
    Except Fault (Option Plan × Nat × List Char) := do
  let parsed ← Parsed.ofText text
  let plan ← parsed.command.mapM (Plan.ofCommand database.tables params)
  pure (plan, parsed.placeholders, parsed.rest)

/-- How many texts are remembered. -/
def mostRemembered : Nat := 16

/-- Remember a text as the latest one. -/
def remember (database : Database) (text : List Char)
    (labels : Option (List String)) : Database :=
  let others := database.remembered.filter fun other => other.text != text
  { database with
    remembered := (⟨text, labels⟩ :: others).take mostRemembered }

/-- What is remembered of a text. -/
def known? (database : Database) (text : List Char) : Option Remembered :=
  database.remembered.find? fun other => other.text == text

/-- The record of a fault that is found in a text. -/
def faultIn (text : List Char) (fault : Fault) : NativeError :=
  fault.nativeIn (String.ofList text)

/--
Read a statement, and refuse another one behind it.  The answer has the plan
for null in every place, if there is a statement at all.
-/
def compile (database : Database) (text : List Char) :
    Except NativeError (Option Plan) := do
  let (plan, _, rest) ← (database.plan? [] text).mapError (faultIn text)
  match (database.plan? [] rest).mapError (faultIn rest) with
  | .error error => throw error
  | .ok (some _, _) => throw Fault.severalStatements.native
  | .ok (none, _) => pure plan

/-- Read and remember a statement, unless it is remembered already. -/
def prepare (sql : String) (database : Database) : Native Database Unit :=
  let text := trim sql.toList
  match database.known? text with
  | some known => (.ok (), database.remember text known.labels)
  | none =>
      match database.compile text with
      | .error error => (.error [error], database)
      | .ok none => (.ok (), database)
      | .ok (some plan) => (.ok (), database.remember text plan.labels?)

/--
Carry out a statement that has been prepared, with as many cells as it has
placeholders.  The labels of a remembered statement are those it had before.
-/
def execute (sql : String) (params : List Cell) (database : Database) :
    Run Effect :=
  let text := trim sql.toList
  match Parsed.ofText text with
  | .error fault => (.error fault, database)
  | .ok parsed =>
      if params.length ≠ parsed.placeholders then
        (.error (.parameterCount (min params.length (parsed.placeholders + 1))
          parsed.placeholders), database)
      else
        match parsed.command with
        | none => (.error .nothingToRun, database)
        | some command =>
            match Plan.ofCommand database.tables params command with
            | .error fault => (.error fault, database)
            | .ok plan =>
                let labels :=
                  match database.known? text with
                  | some known => known.labels
                  | none => plan.labels?
                match run plan (database.remember text plan.labels?) with
                | (.ok effect, after) =>
                    (.ok { effect with labels := labels }, after)
                | (.error fault, after) => (.error fault, after)

/-- Carry out the statements of a text in order, up to the first that fails. -/
def runAll (budget : Nat) (text : List Char) (database : Database) :
    Native Database Unit :=
  match budget with
  | 0 => (.ok (), database)
  | budget + 1 =>
      match database.plan? [] text with
      | .error fault => (.error [faultIn text fault], database)
      | .ok (none, _, rest) =>
          if rest.isEmpty then (.ok (), database)
          else runAll budget rest database
      | .ok (some plan, _, rest) =>
          match run plan database with
          | (.error fault, after) => (.error [fault.native], after)
          | (.ok _, after) =>
              if rest.isEmpty then (.ok (), after)
              else runAll budget rest after

/-- Carry out all statements of a text without placeholders. -/
def batch (sql : String) (database : Database) : Except Failure Unit × Database :=
  match runAll (sql.length + 1) sql.toList database with
  | (.ok (), after) => (.ok (), after)
  | (.error errors, after) => (.error (.ofCall .batch errors sql []), after)

/-- A plan that fails leaves all tables and the open transaction as they were. -/
theorem tables_of_run_error
    {plan : Plan} {database after : Database} {fault : Fault}
    (failed : run plan database = (.error fault, after)) :
    after.tables = database.tables ∧ after.saved = database.saved := by
  cases plan with
  | create | dropTable | idle | delete => cases failed
  | insert | update =>
      simp only [run] at failed
      split at failed
      · cases failed
        exact ⟨rfl, rfl⟩
      · cases failed
  | select =>
      simp only [run] at failed
      split at failed
      · cases failed
        exact ⟨rfl, rfl⟩
      · cases failed
  | transact transaction =>
      simp only [run, transact] at failed
      split at failed
      all_goals cases failed
      all_goals exact ⟨rfl, rfl⟩

/-- Rolling back brings back the tables of the beginning. -/
theorem tables_rollback_begin (database : Database)
    (closed : database.saved = none) :
    (transact .rollback (transact .begin database).2).2.tables =
      database.tables := by
  simp [transact, closed, quiet]

end Database

end Sqlwright.Engine
