import Sqlwright.Query
import Sqlwright.Row
import Sqlwright.Session.Driver

/-!
# Executed statements

A `Statement` is what remains of a query after its execution: its counts, and
as long as it is active the cursor on its rows.  Its `Phase` says whether the
statement is active, has closed itself, or was closed by the caller; only an
active statement has a cursor, so a cursor cannot be used after it was given
back.

The rows can be read once.  `Statement.claim` grants that right, and `next`,
`all` and `first` make use of it.  A statement closes itself when its rows run
out, after its first row, and when a row cannot be fetched.

Every use gives back the statement and the connection as they are afterwards,
also when it fails.
-/

namespace Sqlwright

open Sqlwright.Text

/-- Whether a statement can still be read. -/
inductive Phase (Cursor : Type) where
  | active (cursor : Cursor)
  /-- Closed by itself. -/
  | finished
  | closed

/-- An executed query. -/
structure Statement (Cursor : Type) where
  /-- The query as the caller gave it. -/
  query : Query
  columns : Option (List String)
  affected : Int
  /-- The id that the backend reported; zero stands for none. -/
  reportedId : Option Int64
  phase : Phase Cursor
  /-- Whether the rows have been claimed by a reader. -/
  claimed : Bool

/-- What came out of a use, and the statement and the connection afterwards. -/
structure Used (Connection Cursor Result : Type) where
  result : Except Failure Result
  statement : Statement Cursor
  connection : Connection

namespace Phase

/-- The name of a phase in messages. -/
def name {Cursor : Type} : Phase Cursor → String
  | active _ => "Open"
  | finished => "AutoClosed"
  | closed => "Closed"

end Phase

namespace Statement

variable {Connection Cursor : Type}

/-- The id of the first or last inserted row, if the backend reported one. -/
def insertId (statement : Statement Cursor) : Option Int64 :=
  statement.reportedId.filter (· != 0)

/-- Whether a statement has been closed, by itself or by the caller. -/
def isClosed (statement : Statement Cursor) : Bool :=
  match statement.phase with
  | .active _ => false
  | _ => true

/-- A statement in short, for messages. -/
def inspect (statement : Statement Cursor) : String :=
  let id := statement.reportedId.map fun id => toString id.toInt
  "Statement \x7b query: " ++ inspectText statement.query.sql ++
    ", affected: " ++ toString statement.affected ++ ", insert_id: " ++
    inspectOption id ++ ", state: " ++ statement.phase.name ++ ", .. \x7d"

/--
The failure of a call of a statement, about its query as the caller gave it.
-/
def failure (statement : Statement Cursor) (call : DriverCall)
    (errors : List NativeError) : Failure :=
  .ofCall call errors statement.query.sql statement.query.params

/--
Give the cursor of an active statement back and go on in another phase.  The
phase changes even if the driver fails; without a cursor nothing happens.
-/
def leave (driver : Driver Connection Cursor) (next : Phase Cursor)
    (statement : Statement Cursor) (connection : Connection) :
    Used Connection Cursor Unit :=
  match statement.phase with
  | .active cursor =>
      let left := { statement with phase := next }
      match driver.close cursor connection with
      | (.ok (), after) => ⟨.ok (), left, after⟩
      | (.error errors, after) =>
          ⟨.error (statement.failure .close errors), left, after⟩
  | _ => ⟨.ok (), statement, connection⟩

/-- A statement closes itself. -/
def finish (driver : Driver Connection Cursor) (statement : Statement Cursor)
    (connection : Connection) : Used Connection Cursor Unit :=
  leave driver .finished statement connection

/--
The caller closes a statement.  Closing what has closed itself is fine;
closing a second time is not.
-/
def close (driver : Driver Connection Cursor) (statement : Statement Cursor)
    (connection : Connection) : Used Connection Cursor Unit :=
  match statement.phase with
  | .closed => ⟨.error (.statement .alreadyClosed), statement, connection⟩
  | _ => leave driver .closed statement connection

/-- A statement that nobody needs any more gives its cursor back silently. -/
def drop (driver : Driver Connection Cursor) (statement : Statement Cursor)
    (connection : Connection) : Connection :=
  (leave driver .finished statement connection).connection

/-- Claim the rows for a reader; a closed statement refuses before a read one. -/
def claim (statement : Statement Cursor) :
    Except Failure (Statement Cursor) :=
  match statement.phase with
  | .closed => .error (.statement .readAfterClose)
  | _ =>
      if statement.claimed then .error (.statement .alreadyRead)
      else .ok { statement with claimed := true }

/-- A row of the statement's result set. -/
def row (statement : Statement Cursor) (values : List Value) : Row :=
  ⟨statement.columns.getD [], values⟩

/--
The next row.  The statement closes itself behind the last row and when the
row cannot be fetched; in the latter case a failure to close is not reported.
-/
def next (driver : Driver Connection Cursor) (statement : Statement Cursor)
    (connection : Connection) : Used Connection Cursor (Option Row) :=
  match statement.phase with
  | .active cursor =>
      match driver.fetch cursor connection with
      | (.ok (some (values, behind)), after) =>
          ⟨.ok (some (statement.row values)),
            { statement with phase := .active behind }, after⟩
      | (.ok none, after) =>
          let finished := statement.finish driver after
          ⟨finished.result.map fun _ => none, finished.statement,
            finished.connection⟩
      | (.error errors, after) =>
          let finished := statement.finish driver after
          ⟨.error (statement.failure .fetch errors), finished.statement,
            finished.connection⟩
  | _ => ⟨.ok none, statement, connection⟩

/-- A bound for the rows that a statement still has. -/
def remaining (driver : Driver Connection Cursor)
    (statement : Statement Cursor) : Nat :=
  match statement.phase with
  | .active cursor => driver.remaining cursor
  | _ => 0

theorem remaining_next
    (driver : Driver Connection Cursor) (statement : Statement Cursor)
    (connection : Connection) (row : Row)
    (found : (statement.next driver connection).result = .ok (some row)) :
    (statement.next driver connection).statement.remaining driver <
      statement.remaining driver := by
  unfold next at found ⊢
  split at found
  · rename_i cursor active
    split at found
    · rename_i values behind after fetched
      simp only [remaining, active]
      exact driver.remaining_fetch cursor behind connection values
        (by rw [fetched])
    · rename_i after fetched
      simp only [Except.map] at found
      split at found <;> simp at found
    · simp at found
  · simp at found

/-- The rows that are left; the first failure ends the reading. -/
def drain (driver : Driver Connection Cursor) (statement : Statement Cursor)
    (connection : Connection) : Used Connection Cursor (List Row) :=
  match _found : (statement.next driver connection).result with
  | .ok (some row) =>
      let rest :=
        drain driver (statement.next driver connection).statement
          (statement.next driver connection).connection
      ⟨rest.result.map (row :: ·), rest.statement, rest.connection⟩
  | .ok none =>
      let used := statement.next driver connection
      ⟨.ok [], used.statement, used.connection⟩
  | .error failure =>
      let used := statement.next driver connection
      ⟨.error failure, used.statement, used.connection⟩
termination_by statement.remaining driver
decreasing_by
  exact remaining_next driver statement connection row _found

/-- Claim the rows and go on, or fail without touching the connection. -/
def claiming {Result : Type} (statement : Statement Cursor)
    (connection : Connection)
    (read : Statement Cursor → Used Connection Cursor Result) :
    Used Connection Cursor Result :=
  match statement.claim with
  | .ok claimed => read claimed
  | .error failure => ⟨.error failure, statement, connection⟩

/-- Read all rows, and close the statement. -/
def all (driver : Driver Connection Cursor) (statement : Statement Cursor)
    (connection : Connection) : Used Connection Cursor (List Row) :=
  statement.claiming connection fun claimed => claimed.drain driver connection

/-- The first row, if there is one; the statement closes itself behind it. -/
def first (driver : Driver Connection Cursor) (statement : Statement Cursor)
    (connection : Connection) : Used Connection Cursor (Option Row) :=
  statement.claiming connection fun claimed =>
    let read := claimed.next driver connection
    match read.result with
    | .error _ => read
    | .ok row =>
        let finished := read.statement.finish driver read.connection
        ⟨finished.result.map fun _ => row, finished.statement,
          finished.connection⟩

/--
At most `count` steps of a reader that has claimed the rows.  It stops behind a
step without a row; a step that fails is followed by one without a row.
-/
def steps (driver : Driver Connection Cursor) : Nat → Statement Cursor →
    Connection → Used Connection Cursor (List (Except Failure (Option Row)))
  | 0, statement, connection => ⟨.ok [], statement, connection⟩
  | count + 1, statement, connection =>
      let read := statement.next driver connection
      match read.result with
      | .ok none => ⟨.ok [.ok none], read.statement, read.connection⟩
      | outcome =>
          let rest := steps driver count read.statement read.connection
          ⟨rest.result.map (outcome :: ·), rest.statement, rest.connection⟩

/--
Claim the rows and take at most `count` steps, or as many as there are if no
count is given.
-/
def rows (driver : Driver Connection Cursor) (count : Option Nat)
    (statement : Statement Cursor) (connection : Connection) :
    Used Connection Cursor (List (Except Failure (Option Row))) :=
  statement.claiming connection fun claimed =>
    claimed.steps driver (count.getD (claimed.remaining driver + 2)) connection

/--
The values as a driver receives them: a backend without booleans gets the
integers 0 and 1 for them.
-/
def boundValues (options : Options) (params : List Value) : List Value :=
  if options.nativeBoolType then params
  else
    params.map fun param =>
      match param with
      | .bool value => Value.ofBool value
      | other => other

/--
The statement of an executed cursor, whose columns tell if there are rows to
read.
-/
def ofCursor (driver : Driver Connection Cursor) (options : Options)
    (query : Query) (cursor : Cursor) : Statement Cursor :=
  let columns := driver.columns cursor
  { query := query
    columns := columns
    affected :=
      if columns.isSome && !options.affectedIsRowCount then -1
      else driver.affected cursor
    reportedId := driver.insertId cursor
    phase := .active cursor
    claimed := false }

/--
Prepare, bind and execute a query.  A statement without a result set closes
itself at once.  When the execution fails the prepared cursor is given back,
and a failure to do so is not reported.
-/
def execute (driver : Driver Connection Cursor) (options : Options)
    (query : Query) (connection : Connection) :
    Except Failure (Statement Cursor) × Connection :=
  match driver.prepare query.sql connection with
  | (.error errors, after) =>
      (.error (.ofCall .prepare errors query.sql query.params), after)
  | (.ok cursor, prepared) =>
      match driver.execute cursor (boundValues options query.params) prepared with
      | (.error errors, after) =>
          (.error (.ofCall .execute errors query.sql query.params),
            (driver.close cursor after).2)
      | (.ok executed, after) =>
          let statement := ofCursor driver options query executed
          if statement.columns.isSome then
            (.ok statement, after)
          else
            let finished := statement.finish driver after
            (finished.result.map fun _ => finished.statement,
              finished.connection)

end Statement

end Sqlwright
