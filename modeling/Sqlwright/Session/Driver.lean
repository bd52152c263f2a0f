import Sqlwright.Options

/-!
# Drivers

A `Driver` is what a session needs of a backend: functions that take the state
of a connection and give back the state afterwards.  Preparing a statement
gives a cursor, executing it gives a cursor at its first row, and fetching
gives a row with the cursor behind it.

`Driver.remaining` bounds the rows that a cursor still has, and every row that
is fetched uses one of them up.  This is what lets all rows of a statement be
read.
-/

namespace Sqlwright

/-- The calls that frame a transaction. -/
inductive Transaction where
  | begin
  | commit
  | rollback
  deriving DecidableEq

namespace Transaction

/-- What a transaction is asked to do, in a word. -/
def name : Transaction → String
  | begin => "begin"
  | commit => "commit"
  | rollback => "rollback"

/-- The call that the driver gets. -/
def call : Transaction → DriverCall
  | begin => .begin
  | commit => .commit
  | rollback => .rollback

end Transaction

/-- The result of a driver call, and the connection afterwards. -/
abbrev Native (Connection Result : Type) :=
  Except (List NativeError) Result × Connection

/-- The calls that a session makes to a backend. -/
structure Driver (Connection Cursor : Type) where
  /-- Take notice of the options of a session, once. -/
  configure : Options → Connection → Connection
  prepare : String → Connection → Native Connection Cursor
  /-- Bind values to the placeholders in order, and run the statement. -/
  execute : Cursor → List Value → Connection → Native Connection Cursor
  /-- The columns of the result set, if there is one. -/
  columns : Cursor → Option (List String)
  /-- The number of rows that the statement has changed or found. -/
  affected : Cursor → Int
  /-- The id that the backend reports for the last insert. -/
  insertId : Cursor → Option Int64
  /-- The next row and the cursor behind it; no row when there are none left. -/
  fetch :
    Cursor → Connection → Native Connection (Option (List Value × Cursor))
  close : Cursor → Connection → Native Connection Unit
  transact : Transaction → Connection → Native Connection Unit
  /-- A bound for the rows that a cursor still has. -/
  remaining : Cursor → Nat
  remaining_fetch :
    ∀ (cursor next : Cursor) (before : Connection) (values : List Value),
      (fetch cursor before).1 = .ok (some (values, next)) →
        remaining next < remaining cursor

namespace Driver

variable {Connection Cursor : Type}

/--
The rows that a cursor still has, up to the first that cannot be fetched, and
the cursor behind them.
-/
def fetchAll (driver : Driver Connection Cursor) (cursor : Cursor)
    (connection : Connection) : List (List Value) × Cursor × Connection :=
  match _found : (driver.fetch cursor connection).1 with
  | .ok (some (values, next)) =>
      let rest := fetchAll driver next (driver.fetch cursor connection).2
      (values :: rest.1, rest.2)
  | _ => ([], cursor, (driver.fetch cursor connection).2)
termination_by driver.remaining cursor
decreasing_by
  exact driver.remaining_fetch cursor next connection values _found

end Driver

end Sqlwright
