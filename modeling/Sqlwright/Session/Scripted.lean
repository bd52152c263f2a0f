import Sqlwright.Query
import Sqlwright.Session.Driver

/-!
# Scripted connections

A `Script` is the state of a connection without a backend.  It answers each
prepared statement with the next of some scripted outcomes, records what was
executed, and counts the calls and the statements that are open.

Statements beyond the script succeed without a result set, or, on a connection
that echoes, with one row that holds the bound values.
-/

namespace Sqlwright

/-- What a statement reports when its execution succeeds. -/
structure Answer where
  columns : Option (List String)
  rows : List (List Value)
  affected : Int
  insertId : Option Int64

namespace Answer

/-- No result set, and no rows counted. -/
def none : Answer :=
  ⟨.none, [], 0, .none⟩

/-- A result set, of which the rows are counted. -/
def ofRows (columns : List String) (rows : List (List Value)) : Answer :=
  ⟨some columns, rows, rows.length, .none⟩

/-- One row that holds the bound values, in columns `p1`, `p2`, … -/
def echo (params : List Value) : Answer :=
  { columns :=
      some ((List.range params.length).map fun index =>
        "p" ++ toString (index + 1))
    rows := [params]
    affected := 1
    insertId := .none }

end Answer

/-- How a statement turns out. -/
inductive Outcome where
  | succeed (answer : Answer)
  | failPrepare (errors : List NativeError)
  | failExecute (errors : List NativeError)

/-- An outcome, and failures of later calls about the same statement. -/
structure Scripted where
  outcome : Outcome
  /-- The number of a row, from zero, of which the fetching fails. -/
  failFetch : Option (Nat × List NativeError)
  failClose : Option (List NativeError)

/-- An outcome without later failures. -/
def Scripted.plain (outcome : Outcome) : Scripted :=
  ⟨outcome, none, none⟩

/-- The state of a scripted connection. -/
structure Script where
  pending : List Scripted
  echoes : Bool
  /-- The statements that reached execution, with their bound values, in order. -/
  executed : List Query
  calls : Nat
  /-- The statements that are open. -/
  opened : Nat
  /-- The most statements that were ever open. -/
  maxOpened : Nat
  closes : Nat
  transactions : List Transaction
  failTransactions : Option (List NativeError)
  configured : Option Options

namespace Script

/-- A connection with a script, to which nothing has happened yet. -/
def ofPending (echoes : Bool) (pending : List Scripted) : Script :=
  { pending := pending
    echoes := echoes
    executed := []
    calls := 0
    opened := 0
    maxOpened := 0
    closes := 0
    transactions := []
    failTransactions := none
    configured := none }

/-- Another outcome at the end of the script. -/
def push (script : Script) (scripted : Scripted) : Script :=
  { script with pending := script.pending ++ [scripted] }

/-- One more call. -/
def called (script : Script) : Script :=
  { script with calls := script.calls + 1 }

/-- One more open statement. -/
def opening (script : Script) : Script :=
  { script with
    opened := script.opened + 1
    maxOpened := max script.maxOpened (script.opened + 1) }

/-- A statement of a scripted connection. -/
structure Cursor where
  sql : String
  outcome : Option Outcome
  answer : Answer
  rows : List (List Value)
  fetched : Nat
  failFetch : Option (Nat × List NativeError)
  failClose : Option (List NativeError)

/-- The statement of the next entry of the script. -/
def cursor (sql : String) (scripted : Option Scripted) : Cursor :=
  { sql := sql
    outcome := scripted.map Scripted.outcome
    answer := Answer.none
    rows := []
    fetched := 0
    failFetch := scripted.bind Scripted.failFetch
    failClose := scripted.bind Scripted.failClose }

/-- Prepare a statement; this uses up an entry of the script in any case. -/
def prepare (sql : String) (script : Script) : Native Script Cursor :=
  let left := { script.called with pending := script.pending.tail }
  match script.pending.head? with
  | some ⟨.failPrepare errors, _, _⟩ => (.error errors, left)
  | scripted => (.ok (cursor sql scripted), left.opening)

/-- The answer to a statement that is executed. -/
def answer (echoes : Bool) (params : List Value) :
    Option Outcome → Except (List NativeError) Answer
  | some (.failExecute errors) => .error errors
  | some (.succeed answer) => .ok answer
  | _ => .ok (if echoes then Answer.echo params else Answer.none)

/-- Execute a statement, which is recorded in any case. -/
def execute (cursor : Cursor) (params : List Value) (script : Script) :
    Native Script Cursor :=
  let after :=
    { script.called with executed := script.executed ++ [⟨cursor.sql, params⟩] }
  match answer script.echoes params cursor.outcome with
  | .error errors => (.error errors, after)
  | .ok answer => (.ok { cursor with answer := answer, rows := answer.rows }, after)

/-- Fetch a row; one of which the fetching fails is used up. -/
def fetch (cursor : Cursor) (script : Script) :
    Native Script (Option (List Value × Cursor)) :=
  let result :=
    match cursor.rows with
    | [] => none
    | values :: rows =>
        some (values, { cursor with rows := rows, fetched := cursor.fetched + 1 })
  match cursor.failFetch with
  | some (index, errors) =>
      if index = cursor.fetched then (.error errors, script.called)
      else (.ok result, script.called)
  | none => (.ok result, script.called)

/-- Close a statement; a failure to do so is only reported. -/
def close (cursor : Cursor) (script : Script) : Native Script Unit :=
  let after :=
    { script.called with
      opened := script.opened - 1
      closes := script.closes + 1 }
  match cursor.failClose with
  | some errors => (.error errors, after)
  | none => (.ok (), after)

/-- Begin, commit or roll back; a call that is made to fail is not recorded. -/
def transact (transaction : Transaction) (script : Script) :
    Native Script Unit :=
  match script.failTransactions with
  | some errors => (.error errors, script.called)
  | none =>
      (.ok (),
        { script.called with
          transactions := script.transactions ++ [transaction] })

theorem length_rows_fetch
    (cursor next : Cursor) (script : Script) (values : List Value)
    (found : (fetch cursor script).1 = .ok (some (values, next))) :
    next.rows.length < cursor.rows.length := by
  unfold fetch at found
  cases rows : cursor.rows with
  | nil =>
      simp only [rows] at found
      split at found
      · split at found <;> simp at found
      · simp at found
  | cons head tail =>
      simp only [rows] at found
      split at found
      · split at found
        · simp at found
        · simp only [Except.ok.injEq, Option.some.injEq, Prod.mk.injEq] at found
          simp [← found.2]
      · simp only [Except.ok.injEq, Option.some.injEq, Prod.mk.injEq] at found
        simp [← found.2]

/-- The driver that answers from a script. -/
def driver : Driver Script Cursor :=
  { configure := fun options script =>
      { script with configured := some options }
    prepare := prepare
    execute := execute
    columns := fun cursor => cursor.answer.columns
    affected := fun cursor => cursor.answer.affected
    insertId := fun cursor => cursor.answer.insertId
    fetch := fetch
    close := close
    transact := transact
    remaining := fun cursor => cursor.rows.length
    remaining_fetch := fun cursor next before values found =>
      length_rows_fetch cursor next before values found }

end Script

end Sqlwright
