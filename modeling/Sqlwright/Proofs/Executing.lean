import Sqlwright.Session.Statement

/-!
# Statements on an answering driver

What a driver does for one statement is a chain of calls.  `Driver.Starts` and
`Driver.Fetches` say that the calls of such a chain succeed one after another,
and what they leave behind.  The lemmas of this module give what a statement
makes of them.
-/

namespace Sqlwright

variable {Connection Cursor : Type}

namespace Driver

/-- The query is prepared, its values are bound, and it is executed. -/
def Starts (driver : Driver Connection Cursor) (options : Options)
    (query : Query) (before : Connection) (cursor : Cursor)
    (after : Connection) : Prop :=
  ∃ prepared between,
    driver.prepare query.sql before = (.ok prepared, between) ∧
      driver.execute prepared (Statement.boundValues options query.params)
        between = (.ok cursor, after)

/-- Fetching gives some rows and then reaches the end of the result set. -/
inductive Fetches (driver : Driver Connection Cursor) :
    Cursor → Connection → List (List Value) → Cursor → Connection → Prop where
  | done {cursor : Cursor} {before after : Connection} :
      driver.fetch cursor before = (.ok none, after) →
        Fetches driver cursor before [] cursor after
  | row {cursor next last : Cursor} {before between after : Connection}
      {values : List Value} {rows : List (List Value)} :
      driver.fetch cursor before = (.ok (some (values, next)), between) →
        Fetches driver next between rows last after →
          Fetches driver cursor before (values :: rows) last after

end Driver

namespace Statement

variable {driver : Driver Connection Cursor} {statement : Statement Cursor}

theorem leave_of_active
    {cursor : Cursor} {before after : Connection} (next : Phase Cursor)
    (active : statement.phase = .active cursor)
    (closed : driver.close cursor before = (.ok (), after)) :
    statement.leave driver next before =
      ⟨.ok (), { statement with phase := next }, after⟩ := by
  simp only [leave, active, closed]

/-- A statement that has closed itself can be closed once more. -/
theorem close_of_finished
    (finished : statement.phase = .finished) (connection : Connection) :
    statement.close driver connection = ⟨.ok (), statement, connection⟩ := by
  simp only [close, leave, finished]

theorem close_of_active
    {cursor : Cursor} {before after : Connection}
    (active : statement.phase = .active cursor)
    (closed : driver.close cursor before = (.ok (), after)) :
    statement.close driver before =
      ⟨.ok (), { statement with phase := .closed }, after⟩ := by
  rw [← leave_of_active .closed active closed]
  simp only [close, active]

/-- With a result set the statement stays open. -/
theorem execute_of_columns
    {options : Options} {query : Query} {cursor : Cursor}
    {before after : Connection}
    (starts : driver.Starts options query before cursor after)
    (columns : (driver.columns cursor).isSome = true) :
    execute driver options query before =
      (.ok (ofCursor driver options query cursor), after) := by
  rcases starts with ⟨prepared, between, preparation, execution⟩
  simp only [execute, preparation, execution]
  exact if_pos columns

/-- Without a result set the statement closes itself. -/
theorem execute_of_noColumns
    {options : Options} {query : Query} {cursor : Cursor}
    {before started after : Connection}
    (starts : driver.Starts options query before cursor started)
    (columns : driver.columns cursor = none)
    (closed : driver.close cursor started = (.ok (), after)) :
    execute driver options query before =
      (.ok { ofCursor driver options query cursor with phase := .finished },
        after) := by
  rcases starts with ⟨prepared, between, preparation, execution⟩
  have left :
      (ofCursor driver options query cursor).finish driver started = _ :=
    leave_of_active .finished rfl closed
  have noColumns :
      (ofCursor driver options query cursor).columns.isSome = false := by
    simp [ofCursor, columns]
  simp only [execute, preparation, execution, noColumns, left]
  rfl

/-! ## Reading rows -/

theorem next_of_row
    {cursor behind : Cursor} {before after : Connection} {values : List Value}
    (active : statement.phase = .active cursor)
    (fetched :
      driver.fetch cursor before = (.ok (some (values, behind)), after)) :
    statement.next driver before =
      ⟨.ok (some (statement.row values)),
        { statement with phase := .active behind }, after⟩ := by
  simp only [next, active, fetched]

theorem next_of_end
    {cursor : Cursor} {before fetched after : Connection}
    (active : statement.phase = .active cursor)
    (ended : driver.fetch cursor before = (.ok none, fetched))
    (closed : driver.close cursor fetched = (.ok (), after)) :
    statement.next driver before =
      ⟨.ok none, { statement with phase := .finished }, after⟩ := by
  have left : statement.finish driver fetched = _ :=
    leave_of_active .finished active closed
  simp only [next, active, ended, left]
  rfl

/-- One step of reading all rows. -/
theorem drain_of_some
    {before : Connection} {row : Row}
    (found : (statement.next driver before).result = .ok (some row)) :
    statement.drain driver before =
      let read := statement.next driver before
      let rest := read.statement.drain driver read.connection
      ⟨rest.result.map (row :: ·), rest.statement, rest.connection⟩ := by
  rw [drain]
  split
  · rename_i other same
    rw [found] at same
    cases same
    rfl
  · rename_i same
    rw [found] at same
    cases same
  · rename_i failure same
    rw [found] at same
    cases same

theorem drain_of_none
    {before : Connection}
    (ended : (statement.next driver before).result = .ok none) :
    statement.drain driver before =
      let read := statement.next driver before
      ⟨.ok [], read.statement, read.connection⟩ := by
  rw [drain]
  split
  · rename_i row same
    rw [ended] at same
    cases same
  · rfl
  · rename_i failure same
    rw [ended] at same
    cases same

theorem drain_of_error
    {before : Connection} {failure : Failure}
    (failed : (statement.next driver before).result = .error failure) :
    statement.drain driver before =
      let read := statement.next driver before
      ⟨.error failure, read.statement, read.connection⟩ := by
  rw [drain]
  split
  · rename_i row same
    rw [failed] at same
    cases same
  · rename_i same
    rw [failed] at same
    cases same
  · rename_i other same
    rw [failed] at same
    cases same
    rfl

theorem drain_of_fetches
    {cursor last : Cursor} {before fetched after : Connection}
    {rows : List (List Value)}
    (active : statement.phase = .active cursor)
    (fetches : driver.Fetches cursor before rows last fetched)
    (closed : driver.close last fetched = (.ok (), after)) :
    statement.drain driver before =
      ⟨.ok (rows.map statement.row), { statement with phase := .finished },
        after⟩ := by
  induction fetches generalizing statement with
  | done ended =>
      have read := next_of_end active ended closed
      rw [drain_of_none (by rw [read]), read]
      rfl
  | @row _ next _ _ _ _ _ _ found _ induction =>
      have read := next_of_row active found
      have opened :
          ({ statement with phase := .active next } : Statement Cursor).phase =
            .active next := rfl
      have others := induction opened closed
      rw [drain_of_some (by rw [read]), read]
      simp only [others]
      rfl

/-- All rows of an open statement that nobody has read. -/
theorem all_of_fetches
    {cursor last : Cursor} {before fetched after : Connection}
    {rows : List (List Value)}
    (active : statement.phase = .active cursor)
    (unclaimed : statement.claimed = false)
    (fetches : driver.Fetches cursor before rows last fetched)
    (closed : driver.close last fetched = (.ok (), after)) :
    statement.all driver before =
      ⟨.ok (rows.map statement.row),
        { statement with phase := .finished, claimed := true }, after⟩ := by
  have claimed :
      statement.claim = .ok { statement with claimed := true } := by
    simp [claim, active, unclaimed]
  simp only [all, claiming, claimed]
  have opened :
      ({ statement with claimed := true } : Statement Cursor).phase =
        .active cursor := active
  exact drain_of_fetches opened fetches closed

end Statement

end Sqlwright
