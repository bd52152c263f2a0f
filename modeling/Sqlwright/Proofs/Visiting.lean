import Sqlwright.Session.Basic

/-!
# Visits of a session

A visit is one call of a session, and what is done with the statement that the
call may give: any uses one after another, and then it is dropped.  A
`Statement.Use` asks for a reader and takes some steps with it, reads all rows
or the first one, or closes the statement.  Uses go on after a failure, and
steps go on behind the end of the rows, as nothing keeps a caller from it.

`rows_eq_use` says that `Statement.rows`, which stops at the end, shows the
steps of such a use up to the first one without a row.
-/

namespace Sqlwright

variable {Connection Cursor : Type}

/-- A change of what came out of a use. -/
def Used.map {First Second : Type} (change : First → Second)
    (used : Used Connection Cursor First) : Used Connection Cursor Second :=
  ⟨used.result.map change, used.statement, used.connection⟩

/-- The cursor of a phase, which only an active statement has. -/
def Phase.cursor? : Phase Cursor → Option Cursor
  | active cursor => some cursor
  | _ => none

namespace Statement

/-! ## Steps of a reader -/

/-- The outcomes of some steps of a reader, and what the steps leave behind. -/
structure Reading (Connection Cursor : Type) where
  outcomes : List (Except Failure (Option Row))
  statement : Statement Cursor
  connection : Connection

/-- A number of steps of a reader, also behind the end of the rows. -/
def read (driver : Driver Connection Cursor) : Nat → Statement Cursor →
    Connection → Reading Connection Cursor
  | 0, statement, connection => ⟨[], statement, connection⟩
  | count + 1, statement, connection =>
      let step := statement.next driver connection
      let rest := read driver count step.statement step.connection
      ⟨step.result :: rest.outcomes, rest.statement, rest.connection⟩

/-- The outcomes up to the first one without a row. -/
def untilEnd : List (Except Failure (Option Row)) →
    List (Except Failure (Option Row))
  | [] => []
  | .ok none :: _ => [.ok none]
  | outcome :: outcomes => outcome :: untilEnd outcomes

variable {driver : Driver Connection Cursor} {statement : Statement Cursor}

theorem isClosed_iff :
    statement.isClosed = true ↔ ∀ cursor, statement.phase ≠ .active cursor := by
  cases phase : statement.phase <;> simp [isClosed, phase]

/-- A statement without a cursor gives nothing and asks for nothing. -/
theorem next_of_isClosed
    (closed : statement.isClosed = true) (connection : Connection) :
    statement.next driver connection = ⟨.ok none, statement, connection⟩ := by
  unfold next
  split
  · rename_i cursor active
    exact absurd active (isClosed_iff.1 closed cursor)
  · rfl

theorem length_outcomes_read
    (count : Nat) (statement : Statement Cursor) (connection : Connection) :
    (statement.read driver count connection).outcomes.length = count := by
  induction count generalizing statement connection with
  | zero => rfl
  | succ count induction =>
      simp only [read, List.length_cons, induction]

theorem read_of_isClosed
    (closed : statement.isClosed = true) (count : Nat)
    (connection : Connection) :
    statement.read driver count connection =
      ⟨List.replicate count (.ok none), statement, connection⟩ := by
  induction count with
  | zero => rfl
  | succ count induction =>
      simp only [read, next_of_isClosed closed, induction, List.replicate_succ]

theorem isClosed_leave
    {next : Phase Cursor} (parted : next.cursor? = none)
    (connection : Connection) :
    (statement.leave driver next connection).statement.isClosed = true := by
  have left :
      ({ statement with phase := next } : Statement Cursor).isClosed := by
    cases next with
    | active cursor => cases parted
    | finished => rfl
    | closed => rfl
  unfold leave
  split
  · split
    · exact left
    · exact left
  · rename_i inactive
    exact isClosed_iff.2 inactive

theorem isClosed_finish (connection : Connection) :
    (statement.finish driver connection).statement.isClosed = true :=
  isClosed_leave rfl connection

theorem isClosed_close (connection : Connection) :
    (statement.close driver connection).statement.isClosed = true := by
  unfold close
  split
  · rename_i closed
    simp [isClosed, closed]
  · exact isClosed_leave rfl connection

/-- Only a row keeps a statement open. -/
theorem isClosed_next
    {connection : Connection}
    (ended :
      ∀ row, (statement.next driver connection).result ≠ .ok (some row)) :
    (statement.next driver connection).statement.isClosed = true := by
  unfold next at ended ⊢
  split
  · rename_i cursor active
    split
    · rename_i values behind after fetched
      simp only [active, fetched] at ended
      exact absurd rfl (ended _)
    · exact isClosed_finish _
    · exact isClosed_finish _
  · rename_i inactive
    exact isClosed_iff.2 inactive

/-- A reader that stops at the end does what one does that goes on. -/
theorem steps_eq_read (count : Nat) (connection : Connection) :
    statement.steps driver count connection =
      let reading := statement.read driver count connection
      ⟨.ok (untilEnd reading.outcomes), reading.statement,
        reading.connection⟩ := by
  induction count generalizing statement connection with
  | zero => rfl
  | succ count induction =>
      simp only [steps, read, induction]
      split
      · rename_i ended
        have closed :
            (statement.next driver connection).statement.isClosed = true :=
          isClosed_next (by simp [ended])
        simp only [read_of_isClosed closed, ended, untilEnd]
      · rename_i row
        rw [untilEnd]
        · rfl
        · exact row

/-! ## Uses -/

/-- What a caller can do with a statement. -/
inductive Use where
  /-- Ask for a reader, and take a number of steps with it. -/
  | rows (steps : Nat)
  | all
  | first
  | close
  deriving DecidableEq

/-- Whether a use reads rows, if it is granted. -/
def Use.reads : Use → Bool
  | close => false
  | _ => true

/-- What a use gives if it is granted. -/
inductive Taken where
  | steps (outcomes : List (Except Failure (Option Row)))
  | all (rows : List Row)
  | first (row : Option Row)
  | closed

/-- The row of one step of a reader, if it gave one. -/
def rowOf? : Except Failure (Option Row) → Option Row
  | .ok row => row
  | .error _ => none

/-- The rows among what a use has given, in order. -/
def Taken.rows : Taken → List Row
  | steps outcomes => outcomes.filterMap rowOf?
  | all rows => rows
  | first row => row.toList
  | closed => []

/-- Use a statement once. -/
def use (driver : Driver Connection Cursor) (statement : Statement Cursor)
    (connection : Connection) : Use → Used Connection Cursor Taken
  | .rows count =>
      statement.claiming connection fun claimed =>
        let reading := claimed.read driver count connection
        ⟨.ok (.steps reading.outcomes), reading.statement, reading.connection⟩
  | .all => (statement.all driver connection).map .all
  | .first => (statement.first driver connection).map .first
  | .close => (statement.close driver connection).map fun _ => .closed

/-- The rows of a use; a use that fails gives none. -/
def rowsOf (used : Used Connection Cursor Taken) : List Row :=
  match used.result with
  | .ok taken => taken.rows
  | .error _ => []

/-- A statement and its connection after some uses, whatever comes out. -/
def afterUses (driver : Driver Connection Cursor) (uses : List Use)
    (statement : Statement Cursor) (connection : Connection) :
    Statement Cursor × Connection :=
  uses.foldl
    (fun state use =>
      let used := state.1.use driver state.2 use
      (used.statement, used.connection))
    (statement, connection)

/-- The rows that some uses give, one use after another. -/
def delivered (driver : Driver Connection Cursor) : List Use →
    Statement Cursor → Connection → List Row
  | [], _, _ => []
  | use :: uses, statement, connection =>
      let used := statement.use driver connection use
      rowsOf used ++ delivered driver uses used.statement used.connection

@[simp]
theorem afterUses_nil (connection : Connection) :
    statement.afterUses driver [] connection = (statement, connection) := rfl

/-- A reader with a number of steps stops at the end of the rows. -/
theorem rows_eq_use (count : Nat) (connection : Connection) :
    (statement.rows driver (some count) connection).map
        (fun outcomes => Taken.steps outcomes) =
      let used := statement.use driver connection (.rows count)
      ⟨used.result.map fun
          | .steps outcomes => .steps (untilEnd outcomes)
          | taken => taken,
        used.statement, used.connection⟩ := by
  simp only [rows, use, claiming]
  split
  · rw [Option.getD_some, steps_eq_read]
    rfl
  · rfl

end Statement

/-! ## Calls -/

namespace Session

/-- What a session can be asked for. -/
inductive Call where
  | run (query : Query)
  | select (selection : Selection)
  | selectFrom (sql : String) (filter : Filter)
  | insertRows (table : String) (rows : List Assignments)
  | insertRow (table : String) (row : Assignments)
  | updateRows (table : String) (assignments : Assignments) (filter : Filter)
  | deleteFrom (table : String) (filter : Filter)
  | transact (transaction : Transaction)

/-- What a session answers. -/
inductive Reply (Cursor : Type) where
  | statement (statement : Statement Cursor)
  | bulk (inserted : BulkInsert)
  | single (inserted : SingleInsert)
  | count (affected : Int)
  | done

/-- A result as a reply. -/
def replyWith {Result : Type} (wrap : Result → Reply Cursor)
    (answered : Except Failure Result × Connection) :
    Except Failure (Reply Cursor) × Connection :=
  (answered.1.map wrap, answered.2)

/-- Make a call of a session. -/
def perform (session : Session Connection Cursor) (connection : Connection) :
    Call → Except Failure (Reply Cursor) × Connection
  | .run query => replyWith .statement (session.run query connection)
  | .select selection =>
      replyWith .statement (session.select selection connection)
  | .selectFrom sql filter =>
      replyWith .statement (session.selectFrom sql filter connection)
  | .insertRows table rows =>
      replyWith .bulk (session.insertRows table rows connection)
  | .insertRow table row =>
      replyWith .single (session.insertRow table row connection)
  | .updateRows table assignments filter =>
      replyWith .count (session.updateRows table assignments filter connection)
  | .deleteFrom table filter =>
      replyWith .count (session.deleteFrom table filter connection)
  | .transact transaction =>
      replyWith (fun _ => .done) (session.transact transaction connection)

/-- A call, and the uses of the statement that it may give. -/
structure Visit where
  call : Call
  uses : List Statement.Use

/-- The connection after a reply; a statement is used and then dropped. -/
def afterReply (driver : Driver Connection Cursor)
    (uses : List Statement.Use) (connection : Connection) :
    Except Failure (Reply Cursor) → Connection
  | .ok (.statement statement) =>
      let left := statement.afterUses driver uses connection
      left.1.drop driver left.2
  | _ => connection

/-- The connection after a visit. -/
def afterVisit (session : Session Connection Cursor) (connection : Connection)
    (visit : Visit) : Connection :=
  let answered := session.perform connection visit.call
  afterReply session.driver visit.uses answered.2 answered.1

/-- The connection after some visits. -/
def afterVisits (session : Session Connection Cursor) (connection : Connection)
    (visits : List Visit) : Connection :=
  visits.foldl session.afterVisit connection

end Session

end Sqlwright
