import Sqlwright.Proofs.Visiting

/-!
# Custody of cursors

A cursor is handed out when a statement is prepared, is passed from call to
call, and is given back when the statement is closed.  A `Custody` is a
property of a connection and of the cursor that is handed out, if there is
one, which the calls about a cursor keep; a `Discipline` is one that the other
calls keep as well.

Whatever is done with a statement, its custody is kept, and it ends without a
cursor when the statement is dropped.  Hence every visit of a session takes a
connection without a cursor to one without a cursor.  No property of the
driver is assumed but the one in question.
-/

namespace Sqlwright

variable {Connection Cursor : Type}

namespace Driver

/-- The cursor behind a fetch, which moves on only if there was a row. -/
def behind (cursor : Cursor) :
    Except (List NativeError) (Option (List Value × Cursor)) → Cursor
  | .ok (some (_, next)) => next
  | _ => cursor

/-- A property that the calls about a cursor keep. -/
structure Custody (driver : Driver Connection Cursor) where
  holds : Option Cursor → Connection → Prop
  fetch :
    ∀ (cursor : Cursor) (before : Connection),
      holds (some cursor) before →
        holds (some (behind cursor (driver.fetch cursor before).1))
          (driver.fetch cursor before).2
  close :
    ∀ (cursor : Cursor) (before : Connection),
      holds (some cursor) before →
        holds none (driver.close cursor before).2

/--
A property that all calls keep.  A statement that cannot be prepared has no
cursor; one that cannot be executed keeps the cursor that it was prepared with.
-/
structure Discipline (driver : Driver Connection Cursor) extends
    Custody driver where
  prepare :
    ∀ (sql : String) (before : Connection),
      holds none before →
        holds (driver.prepare sql before).1.toOption
          (driver.prepare sql before).2
  execute :
    ∀ (cursor : Cursor) (params : List Value) (before : Connection),
      holds (some cursor) before →
        holds
          (some ((driver.execute cursor params before).1.toOption.getD cursor))
          (driver.execute cursor params before).2
  transact :
    ∀ (transaction : Transaction) (before : Connection),
      holds none before → holds none (driver.transact transaction before).2

end Driver

namespace Statement

variable {driver : Driver Connection Cursor} {statement : Statement Cursor}
  {connection : Connection}

/-- The custody of the cursor of a statement. -/
def KeptBy (custody : driver.Custody) (statement : Statement Cursor)
    (connection : Connection) : Prop :=
  custody.holds statement.phase.cursor? connection

variable {custody : driver.Custody}

theorem keptBy_iff_of_active
    {cursor : Cursor} (active : statement.phase = .active cursor) :
    statement.KeptBy custody connection ↔
      custody.holds (some cursor) connection := by
  unfold KeptBy
  rw [active]
  rfl

/-- A statement without a cursor only speaks of the connection. -/
theorem keptBy_iff_of_isClosed (closed : statement.isClosed = true) :
    statement.KeptBy custody connection ↔ custody.holds none connection := by
  unfold KeptBy
  cases phase : statement.phase with
  | active cursor => exact absurd phase (isClosed_iff.1 closed cursor)
  | finished => rfl
  | closed => rfl

theorem keptBy_leave
    {next : Phase Cursor} (parted : next.cursor? = none)
    (kept : statement.KeptBy custody connection) :
    (statement.leave driver next connection).statement.KeptBy custody
      (statement.leave driver next connection).connection := by
  unfold leave
  split
  · rename_i cursor active
    have given : custody.holds none (driver.close cursor connection).2 :=
      custody.close cursor connection ((keptBy_iff_of_active active).1 kept)
    split <;>
    · rename_i closed
      rw [closed] at given
      simpa [KeptBy, parted] using given
  · exact kept

theorem keptBy_finish (kept : statement.KeptBy custody connection) :
    (statement.finish driver connection).statement.KeptBy custody
      (statement.finish driver connection).connection :=
  keptBy_leave rfl kept

theorem keptBy_close (kept : statement.KeptBy custody connection) :
    (statement.close driver connection).statement.KeptBy custody
      (statement.close driver connection).connection := by
  unfold close
  split
  · exact kept
  · exact keptBy_leave rfl kept

/-- A dropped statement leaves no cursor behind. -/
theorem holds_none_drop (kept : statement.KeptBy custody connection) :
    custody.holds none (statement.drop driver connection) :=
  (keptBy_iff_of_isClosed (isClosed_finish connection)).1 (keptBy_finish kept)

theorem keptBy_next (kept : statement.KeptBy custody connection) :
    (statement.next driver connection).statement.KeptBy custody
      (statement.next driver connection).connection := by
  unfold next
  split
  · rename_i cursor active
    have moved :
        custody.holds
          (some (Driver.behind cursor (driver.fetch cursor connection).1))
          (driver.fetch cursor connection).2 :=
      custody.fetch cursor connection ((keptBy_iff_of_active active).1 kept)
    split
    · rename_i values behind after fetched
      rw [fetched] at moved
      exact moved
    · rename_i after fetched
      rw [fetched] at moved
      exact keptBy_finish ((keptBy_iff_of_active active).2 moved)
    · rename_i errors after fetched
      rw [fetched] at moved
      exact keptBy_finish ((keptBy_iff_of_active active).2 moved)
  · exact kept

theorem keptBy_drain (kept : statement.KeptBy custody connection) :
    (statement.drain driver connection).statement.KeptBy custody
      (statement.drain driver connection).connection := by
  fun_induction drain driver statement connection with
  | case1 statement connection row found rest induction =>
      exact induction (keptBy_next kept)
  | case2 => exact keptBy_next kept
  | case3 => exact keptBy_next kept

theorem keptBy_read
    (count : Nat) (kept : statement.KeptBy custody connection) :
    (statement.read driver count connection).statement.KeptBy custody
      (statement.read driver count connection).connection := by
  induction count generalizing statement connection with
  | zero => exact kept
  | succ count induction => exact induction (keptBy_next kept)

/-- A reader that keeps custody does so also after it asked for the rows. -/
theorem keptBy_claiming
    {Result : Type} {read : Statement Cursor → Used Connection Cursor Result}
    (reads :
      ∀ claimed : Statement Cursor,
        claimed.KeptBy custody connection →
          (read claimed).statement.KeptBy custody (read claimed).connection)
    (kept : statement.KeptBy custody connection) :
    (statement.claiming connection read).statement.KeptBy custody
      (statement.claiming connection read).connection := by
  unfold claiming claim
  split
  · rename_i claimed granted
    split at granted
    · cases granted
    · split at granted
      · cases granted
      · cases granted
        exact reads _ kept
  · exact kept

theorem keptBy_all (kept : statement.KeptBy custody connection) :
    (statement.all driver connection).statement.KeptBy custody
      (statement.all driver connection).connection :=
  keptBy_claiming (fun _ => keptBy_drain) kept

theorem keptBy_first (kept : statement.KeptBy custody connection) :
    (statement.first driver connection).statement.KeptBy custody
      (statement.first driver connection).connection := by
  refine keptBy_claiming (fun claimed held => ?_) kept
  have read := keptBy_next held
  dsimp only
  split
  · exact read
  · exact keptBy_finish read

theorem keptBy_use
    (use : Use) (kept : statement.KeptBy custody connection) :
    (statement.use driver connection use).statement.KeptBy custody
      (statement.use driver connection use).connection := by
  cases use with
  | rows count => exact keptBy_claiming (fun _ => keptBy_read count) kept
  | all => exact keptBy_all kept
  | first => exact keptBy_first kept
  | close => exact keptBy_close kept

theorem keptBy_afterUses
    (uses : List Use) (kept : statement.KeptBy custody connection) :
    (statement.afterUses driver uses connection).1.KeptBy custody
      (statement.afterUses driver uses connection).2 := by
  induction uses generalizing statement connection with
  | nil => exact kept
  | cons use uses induction => exact induction (keptBy_use use kept)

/--
An attempt to execute a query leaves the custody of the statement's cursor if
it succeeds, and no cursor if it fails.
-/
def StartedUnder (custody : driver.Custody)
    (started : Except Failure (Statement Cursor) × Connection) : Prop :=
  match started.1 with
  | .ok statement => statement.KeptBy custody started.2
  | .error _ => custody.holds none started.2

theorem startedUnder_execute
    {discipline : driver.Discipline} (options : Options) (query : Query)
    (idle : discipline.holds none connection) :
    StartedUnder discipline.toCustody
      (execute driver options query connection) := by
  have prepared := discipline.prepare query.sql connection idle
  unfold execute
  split
  · rename_i errors after preparation
    rw [preparation] at prepared
    exact prepared
  · rename_i cursor between preparation
    rw [preparation] at prepared
    have bound :=
      discipline.execute cursor (boundValues options query.params) between
        prepared
    split
    · rename_i errors after execution
      rw [execution] at bound
      exact discipline.close cursor after bound
    · rename_i executed after execution
      rw [execution] at bound
      have opened :
          (ofCursor driver options query executed).KeptBy
            discipline.toCustody after := bound
      dsimp only
      split
      · exact opened
      · have finished := keptBy_finish opened
        cases result :
            ((ofCursor driver options query executed).finish driver
              after).result with
        | ok => exact finished
        | error failure =>
            exact
              (keptBy_iff_of_isClosed (isClosed_finish after)).1 finished

end Statement

namespace Session

variable {session : Session Connection Cursor}
  {discipline : session.driver.Discipline} {connection : Connection}

theorem startedUnder_runWritten
    (written : Except Failure Query)
    (idle : discipline.holds none connection) :
    Statement.StartedUnder discipline.toCustody
      (session.runWritten written connection) := by
  cases written with
  | error failure => exact idle
  | ok query =>
      exact Statement.startedUnder_execute session.dialect.options query idle

theorem holds_none_count
    (written : Except Failure Query)
    (idle : discipline.holds none connection) :
    discipline.holds none (session.count written connection).2 := by
  have kept := startedUnder_runWritten written idle
  unfold count
  split
  · rename_i statement after ran
    rw [ran] at kept
    exact Statement.holds_none_drop kept
  · rename_i failure after ran
    rw [ran] at kept
    exact kept

theorem keptBy_readBatch
    {custody : session.driver.Custody} {statement : Statement Cursor}
    (retrieval : IdRetrieval) (rowCount : Nat)
    (kept : statement.KeptBy custody connection) :
    (session.readBatch retrieval rowCount statement connection).statement.KeptBy
      custody
      (session.readBatch retrieval rowCount statement
        connection).connection := by
  unfold readBatch
  split
  · exact Statement.keptBy_all kept
  · exact kept

theorem holds_none_insertBatch
    (retrieval : IdRetrieval) (batch : Batch)
    (idle : discipline.holds none connection) :
    discipline.holds none
      (session.insertBatch retrieval batch connection).2 := by
  have kept :
      Statement.StartedUnder discipline.toCustody
        (session.run batch.query connection) :=
    Statement.startedUnder_execute session.dialect.options batch.query idle
  unfold insertBatch
  split
  · rename_i failure after ran
    rw [ran] at kept
    exact kept
  · rename_i statement started ran
    rw [ran] at kept
    have read := keptBy_readBatch retrieval batch.rowCount kept
    dsimp only
    split
    · exact Statement.holds_none_drop read
    · rename_i found result
      exact
        (Statement.keptBy_iff_of_isClosed
          (Statement.isClosed_close _)).1 (Statement.keptBy_close read)

theorem holds_none_insertBatches
    (retrieval : IdRetrieval) (batches : List Batch)
    (idle : discipline.holds none connection) :
    discipline.holds none
      (session.insertBatches retrieval batches connection).2 := by
  induction batches generalizing connection with
  | nil => exact idle
  | cons batch batches induction =>
      have first := holds_none_insertBatch retrieval batch idle
      unfold insertBatches
      split
      · rename_i failure after inserted
        rw [inserted] at first
        exact first
      · rename_i ids affected after inserted
        rw [inserted] at first
        have others := induction first
        split
        · rename_i failure final rest
          rw [rest] at others
          exact others
        · rename_i moreIds more final rest
          rw [rest] at others
          exact others

theorem holds_none_insertRows
    (session : Session Connection Cursor)
    (discipline : session.driver.Discipline) (table : String)
    (rows : List Assignments) (idle : discipline.holds none connection) :
    discipline.holds none (session.insertRows table rows connection).2 := by
  unfold insertRows
  split
  · exact idle
  · rename_i plan planned
    have inserted :=
      holds_none_insertBatches plan.retrieval plan.batches idle
    split
    · rename_i failure after ran
      rw [ran] at inserted
      exact inserted
    · rename_i ids affected after ran
      rw [ran] at inserted
      exact inserted

theorem holds_none_insertRow
    (table : String) (row : Assignments)
    (idle : discipline.holds none connection) :
    discipline.holds none (session.insertRow table row connection).2 := by
  have inserted := holds_none_insertRows session discipline table [row] idle
  unfold insertRow
  split
  · rename_i bulk after ran
    rw [ran] at inserted
    exact inserted
  · rename_i failure after ran
    rw [ran] at inserted
    exact inserted

theorem holds_none_transact
    (transaction : Transaction) (idle : discipline.holds none connection) :
    discipline.holds none (session.transact transaction connection).2 := by
  have answered := discipline.transact transaction connection idle
  unfold transact
  split
  · rename_i after ran
    rw [ran] at answered
    exact answered
  · rename_i errors after ran
    rw [ran] at answered
    exact answered

/-- The custody behind an answer, which may have a cursor in a statement. -/
def AnsweredUnder
    {driver : Driver Connection Cursor} (custody : driver.Custody)
    (answered : Except Failure (Reply Cursor) × Connection) : Prop :=
  match answered.1 with
  | .ok (.statement statement) => statement.KeptBy custody answered.2
  | _ => custody.holds none answered.2

theorem answeredUnder_of_startedUnder
    {driver : Driver Connection Cursor} {custody : driver.Custody}
    {started : Except Failure (Statement Cursor) × Connection}
    (kept : Statement.StartedUnder custody started) :
    AnsweredUnder custody (replyWith .statement started) := by
  rcases started with ⟨_ | statement, after⟩ <;> exact kept

/-- An answer without a statement only speaks of the connection. -/
theorem answeredUnder_of_holds_none
    {driver : Driver Connection Cursor} {custody : driver.Custody}
    {Result : Type} {wrap : Result → Reply Cursor}
    {answered : Except Failure Result × Connection}
    (plain : ∀ result statement, wrap result ≠ .statement statement)
    (idle : custody.holds none answered.2) :
    AnsweredUnder custody (replyWith wrap answered) := by
  rcases answered with ⟨_ | result, after⟩
  · exact idle
  · cases wrapped : wrap result with
    | statement statement => exact absurd wrapped (plain result statement)
    | bulk | single | count | done =>
        simpa [AnsweredUnder, replyWith, Except.map, wrapped] using idle

theorem answeredUnder_perform
    (call : Call) (idle : discipline.holds none connection) :
    AnsweredUnder discipline.toCustody (session.perform connection call) := by
  cases call with
  | run query =>
      exact
        answeredUnder_of_startedUnder
          (startedUnder_runWritten (.ok query) idle)
  | select selection =>
      exact answeredUnder_of_startedUnder (startedUnder_runWritten _ idle)
  | selectFrom sql filter =>
      exact answeredUnder_of_startedUnder (startedUnder_runWritten _ idle)
  | insertRows table rows =>
      exact
        answeredUnder_of_holds_none (by simp)
          (holds_none_insertRows session discipline table rows idle)
  | insertRow table row =>
      exact
        answeredUnder_of_holds_none (by simp)
          (holds_none_insertRow table row idle)
  | updateRows table assignments filter =>
      exact answeredUnder_of_holds_none (by simp) (holds_none_count _ idle)
  | deleteFrom table filter =>
      exact answeredUnder_of_holds_none (by simp) (holds_none_count _ idle)
  | transact transaction =>
      exact
        answeredUnder_of_holds_none (by simp)
          (holds_none_transact transaction idle)

/-- A visit ends without a cursor, whatever the call and its statement give. -/
theorem holds_none_afterVisit
    (visit : Visit) (idle : discipline.holds none connection) :
    discipline.holds none (session.afterVisit connection visit) := by
  have answered := answeredUnder_perform visit.call idle
  unfold afterVisit
  generalize session.perform connection visit.call = reply at answered
  rcases reply with ⟨failure | reply, after⟩
  · exact answered
  · cases reply with
    | statement statement =>
        exact
          Statement.holds_none_drop
            (Statement.keptBy_afterUses visit.uses answered)
    | bulk | single | count | done => exact answered

theorem holds_none_afterVisits
    (session : Session Connection Cursor)
    (discipline : session.driver.Discipline) (visits : List Visit)
    (idle : discipline.holds none connection) :
    discipline.holds none (session.afterVisits connection visits) := by
  induction visits generalizing connection with
  | nil => exact idle
  | cons visit visits induction =>
      exact induction (holds_none_afterVisit visit idle)

end Session

end Sqlwright
