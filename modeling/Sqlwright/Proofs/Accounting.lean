import Sqlwright.Proofs.Recording
import Sqlwright.Session.Scripted

/-!
# Counters of a scripted connection

A scripted connection counts the statements that are open, the most that ever
were, and those that were closed, and it uses up its script.  `Script.Accounts`
says what the counters have to do with the calls that were made, and
`Script.accounting` is the discipline that all calls keep.

`Session.accounts_of_start` is the result for whole sessions: however the
statements are used, one at most is open, none is left open behind a visit,
and every handle was closed exactly once.
-/

namespace Sqlwright

namespace Script

/--
The counters of a connection on which `opened` statements are open beyond
those at the start, and on which some calls were made since then.
-/
structure Accounts (start : Script) (opened : Nat) (seen : Recorded Script) :
    Prop where
  opened_eq : seen.connection.opened = start.opened + opened
  maxOpened_le :
    seen.connection.maxOpened ≤ max start.maxOpened (start.opened + 1)
  closes_eq :
    seen.connection.closes + opened = start.closes + handles seen.log
  pending_eq :
    seen.connection.pending = start.pending.drop (attempts seen.log)

namespace Accounts

variable {start after : Script} {opened : Nat} {seen : Recorded Script}

theorem nil (start : Script) : Accounts start 0 ⟨start, []⟩ where
  opened_eq := rfl
  maxOpened_le := Nat.le_max_left _ _
  closes_eq := rfl
  pending_eq := rfl

/-- A call that opens nothing and closes nothing and leaves the script. -/
theorem other
    (accounts : Accounts start opened seen) {event : Event}
    (unasked : event.isAttempt = false)
    (opened_same : after.opened = seen.connection.opened)
    (maxOpened_same : after.maxOpened = seen.connection.maxOpened)
    (closes_same : after.closes = seen.connection.closes)
    (pending_same : after.pending = seen.connection.pending) :
    Accounts start opened (seen.note event after) where
  opened_eq := opened_same.trans accounts.opened_eq
  maxOpened_le := maxOpened_same ▸ accounts.maxOpened_le
  closes_eq := by
    have unprepared : event.isPrepared = false := by
      cases event <;> first | rfl | cases unasked
    simp only [Recorded.note, handles_append, unprepared, closes_same,
      accounts.closes_eq]
    rfl
  pending_eq := by
    simp only [Recorded.note, attempts_append, unasked, pending_same,
      accounts.pending_eq]
    rfl

/-- A statement that is prepared is opened, and one that is refused is not. -/
theorem prepare
    (accounts : Accounts start 0 seen) (sql : String) (handle : Nat) :
    Accounts start (Script.prepare sql seen.connection).1.toOption.toList.length
      (seen.note (.ofPrepare handle (Script.prepare sql seen.connection).1)
        (Script.prepare sql seen.connection).2) := by
  rcases accounts with ⟨opened_eq, maxOpened_le, closes_eq, pending_eq⟩
  have script :
      seen.connection.pending.tail =
        start.pending.drop (attempts seen.log + 1) := by
    rw [pending_eq, List.tail_drop]
  unfold Script.prepare
  dsimp only
  split
  · constructor
    · exact opened_eq
    · exact maxOpened_le
    · rw [Recorded.note, handles_append]
      exact closes_eq
    · rw [Recorded.note, attempts_append]
      exact script
  · constructor
    · exact congrArg (· + 1) opened_eq
    · simp only [Recorded.note, opening, called, opened_eq]
      omega
    · rw [Recorded.note, handles_append, ← Nat.add_assoc, ← closes_eq]
      rfl
    · rw [Recorded.note, attempts_append]
      exact script

/-- A statement that is closed is not open any more, even if closing fails. -/
theorem close
    (accounts : Accounts start 1 seen) (cursor : Cursor) (handle : Nat) :
    Accounts start 0
      (seen.note (.closed handle) (Script.close cursor seen.connection).2) := by
  rcases accounts with ⟨opened_eq, maxOpened_le, closes_eq, pending_eq⟩
  have left :
      (Script.close cursor seen.connection).2 =
        { seen.connection.called with
          opened := seen.connection.opened - 1
          closes := seen.connection.closes + 1 } := by
    unfold Script.close
    dsimp only
    split <;> rfl
  rw [left]
  constructor
  · simp only [Recorded.note, opened_eq]
    omega
  · exact maxOpened_le
  · rw [Recorded.note, handles_append]
    exact closes_eq
  · rw [Recorded.note, attempts_append]
    exact pending_eq

end Accounts

theorem connection_execute
    (cursor : Cursor) (params : List Value) (script : Script) :
    (execute cursor params script).2 =
      { script.called with
        executed := script.executed ++ [⟨cursor.sql, params⟩] } := by
  unfold execute
  dsimp only
  split <;> rfl

theorem connection_fetch (cursor : Cursor) (script : Script) :
    (fetch cursor script).2 = script.called := by
  unfold fetch
  dsimp only
  split
  · split <;> rfl
  · rfl

theorem connection_transact (transaction : Transaction) (script : Script) :
    ∃ transactions,
      (transact transaction script).2 =
        { script.called with transactions := transactions } := by
  unfold transact
  split
  · exact ⟨_, rfl⟩
  · exact ⟨_, rfl⟩

/-- All calls keep the counters of a scripted connection right. -/
def accounting (start : Script) : driver.recorded.Discipline where
  holds handle? seen := Accounts start handle?.toList.length seen
  fetch handle before held := by
    apply held.other rfl <;>
    rw [show (driver.fetch handle.2 before.connection).2 = _ from
      connection_fetch handle.2 before.connection] <;>
    rfl
  close handle before held := held.close handle.2 handle.1
  prepare sql before held := by
    have prepared := held.prepare sql (handles before.log)
    simp only [Driver.recorded, driver]
    rcases answered : Script.prepare sql before.connection with ⟨_ | _, _⟩ <;>
    · rw [answered] at prepared
      exact prepared
  execute handle params before held := by
    apply held.other rfl <;>
    rw [show (driver.execute handle.2 params before.connection).2 = _ from
      connection_execute handle.2 params before.connection] <;>
    rfl
  transact transaction before held := by
    rcases connection_transact transaction before.connection with
      ⟨transactions, left⟩
    apply held.other rfl <;>
    rw [show (driver.transact transaction before.connection).2 = _ from
      left] <;>
    rfl

end Script

namespace Session

theorem accounts_afterVisits
    {session : Session Script Script.Cursor}
    (overScript : session.driver = Script.driver) (script : Script)
    (visits : List Visit) :
    Script.Accounts script 0
      (session.recorded.afterVisits ⟨script, []⟩ visits) := by
  rcases session with ⟨driver, dialect, valid⟩
  cases overScript
  exact
    holds_none_afterVisits (Session.recorded ⟨Script.driver, dialect, valid⟩)
      (Script.accounting script) visits (Script.Accounts.nil script)

theorem accounts_insertRows
    {session : Session Script Script.Cursor}
    (overScript : session.driver = Script.driver) (script : Script)
    (table : String) (rows : List Assignments) :
    Script.Accounts script 0
      (session.recorded.insertRows table rows ⟨script, []⟩).2 := by
  rcases session with ⟨driver, dialect, valid⟩
  cases overScript
  exact
    holds_none_insertRows (Session.recorded ⟨Script.driver, dialect, valid⟩)
      (Script.accounting script) table rows (Script.Accounts.nil script)

/--
Over a script, whatever it answers and whatever is done with the statements:
at most one statement is open at a time and none behind a visit, and each one
that was prepared was closed exactly once.
-/
theorem accounts_of_start
    {dialect : Dialect} {script started : Script}
    {session : Session Script Script.Cursor}
    (opening : start Script.driver dialect script = .ok (session, started))
    (idle : script.opened = 0) (single : script.maxOpened ≤ 1)
    (visits : List Visit) :
    let seen := session.recorded.afterVisits ⟨started, []⟩ visits
    seen.connection = session.afterVisits started visits ∧
      seen.connection.maxOpened ≤ 1 ∧
      seen.connection.opened = 0 ∧
      seen.connection.closes = script.closes + handles seen.log ∧
      (∀ handle,
        seen.log.count (.closed handle) =
          if handle < handles seen.log then 1 else 0) ∧
      ∀ front, front <+: seen.log → ∃ opened, Balanced opened front := by
  have fresh :
      session.driver = Script.driver ∧
        started.opened = script.opened ∧
        started.maxOpened = script.maxOpened ∧
        started.closes = script.closes := by
    unfold start at opening
    split at opening
    · cases opening
    · cases opening
      exact ⟨rfl, rfl, rfl, rfl⟩
  rcases fresh with ⟨overScript, opened_same, maxOpened_same, closes_same⟩
  intro seen
  have accounts : Script.Accounts started 0 seen :=
    accounts_afterVisits overScript started visits
  have throughout : Throughout none seen.log :=
    holds_none_afterVisits session.recorded session.driver.balanced visits
      Throughout.nil
  refine
    ⟨connection_afterVisits_recorded session ⟨started, []⟩ visits, ?_, ?_, ?_,
      ?_, throughout.earlier⟩
  · have bound := accounts.maxOpened_le
    omega
  · rw [accounts.opened_eq, opened_same, idle]
  · rw [← closes_same, ← accounts.closes_eq]
    rfl
  · intro handle
    rw [throughout.balanced.count_closed handle]
    simp

/-- A statement with two rows, one that is refused, and one that fails. -/
def threeStatements : Script :=
  .ofPending false
    [.plain (.succeed (.ofRows ["id"] [[.int 7], [.int 8]])),
      .plain (.failPrepare [.ofMessage "no such table"]),
      .plain (.failExecute [.ofMessage "constraint failed"])]

/-- A reader is abandoned behind the first row; the other visits fail. -/
def threeVisits : List Visit :=
  [⟨.run ⟨"SELECT id FROM t", []⟩, [.rows 1, .all]⟩,
    ⟨.run ⟨"SELECT id FROM missing", []⟩, [.close]⟩,
    ⟨.run ⟨"DELETE FROM t", []⟩, []⟩]

theorem accounts_of_start_threeVisits :
    ∃ session started,
      start Script.driver (.ofBackend .mysql) threeStatements =
          .ok (session, started) ∧
        let seen := session.recorded.afterVisits ⟨started, []⟩ threeVisits
        seen.log =
            [.prepared 0, .executed 0, .fetched 0, .closed 0, .refused,
              .prepared 1, .executed 1, .closed 1] ∧
          seen.connection.maxOpened ≤ 1 ∧
          seen.connection.opened = 0 ∧
          seen.connection.closes = handles seen.log := by
  have opening :
      start Script.driver (.ofBackend .mysql) threeStatements =
        .ok (⟨Script.driver, .ofBackend .mysql, rfl⟩,
          { threeStatements with configured := some .mysql }) := rfl
  refine ⟨_, _, opening, rfl, ?_⟩
  rcases accounts_of_start opening rfl (Nat.zero_le 1) threeVisits with
    ⟨_, bound, idle, closes, _⟩
  exact ⟨bound, idle, closes.trans (Nat.zero_add _)⟩

end Session

end Sqlwright
