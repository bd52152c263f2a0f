import Sqlwright.Proofs.Projection

/-!
# Transcribed drivers

`Driver.transcribed` makes a driver keep a transcript of its calls.  An
`Exchange` of the transcript is a call with all that the driver was given and
all that it answered, so that what a statement hands to its driver and what the
driver reports of a failure can be read off it.  A transcribed driver answers
as the driver itself does, which `Driver.transcribing` makes precise.

`firstFailure?` is the first call of a transcript that has failed, with the
records that the driver gave for it.
-/

namespace Sqlwright

variable {Connection Cursor : Type}

/-- A call that a driver got, and its answer. -/
inductive Exchange (Cursor : Type) where
  | prepare (sql : String) (answer : Except (List NativeError) Cursor)
  | execute (cursor : Cursor) (params : List Value)
      (answer : Except (List NativeError) Cursor)
  | fetch (cursor : Cursor)
      (answer : Except (List NativeError) (Option (List Value × Cursor)))
  | close (cursor : Cursor) (answer : Except (List NativeError) Unit)
  | transact (transaction : Transaction)
      (answer : Except (List NativeError) Unit)

/-- A connection, and the calls that were made on it with their answers. -/
structure Transcribed (Connection Cursor : Type) where
  connection : Connection
  exchanges : List (Exchange Cursor)

/-- The transcript with one more exchange. -/
def Transcribed.add (before : Transcribed Connection Cursor)
    (exchange : Exchange Cursor) (after : Connection) :
    Transcribed Connection Cursor :=
  ⟨after, before.exchanges ++ [exchange]⟩

namespace Driver

variable (driver : Driver Connection Cursor)

/-- A driver that keeps a transcript, and otherwise answers as it always did. -/
def transcribed : Driver (Transcribed Connection Cursor) Cursor where
  configure options before :=
    { before with connection := driver.configure options before.connection }
  prepare sql before :=
    let answered := driver.prepare sql before.connection
    (answered.1, before.add (.prepare sql answered.1) answered.2)
  execute cursor params before :=
    let answered := driver.execute cursor params before.connection
    (answered.1, before.add (.execute cursor params answered.1) answered.2)
  columns := driver.columns
  affected := driver.affected
  insertId := driver.insertId
  fetch cursor before :=
    let answered := driver.fetch cursor before.connection
    (answered.1, before.add (.fetch cursor answered.1) answered.2)
  close cursor before :=
    let answered := driver.close cursor before.connection
    (answered.1, before.add (.close cursor answered.1) answered.2)
  transact transaction before :=
    let answered := driver.transact transaction before.connection
    (answered.1, before.add (.transact transaction answered.1) answered.2)
  remaining := driver.remaining
  remaining_fetch cursor next before values found :=
    driver.remaining_fetch cursor next before.connection values found

/-- Forgetting the transcript gives the driver back. -/
def transcribing : driver.transcribed.Projection driver where
  connection := Transcribed.connection
  cursor := id
  prepare sql before := by
    rcases answered : driver.prepare sql before.connection with ⟨_ | _, _⟩ <;>
      simp only [transcribed, answered] <;> rfl
  execute cursor params before := by
    rcases answered : driver.execute cursor params before.connection with
      ⟨_ | _, _⟩ <;>
      simp only [transcribed, answered, id] <;> rfl
  columns _ := rfl
  affected _ := rfl
  insertId _ := rfl
  fetch cursor before := by
    rcases answered : driver.fetch cursor before.connection with
      ⟨_ | _ | ⟨_, _⟩, _⟩ <;>
      simp only [transcribed, answered, id] <;> rfl
  close _ _ := rfl
  transact _ _ := rfl

end Driver

/-! ## The same statement over both drivers -/

namespace Statement

theorem map_id (statement : Statement Cursor) :
    statement.map id = statement := by
  rcases statement with ⟨query, columns, affected, reportedId, phase, claimed⟩
  cases phase <;> rfl

variable (driver : Driver Connection Cursor) (statement : Statement Cursor)
  (before : Transcribed Connection Cursor)

theorem execute_transcribed (options : Options) (query : Query) :
    execute driver options query before.connection =
      ((execute driver.transcribed options query before).1,
        (execute driver.transcribed options query before).2.connection) := by
  have same := execute_map driver.transcribing before options query
  rcases executed : execute driver.transcribed options query before with
    ⟨failure | started, after⟩
  · rw [executed] at same
    exact same
  · rw [executed] at same
    exact same.trans (Prod.ext (congrArg Except.ok (map_id started)) rfl)

theorem use_transcribed (use : Use) :
    statement.use driver before.connection use =
      ⟨(statement.use driver.transcribed before use).result,
        (statement.use driver.transcribed before use).statement,
        (statement.use driver.transcribed before
          use).connection.connection⟩ := by
  have same := use_map driver.transcribing statement before use
  have cursor : driver.transcribing.cursor = id := rfl
  rw [cursor, map_id] at same
  rw [Used.project, cursor, map_id] at same
  exact same

theorem afterUses_transcribed (uses : List Use) :
    statement.afterUses driver uses before.connection =
      ((statement.afterUses driver.transcribed uses before).1,
        (statement.afterUses driver.transcribed uses before).2.connection) := by
  have same := afterUses_map driver.transcribing statement before uses
  have cursor : driver.transcribing.cursor = id := rfl
  rw [cursor, map_id] at same
  exact same.trans (Prod.ext (map_id _) rfl)

end Statement

/-! ## Failed calls -/

namespace Exchange

/-- The kind of a call that has failed, and the records of its failure. -/
def failure? : Exchange Cursor → Option (DriverCall × List NativeError)
  | prepare _ (.error errors) => some (.prepare, errors)
  | execute _ _ (.error errors) => some (.execute, errors)
  | fetch _ (.error errors) => some (.fetch, errors)
  | close _ (.error errors) => some (.close, errors)
  | transact transaction (.error errors) => some (transaction.call, errors)
  | _ => none

end Exchange

/-- The first of some calls that has failed. -/
def firstFailure? (exchanges : List (Exchange Cursor)) :
    Option (DriverCall × List NativeError) :=
  exchanges.findSome? Exchange.failure?

theorem firstFailure?_append (front back : List (Exchange Cursor)) :
    firstFailure? (front ++ back) =
      (firstFailure? front).or (firstFailure? back) := by
  simp [firstFailure?, List.findSome?_append]

end Sqlwright
