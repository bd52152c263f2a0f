import Sqlwright.Proofs.Custody
import Sqlwright.Proofs.Delivery
import Sqlwright.Proofs.Projection

/-!
# Recorded drivers

`Driver.recorded` makes a driver note every call that it gets.  Handles are
numbered in the order in which they are prepared, and the number stays with
the handle, so a note says which handle a call was about.  A recorded driver
answers as the driver itself does, which `Driver.recording` makes precise.

The main result, `Driver.balanced`, is a discipline of every driver: behind
each call only the handle that was prepared last can be open, and each other
one has been closed exactly once.
-/

namespace Sqlwright

variable {Connection Cursor : Type}

/-- A call that a driver got, with the number of the handle it was about. -/
inductive Event where
  /-- A statement could not be prepared. -/
  | refused
  | prepared (handle : Nat)
  | executed (handle : Nat)
  | fetched (handle : Nat)
  | closed (handle : Nat)
  | transacted
  deriving DecidableEq

namespace Event

/-- Whether an event has made a handle. -/
def isPrepared : Event → Bool
  | prepared _ => true
  | _ => false

/-- Whether a call asked for a statement, whatever came out. -/
def isAttempt : Event → Bool
  | refused => true
  | event => event.isPrepared

/-- The note of an attempt to prepare a statement. -/
def ofPrepare (handle : Nat) : Except (List NativeError) Cursor → Event
  | .ok _ => prepared handle
  | .error _ => refused

end Event

/-- The number of handles that were prepared. -/
def handles (log : List Event) : Nat :=
  log.countP Event.isPrepared

/-- The number of statements that were asked for. -/
def attempts (log : List Event) : Nat :=
  log.countP Event.isAttempt

/-- A connection, and the calls that were made on it. -/
structure Recorded (Connection : Type) where
  connection : Connection
  log : List Event

/-- The record with one more event. -/
def Recorded.note (before : Recorded Connection) (event : Event)
    (after : Connection) : Recorded Connection :=
  ⟨after, before.log ++ [event]⟩

namespace Driver

variable (driver : Driver Connection Cursor)

/-- A driver that notes every call, and otherwise answers as it always did. -/
def recorded : Driver (Recorded Connection) (Nat × Cursor) where
  configure options before :=
    { before with connection := driver.configure options before.connection }
  prepare sql before :=
    let answered := driver.prepare sql before.connection
    let number := handles before.log
    (answered.1.map (Prod.mk number),
      before.note (.ofPrepare number answered.1) answered.2)
  execute handle params before :=
    let answered := driver.execute handle.2 params before.connection
    (answered.1.map (Prod.mk handle.1),
      before.note (.executed handle.1) answered.2)
  columns handle := driver.columns handle.2
  affected handle := driver.affected handle.2
  insertId handle := driver.insertId handle.2
  fetch handle before :=
    let answered := driver.fetch handle.2 before.connection
    (answered.1.map (Option.map (Prod.map id (Prod.mk handle.1))),
      before.note (.fetched handle.1) answered.2)
  close handle before :=
    let answered := driver.close handle.2 before.connection
    (answered.1, before.note (.closed handle.1) answered.2)
  transact transaction before :=
    let answered := driver.transact transaction before.connection
    (answered.1, before.note .transacted answered.2)
  remaining handle := driver.remaining handle.2
  remaining_fetch handle next before values found := by
    rcases fetched : driver.fetch handle.2 before.connection with
      ⟨_ | _ | ⟨other, behind⟩, after⟩ <;>
    simp only [fetched, Except.map, Option.map, Prod.map, id] at found
    · cases found
    · cases found
    · cases found
      exact
        driver.remaining_fetch handle.2 behind before.connection values
          (by rw [fetched])

/-- Forgetting the notes and the numbers gives the driver back. -/
def recording : driver.recorded.Projection driver where
  connection := Recorded.connection
  cursor := Prod.snd
  prepare sql before := by
    rcases answered : driver.prepare sql before.connection with ⟨_ | _, _⟩ <;>
      simp only [recorded, answered] <;> rfl
  execute handle params before := by
    rcases answered : driver.execute handle.2 params before.connection with
      ⟨_ | _, _⟩ <;>
      simp only [recorded, answered] <;> rfl
  columns _ := rfl
  affected _ := rfl
  insertId _ := rfl
  fetch handle before := by
    rcases answered : driver.fetch handle.2 before.connection with
      ⟨_ | _ | ⟨_, _⟩, _⟩ <;>
      simp only [recorded, answered] <;> rfl
  close _ _ := rfl
  transact _ _ := rfl

end Driver

/-! ## What a recorded call leaves behind -/

namespace Driver

variable {driver : Driver Connection Cursor} (handle : Nat × Cursor)
  (before : Recorded Connection)

/-- A handle keeps its number when a row is fetched. -/
theorem number_behind :
    (behind handle (driver.recorded.fetch handle before).1).1 = handle.1 := by
  rcases answered : driver.fetch handle.2 before.connection with
    ⟨_ | _ | ⟨_, _⟩, _⟩ <;>
    simp only [recorded, answered] <;> rfl

/-- A handle keeps its number when its statement is executed. -/
theorem number_executed (params : List Value) :
    ((driver.recorded.execute handle params before).1.toOption.getD handle).1 =
      handle.1 := by
  rcases answered : driver.execute handle.2 params before.connection with
    ⟨_ | _, _⟩ <;>
    simp only [recorded, answered] <;> rfl

variable {handle before}

/-- A prepared statement gets the next number, which is noted. -/
theorem recorded_prepare_ok
    {sql : String} {after : Recorded Connection}
    (prepared : driver.recorded.prepare sql before = (.ok handle, after)) :
    handle.1 = handles before.log ∧
      after.log = before.log ++ [.prepared (handles before.log)] := by
  simp only [recorded] at prepared
  rcases answered : driver.prepare sql before.connection with
    ⟨_ | cursor, between⟩ <;>
  rw [answered] at prepared <;>
  cases prepared
  exact ⟨rfl, rfl⟩

/-- An executed statement keeps its number, which is noted. -/
theorem recorded_execute_ok
    {params : List Value} {next : Nat × Cursor}
    {after : Recorded Connection}
    (executed :
      driver.recorded.execute handle params before = (.ok next, after)) :
    next.1 = handle.1 ∧ after.log = before.log ++ [.executed handle.1] := by
  simp only [recorded] at executed
  rcases answered : driver.execute handle.2 params before.connection with
    ⟨_ | cursor, between⟩ <;>
  rw [answered] at executed <;>
  cases executed
  exact ⟨rfl, rfl⟩

end Driver

namespace Session

/-- A session that notes every call to its driver. -/
def recorded (session : Session Connection Cursor) :
    Session (Recorded Connection) (Nat × Cursor) :=
  session.onDriver session.driver.recorded

/-- A session answers in the same way when its calls are noted. -/
def recording (session : Session Connection Cursor) :
    session.recorded.driver.Projection session.driver :=
  session.driver.recording

theorem connection_afterVisits_recorded
    (session : Session Connection Cursor) (before : Recorded Connection)
    (visits : List Visit) :
    (session.recorded.afterVisits before visits).connection =
      session.afterVisits before.connection visits :=
  (afterVisits_map session.recording before visits).symm

end Session

/-! ## Handles and their ends -/

@[simp]
theorem handles_append (log : List Event) (event : Event) :
    handles (log ++ [event]) =
      handles log + if event.isPrepared then 1 else 0 := by
  simp [handles, List.countP_append, List.countP_singleton]

@[simp]
theorem attempts_append (log : List Event) (event : Event) :
    attempts (log ++ [event]) =
      attempts log + if event.isAttempt then 1 else 0 := by
  simp [attempts, List.countP_append, List.countP_singleton]

/--
Every handle was closed once, but for the one that is open, if there is one;
it was prepared last.
-/
structure Balanced (opened : Option Nat) (log : List Event) : Prop where
  last : ∀ handle, opened = some handle → handle + 1 = handles log
  count_closed :
    ∀ handle,
      log.count (.closed handle) =
        if handle < handles log ∧ opened ≠ some handle then 1 else 0

theorem balanced_nil : Balanced none [] where
  last := by simp
  count_closed := by simp [handles]

namespace Balanced

variable {opened : Option Nat} {log : List Event} {handle : Nat}

/-- A call that neither hands a handle out nor takes one back. -/
theorem other
    (balanced : Balanced opened log) {event : Event}
    (unprepared : event.isPrepared = false)
    (unclosed : ∀ handle, event ≠ .closed handle) :
    Balanced opened (log ++ [event]) where
  last := by simpa [unprepared] using balanced.last
  count_closed number := by
    simpa [unprepared, unclosed number] using balanced.count_closed number

theorem prepare (balanced : Balanced none log) :
    Balanced (some (handles log)) (log ++ [.prepared (handles log)]) where
  last number same := by
    cases same
    simp [Event.isPrepared]
  count_closed number := by
    have unclosed :
        [Event.prepared (handles log)].count (.closed number) = 0 := rfl
    rw [List.count_append, balanced.count_closed number, handles_append,
      unclosed]
    grind [Event.isPrepared]

theorem close (balanced : Balanced (some handle) log) :
    Balanced none (log ++ [.closed handle]) where
  last := by simp
  count_closed number := by
    have newest := balanced.last handle rfl
    rw [List.count_append, balanced.count_closed number, handles_append,
      List.count_singleton]
    grind [Event.isPrepared]

end Balanced

/-- The handles of a log are balanced, and were so behind every call of it. -/
structure Throughout (opened : Option Nat) (log : List Event) : Prop where
  balanced : Balanced opened log
  earlier : ∀ front, front <+: log → ∃ other, Balanced other front

namespace Throughout

theorem nil : Throughout none [] where
  balanced := balanced_nil
  earlier front behind := by
    rw [List.prefix_nil.1 behind]
    exact ⟨none, balanced_nil⟩

/-- One more call, behind which the handles are balanced again. -/
theorem concat
    {opened next : Option Nat} {log : List Event} {event : Event}
    (throughout : Throughout opened log)
    (balanced : Balanced next (log ++ [event])) :
    Throughout next (log ++ [event]) where
  balanced := balanced
  earlier front behind := by
    rcases List.prefix_concat_iff.1 behind with rfl | within
    · exact ⟨next, balanced⟩
    · exact throughout.earlier front within

end Throughout

namespace Driver

/-- Whatever the driver, each handle that was given away is closed once. -/
def balanced (driver : Driver Connection Cursor) :
    driver.recorded.Discipline where
  holds handle? seen := Throughout (handle?.map Prod.fst) seen.log
  fetch handle before held := by
    rw [Option.map_some, number_behind]
    exact held.concat (held.balanced.other rfl (by simp))
  close handle before held := held.concat held.balanced.close
  prepare sql before held := by
    rcases answered : driver.prepare sql before.connection with ⟨_ | _, _⟩ <;>
    simp only [recorded, answered]
    · exact held.concat (held.balanced.other rfl (by simp [Event.ofPrepare]))
    · exact held.concat held.balanced.prepare
  execute handle params before held := by
    rw [Option.map_some, number_executed]
    exact held.concat (held.balanced.other rfl (by simp))
  transact transaction before held :=
    held.concat (held.balanced.other rfl (by simp))

end Driver

/-! ## The calls for one statement -/

/-- The calls for one statement up to some uses: the last one closes it. -/
def lifeOf (handle fetches : Nat) (closed : Bool) : List Event :=
  .prepared handle :: .executed handle ::
    (List.replicate fetches (.fetched handle) ++
      if closed then [.closed handle] else [])

theorem lifeOf_append_fetched (handle fetches : Nat) :
    lifeOf handle fetches false ++ [.fetched handle] =
      lifeOf handle (fetches + 1) false := by
  simp [lifeOf, List.replicate_succ']

theorem lifeOf_append_closed (handle fetches : Nat) :
    lifeOf handle fetches false ++ [.closed handle] =
      lifeOf handle fetches true := by
  simp [lifeOf]

theorem handles_lifeOf
    (log : List Event) (handle fetches : Nat) (closed : Bool) :
    handles (log ++ lifeOf handle fetches closed) = handles log + 1 := by
  cases closed <;>
  simp [handles, lifeOf, List.countP_append, List.countP_cons,
    List.countP_replicate, Event.isPrepared]

theorem attempts_lifeOf
    (log : List Event) (handle fetches : Nat) (closed : Bool) :
    attempts (log ++ lifeOf handle fetches closed) = attempts log + 1 := by
  cases closed <;>
  simp [attempts, lifeOf, List.countP_append, List.countP_cons,
    List.countP_replicate, Event.isAttempt, Event.isPrepared]

/--
All calls since the log was `before` were about one handle, and they are those
for one statement up to some uses.
-/
def Driver.life (driver : Driver Connection Cursor) (before : List Event)
    (number : Nat) : driver.recorded.Custody where
  holds handle? seen :=
    (∀ handle ∈ handle?, handle.1 = number) ∧
      ∃ fetches,
        seen.log = before ++ lifeOf number fetches handle?.isNone
  fetch handle seen held := by
    rcases held with ⟨own, fetches, calls⟩
    have same : handle.1 = number := own handle rfl
    refine ⟨?_, fetches + 1, ?_⟩
    · intro next moved
      cases moved
      rw [number_behind, same]
    · simp only [recorded, Recorded.note, calls, same, List.append_assoc]
      exact congrArg _ (lifeOf_append_fetched number fetches)
  close handle seen held := by
    rcases held with ⟨own, fetches, calls⟩
    have same : handle.1 = number := own handle rfl
    refine ⟨by simp, fetches, ?_⟩
    simp only [recorded, Recorded.note, calls, same, List.append_assoc]
    exact congrArg _ (lifeOf_append_closed number fetches)

namespace Statement

/-- The first calls for a statement are a preparation and an execution. -/
theorem keptBy_life_of_execute
    {driver : Driver Connection Cursor} {options : Options} {query : Query}
    {before seen : Recorded Connection}
    {opened : Statement (Nat × Cursor)}
    (executed :
      execute driver.recorded options query before = (.ok opened, seen)) :
    opened.KeptBy (driver.life before.log (handles before.log)) seen := by
  rcases starts_of_execute executed with
    ⟨cursor, between, ⟨prepared, bound, preparation, execution⟩, result⟩
  have started :
      (ofCursor driver.recorded options query cursor).KeptBy
        (driver.life before.log (handles before.log)) between := by
    rcases Driver.recorded_prepare_ok preparation with ⟨numbered, noted⟩
    rcases Driver.recorded_execute_ok execution with ⟨kept, behind⟩
    refine ⟨?_, 0, ?_⟩
    · intro handle same
      cases same
      rw [kept, numbered]
    · rw [behind, noted, numbered, List.append_assoc]
      rfl
  rcases result with ⟨_, rfl, rfl⟩ | ⟨_, finished⟩
  · exact started
  · have kept := keptBy_finish started
    rw [finished] at kept
    exact kept

end Statement

end Sqlwright
