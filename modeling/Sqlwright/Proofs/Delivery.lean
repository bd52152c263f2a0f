import Sqlwright.Proofs.Executing
import Sqlwright.Proofs.Visiting

/-!
# Rows of a statement

`Driver.Supplies` says which rows a cursor stands before: fetching gives them
in order, as far as it succeeds.  From the cursor's rows follows what a reader
of the statement shows.  `Statement.ReadsFrom` describes the outcomes of a
reader that takes steps one by one: the rows in order, until it stops, or
comes to their end, or fails, and nothing behind an end or a failure.
-/

namespace Sqlwright

variable {Connection Cursor : Type}

/-- Fetching gives these rows in order and no more, as far as it succeeds. -/
def Driver.Supplies (driver : Driver Connection Cursor) :
    List (List Value) → Cursor → Connection → Prop
  | [], cursor, connection =>
      ∀ found,
        (driver.fetch cursor connection).1 = .ok found → found = none
  | values :: rows, cursor, connection =>
      ∀ found,
        (driver.fetch cursor connection).1 = .ok found →
          ∃ next,
            found = some (values, next) ∧
              driver.Supplies rows next (driver.fetch cursor connection).2

/-- A failed fetch or close about a query, as the driver reported it. -/
inductive Driver.Reports (driver : Driver Connection Cursor) (query : Query) :
    Failure → Prop where
  | fetch {cursor : Cursor} {connection : Connection}
      {errors : List NativeError} :
      (driver.fetch cursor connection).1 = .error errors →
        Reports driver query (.ofCall .fetch errors query.sql query.params)
  | close {cursor : Cursor} {connection : Connection}
      {errors : List NativeError} :
      (driver.close cursor connection).1 = .error errors →
        Reports driver query (.ofCall .close errors query.sql query.params)

namespace Statement

/--
The rows that a statement stands before.  A statement without a cursor stands
before none.
-/
def Supplies (driver : Driver Connection Cursor)
    (rows : List (List Value)) (statement : Statement Cursor)
    (connection : Connection) : Prop :=
  match statement.phase with
  | .active cursor => driver.Supplies rows cursor connection
  | _ => rows = []

/-- The outcomes of a reader of some rows, in which some failures may occur. -/
inductive ReadsFrom (fails : Failure → Prop) :
    List Row → List (Except Failure (Option Row)) → Prop where
  /-- The reader takes no more steps. -/
  | stopped {rows : List Row} : ReadsFrom fails rows []
  | row {row : Row} {rows : List Row}
      {outcomes : List (Except Failure (Option Row))} :
      ReadsFrom fails rows outcomes →
        ReadsFrom fails (row :: rows) (.ok (some row) :: outcomes)
  /-- There are no more rows, however often the reader asks. -/
  | ended (count : Nat) :
      ReadsFrom fails [] (.ok none :: List.replicate count (.ok none))
  | failed {rows : List Row} {failure : Failure} (count : Nat) :
      fails failure →
        ReadsFrom fails rows
          (.error failure :: List.replicate count (.ok none))

namespace ReadsFrom

variable {fails : Failure → Prop} {rows : List Row}
  {outcomes : List (Except Failure (Option Row))}

theorem filterMap_replicate_none (count : Nat) :
    (List.replicate count (.ok none)).filterMap rowOf? = [] := by
  rw [List.filterMap_replicate_of_none rfl]

/-- A reader shows rows in order, from the first one on. -/
theorem filterMap_prefix (reads : ReadsFrom fails rows outcomes) :
    outcomes.filterMap rowOf? <+: rows := by
  induction reads with
  | stopped => exact List.nil_prefix
  | @row row rows outcomes _ induction =>
      have head : rowOf? (.ok (some row)) = some row := rfl
      rw [List.filterMap_cons_some head]
      exact (List.prefix_cons_inj row).2 induction
  | ended count | failed count =>
      rw [List.filterMap_cons_none rfl]
      exact filterMap_replicate_none count ▸ List.nil_prefix

/-- A reader that came to the end without a failure has shown all rows. -/
theorem filterMap_eq_of_end
    (reads : ReadsFrom fails rows outcomes)
    (complete : .ok none ∈ outcomes)
    (clean : ∀ failure, .error failure ∉ outcomes) :
    outcomes.filterMap rowOf? = rows := by
  induction reads with
  | stopped => simp at complete
  | @row row rows outcomes _ induction =>
      have head : rowOf? (.ok (some row)) = some row := rfl
      simp only [List.mem_cons, reduceCtorEq, false_or, Except.ok.injEq]
        at complete clean
      rw [List.filterMap_cons_some head, induction complete clean]
  | ended count =>
      rw [List.filterMap_cons_none rfl, filterMap_replicate_none]
  | failed count => exact absurd List.mem_cons_self (clean _)

/-- Behind an end or a failure there is nothing. -/
theorem eq_none_behind
    (reads : ReadsFrom fails rows outcomes)
    {front back : List (Except Failure (Option Row))}
    {stop : Except Failure (Option Row)}
    (split : outcomes = front ++ stop :: back)
    (stops : ∀ row, stop ≠ .ok (some row)) :
    ∀ outcome ∈ back, outcome = .ok none := by
  induction reads generalizing front with
  | stopped => simp at split
  | row _ induction =>
      cases front with
      | nil =>
          simp only [List.nil_append, List.cons.injEq] at split
          exact absurd split.1.symm (stops _)
      | cons first front =>
          simp only [List.cons_append, List.cons.injEq] at split
          exact induction split.2
  | ended count | failed count =>
      intro outcome member
      have later : outcome ∈ List.replicate count (.ok none) := by
        cases front with
        | nil =>
            simp only [List.nil_append, List.cons.injEq] at split
            rw [split.2]
            exact member
        | cons first front =>
            simp only [List.cons_append, List.cons.injEq] at split
            rw [split.2]
            exact List.mem_append_right _ (List.mem_cons_of_mem _ member)
      exact List.eq_of_mem_replicate later

end ReadsFrom

variable {driver : Driver Connection Cursor} {statement : Statement Cursor}
  {connection : Connection} {rows : List (List Value)}

/-! ## What reading leaves as it is -/

/-- A statement later on, as far as reading does not change it. -/
structure Follows (before after : Statement Cursor) : Prop where
  query_eq : after.query = before.query
  columns_eq : after.columns = before.columns
  claimed_eq : after.claimed = before.claimed
  closed_iff : after.phase = .closed ↔ before.phase = .closed

namespace Follows

variable {before between after : Statement Cursor}

theorem refl (statement : Statement Cursor) : Follows statement statement :=
  ⟨rfl, rfl, rfl, Iff.rfl⟩

theorem trans
    (first : Follows before between) (second : Follows between after) :
    Follows before after where
  query_eq := second.query_eq.trans first.query_eq
  columns_eq := second.columns_eq.trans first.columns_eq
  claimed_eq := second.claimed_eq.trans first.claimed_eq
  closed_iff := second.closed_iff.trans first.closed_iff

theorem row_eq (follows : Follows before after) : after.row = before.row := by
  funext values
  simp only [row, follows.columns_eq]

end Follows

variable (driver)

theorem follows_finish
    (statement : Statement Cursor) (connection : Connection) :
    Follows statement (statement.finish driver connection).statement := by
  unfold finish leave
  split
  · rename_i cursor active
    have left :
        Follows statement { statement with phase := .finished } :=
      ⟨rfl, rfl, rfl, by simp [active]⟩
    split
    · exact left
    · exact left
  · exact .refl statement

theorem follows_next (statement : Statement Cursor) (connection : Connection) :
    Follows statement (statement.next driver connection).statement := by
  unfold next
  split
  · rename_i cursor active
    split
    · exact ⟨rfl, rfl, rfl, by simp [active]⟩
    · exact follows_finish driver statement _
    · exact follows_finish driver statement _
  · exact .refl statement

theorem follows_read
    (count : Nat) (statement : Statement Cursor) (connection : Connection) :
    Follows statement (statement.read driver count connection).statement := by
  induction count generalizing statement connection with
  | zero => exact .refl statement
  | succ count induction =>
      exact (follows_next driver statement connection).trans (induction _ _)

theorem follows_drain (statement : Statement Cursor) (connection : Connection) :
    Follows statement (statement.drain driver connection).statement := by
  fun_induction drain driver statement connection with
  | case1 statement connection row found rest induction =>
      exact (follows_next driver statement connection).trans induction
  | case2 statement connection => exact follows_next driver statement connection
  | case3 statement connection => exact follows_next driver statement connection

variable {driver}

/-! ## What reading shows -/

theorem supplies_of_isClosed (closed : statement.isClosed = true) :
    statement.Supplies driver rows connection ↔ rows = [] := by
  unfold Supplies
  split
  · rename_i cursor active
    exact absurd active (isClosed_iff.1 closed cursor)
  · rfl

theorem reports_finish
    {failure : Failure}
    (failed : (statement.finish driver connection).result = .error failure) :
    driver.Reports statement.query failure := by
  unfold finish leave at failed
  split at failed
  · rename_i cursor active
    split at failed
    · cases failed
    · rename_i errors after closed
      cases failed
      exact .close (by rw [closed])
  · cases failed

/-- One step of a reader: a row, or the end of the rows, or a failure. -/
theorem next_cases (supplied : statement.Supplies driver rows connection) :
    let read := statement.next driver connection
    (∃ values rest,
      rows = values :: rest ∧
        read.result = .ok (some (statement.row values)) ∧
        read.statement.Supplies driver rest read.connection) ∨
    (read.statement.isClosed = true ∧ rows = [] ∧ read.result = .ok none) ∨
    (read.statement.isClosed = true ∧
      ∃ failure,
        read.result = .error failure ∧
          driver.Reports statement.query failure) := by
  unfold next
  split
  · rename_i cursor active
    simp only [Supplies, active] at supplied
    rcases fetched : driver.fetch cursor connection with
      ⟨errors | _ | ⟨found, behind⟩, after⟩
    · exact
        .inr (.inr ⟨isClosed_finish after, _, rfl, .fetch (by rw [fetched])⟩)
    · have empty : rows = [] := by
        cases rows with
        | nil => rfl
        | cons values rest =>
            rcases supplied none (by rw [fetched]) with ⟨next, row, _⟩
            cases row
      rcases result : (statement.finish driver after).result with
        failure | ⟨⟩
      · refine .inr (.inr ⟨isClosed_finish after, failure, ?_, ?_⟩)
        · simp only [result, Except.map]
        · exact reports_finish result
      · refine .inr (.inl ⟨isClosed_finish after, empty, ?_⟩)
        simp only [result, Except.map]
    · cases rows with
      | nil =>
          have none_left := supplied (some (found, behind)) (by rw [fetched])
          cases none_left
      | cons values rest =>
          rcases supplied (some (found, behind)) (by rw [fetched]) with
            ⟨next, row, others⟩
          cases row
          rw [fetched] at others
          exact .inl ⟨_, _, rfl, rfl, others⟩
  · rename_i inactive
    have closed := isClosed_iff.2 inactive
    exact .inr (.inl ⟨closed, (supplies_of_isClosed closed).1 supplied, rfl⟩)

theorem readsFrom_read
    (supplied : statement.Supplies driver rows connection) (count : Nat) :
    ReadsFrom (driver.Reports statement.query) (rows.map statement.row)
      (statement.read driver count connection).outcomes := by
  induction count generalizing statement connection rows with
  | zero => exact .stopped
  | succ count induction =>
      simp only [read]
      have follows := follows_next driver statement connection
      rcases next_cases supplied with
        ⟨values, rest, rfl, result, others⟩ | ⟨closed, rfl, result⟩ |
          ⟨closed, failure, result, reported⟩
      · rw [result]
        have later := induction others
        rw [follows.row_eq, follows.query_eq] at later
        exact .row later
      · rw [result, read_of_isClosed closed]
        exact .ended count
      · rw [result, read_of_isClosed closed]
        exact .failed count reported

/-- Reading all rows gives all of them, or the failure of the driver. -/
theorem drain_result
    {statement : Statement Cursor} {connection : Connection}
    {rows : List (List Value)}
    (supplied : statement.Supplies driver rows connection) :
    (statement.drain driver connection).result =
        .ok (rows.map statement.row) ∨
      ∃ failure,
        (statement.drain driver connection).result = .error failure ∧
          driver.Reports statement.query failure := by
  have follows := follows_next driver statement connection
  rcases next_cases supplied with
    ⟨values, rest, rfl, result, others⟩ | ⟨_, rfl, result⟩ |
      ⟨_, failure, result, reported⟩
  · rw [drain_of_some result]
    rcases drain_result others with all | ⟨failure, failed, reported⟩
    · rw [follows.row_eq] at all
      exact .inl (by simp only [all, Except.map, List.map_cons])
    · rw [follows.query_eq] at reported
      exact .inr ⟨failure, by simp only [failed, Except.map], reported⟩
  · rw [drain_of_none result]
    exact .inl rfl
  · rw [drain_of_error result]
    exact .inr ⟨failure, rfl, reported⟩
termination_by rows.length

/-! ## Claiming the rows -/

/-- Rows can no longer be claimed. -/
def Spent (statement : Statement Cursor) : Prop :=
  statement.claimed = true ∨ statement.phase = .closed

theorem claim_of_not_spent (fresh : ¬statement.Spent) :
    statement.claim = .ok { statement with claimed := true } := by
  simp only [Spent, not_or, Bool.not_eq_true] at fresh
  unfold claim
  split
  · rename_i closed
    exact absurd closed fresh.2
  · rw [if_neg (by rw [fresh.1]; exact Bool.false_ne_true)]

theorem claim_of_spent (spent : statement.Spent) :
    ∃ fault, statement.claim = .error (.statement fault) := by
  unfold claim
  cases phase : statement.phase with
  | closed => exact ⟨_, rfl⟩
  | active cursor | finished =>
      have claimed : statement.claimed = true := by
        rcases spent with claimed | closed
        · exact claimed
        · rw [phase] at closed
          cases closed
      simp only [claimed, if_true]
      exact ⟨_, rfl⟩

theorem finish_of_isClosed
    (closed : statement.isClosed = true) (connection : Connection) :
    statement.finish driver connection = ⟨.ok (), statement, connection⟩ := by
  unfold finish leave
  split
  · rename_i cursor active
    exact absurd active (isClosed_iff.1 closed cursor)
  · rfl

/-- The first row is the first one that there is, or the driver failed. -/
theorem first_result
    (fresh : ¬statement.Spent)
    (supplied : statement.Supplies driver rows connection) :
    (statement.first driver connection).result =
        .ok (rows.map statement.row).head? ∨
      ∃ failure,
        (statement.first driver connection).result = .error failure ∧
          driver.Reports statement.query failure := by
  simp only [first, claiming, claim_of_not_spent fresh]
  generalize claimed : { statement with claimed := true } = taken
  have start : taken.Supplies driver rows connection := by
    rw [← claimed]
    exact supplied
  have query : taken.query = statement.query := by rw [← claimed]
  have row : taken.row = statement.row := by rw [← claimed]; rfl
  rcases next_cases start with
    ⟨values, rest, rfl, result, _⟩ | ⟨closed, rfl, result⟩ |
      ⟨_, failure, result, reported⟩
  · simp only [result]
    have follows := follows_next driver taken connection
    rcases finished :
        ((taken.next driver connection).statement.finish driver
          (taken.next driver connection).connection).result with
      failure | ⟨⟩
    · have reported := reports_finish finished
      rw [follows.query_eq, query] at reported
      exact .inr ⟨failure, by simp only [Except.map], reported⟩
    · refine .inl ?_
      simp only [Except.map, row, List.map_cons, List.head?_cons]
  · simp only [result, finish_of_isClosed closed]
    exact .inl rfl
  · rw [query] at reported
    simp only [result]
    exact .inr ⟨failure, rfl, reported⟩

/-- A statement that has closed itself has no rows left. -/
theorem all_of_finished
    (finished : statement.phase = .finished)
    (unclaimed : statement.claimed = false) (connection : Connection) :
    statement.all driver connection =
      ⟨.ok [], { statement with claimed := true }, connection⟩ := by
  have fresh : ¬statement.Spent := by
    simp [Spent, finished, unclaimed]
  have ended :
      next driver { statement with claimed := true } connection = _ :=
    next_of_isClosed (by simp [isClosed, finished]) connection
  simp only [all, claiming, claim_of_not_spent fresh]
  rw [drain_of_none (by rw [ended]), ended]

/-! ## Executing -/

/--
A statement that was executed has the cursor of its result set, or it has
closed itself because there is none.
-/
theorem starts_of_execute
    {options : Options} {query : Query} {before : Connection}
    (executed :
      execute driver options query before = (.ok statement, connection)) :
    ∃ cursor between,
      driver.Starts options query before cursor between ∧
        (((driver.columns cursor).isSome = true ∧
            statement = ofCursor driver options query cursor ∧
            connection = between) ∨
          (driver.columns cursor = none ∧
            (ofCursor driver options query cursor).finish driver between =
              ⟨.ok (), statement, connection⟩)) := by
  unfold execute at executed
  split at executed
  · cases executed
  · rename_i prepared between preparation
    split at executed
    · cases executed
    · rename_i cursor after execution
      refine ⟨cursor, after, ⟨prepared, between, preparation, execution⟩, ?_⟩
      dsimp only at executed
      split at executed
      · rename_i columns
        cases executed
        exact .inl ⟨columns, rfl, rfl⟩
      · rename_i columns
        refine .inr ⟨by simpa [ofCursor] using columns, ?_⟩
        generalize
          (ofCursor driver options query cursor).finish driver after =
            finished at executed
        rcases finished with ⟨failure | ⟨⟩, closed, left⟩
        · cases executed
        · cases executed
          rfl

end Statement

end Sqlwright
