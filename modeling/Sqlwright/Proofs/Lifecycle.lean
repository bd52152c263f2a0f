import Sqlwright.Proofs.Recording
import Sqlwright.Proofs.Scripting

/-!
# The life of a statement

A statement is executed, used any number of times, and closes itself or is
closed by the caller.  `Statement.Protocol` collects what a caller can rely on
over all sequences of uses: which use may read, which rows it gets, which uses
are refused, and that a refused use does nothing.

`Statement.protocol_of_execute` proves the protocol for every executed
statement, over every driver.  It also says which calls the driver gets: a
preparation, an execution, fetches, and one close if the statement is closed,
after which no call follows.
-/

namespace Sqlwright

variable {Connection Cursor : Type}

namespace Statement

/-- A use is refused because of what was done with the statement before. -/
def Refused {Result : Type} (result : Except Failure Result) : Prop :=
  ∃ fault, result = .error (.statement fault)

/-- Among some uses is a close by the caller that found the statement open. -/
def ClosedByCaller (driver : Driver Connection Cursor) (uses : List Use)
    (statement : Statement Cursor) (connection : Connection) : Prop :=
  ∃ front back,
    uses = front ++ .close :: back ∧
      (statement.afterUses driver front connection).1.isClosed = false

/-- Some uses have used up the right to read. -/
def UsedUp (driver : Driver Connection Cursor) (uses : List Use)
    (statement : Statement Cursor) (connection : Connection) : Prop :=
  (∃ earlier ∈ uses, earlier.reads = true) ∨
    ClosedByCaller driver uses statement connection

/-- A use behind some other uses. -/
def useAfter (driver : Driver Connection Cursor) (uses : List Use)
    (statement : Statement Cursor) (connection : Connection) (use : Use) :
    Used Connection Cursor Taken :=
  let state := statement.afterUses driver uses connection
  state.1.use driver state.2 use

/--
What a caller can rely on who uses a statement, of which the result set has
some rows.
-/
structure Protocol (driver : Driver Connection Cursor)
    (statement : Statement Cursor) (connection : Connection)
    (rows : List Row) : Prop where
  /-- Only the first use that reads is granted, and none behind a close. -/
  reads_refused_iff :
    ∀ uses use,
      use.reads = true →
        (Refused (statement.useAfter driver uses connection use).result ↔
          UsedUp driver uses statement connection)
  /-- The driver is not called for a use that is refused. -/
  unchanged_of_refused :
    ∀ uses use,
      Refused (statement.useAfter driver uses connection use).result →
        (statement.useAfter driver uses connection use).statement =
            (statement.afterUses driver uses connection).1 ∧
          (statement.useAfter driver uses connection use).connection =
            (statement.afterUses driver uses connection).2
  /-- Altogether the rows are given in order, and each one once. -/
  delivered_prefix :
    ∀ uses, delivered driver uses statement connection <+: rows
  /-- A granted reader takes every step that it is asked for. -/
  steps_of_granted :
    ∀ uses count,
      ¬UsedUp driver uses statement connection →
        ∃ outcomes,
          (statement.useAfter driver uses connection (.rows count)).result =
              .ok (.steps outcomes) ∧
            outcomes.length = count ∧
            ReadsFrom (driver.Reports statement.query) rows outcomes
  /-- A reader that came to the end without a failure has given all rows. -/
  rows_of_end :
    ∀ uses count outcomes,
      (statement.useAfter driver uses connection (.rows count)).result =
          .ok (.steps outcomes) →
        .ok none ∈ outcomes →
          (∀ failure, .error failure ∉ outcomes) →
            outcomes.filterMap rowOf? = rows
  /-- Behind an end or a failure a reader only comes to the end. -/
  none_behind_end :
    ∀ uses count front stop back,
      (statement.useAfter driver uses connection (.rows count)).result =
          .ok (.steps (front ++ stop :: back)) →
        (∀ row, stop ≠ .ok (some row)) →
          ∀ outcome ∈ back, outcome = .ok none
  /-- All rows are given, unless the driver has failed. -/
  all_of_granted :
    ∀ uses,
      ¬UsedUp driver uses statement connection →
        (statement.useAfter driver uses connection .all).result =
            .ok (.all rows) ∨
          ∃ failure,
            (statement.useAfter driver uses connection .all).result =
                .error failure ∧
              driver.Reports statement.query failure
  /-- The first row is given, unless the driver has failed. -/
  first_of_granted :
    ∀ uses,
      ¬UsedUp driver uses statement connection →
        (statement.useAfter driver uses connection .first).result =
            .ok (.first rows.head?) ∨
          ∃ failure,
            (statement.useAfter driver uses connection .first).result =
                .error failure ∧
              driver.Reports statement.query failure
  /-- Closing is refused only behind a close that found the statement open. -/
  close_refused_iff :
    ∀ uses,
      Refused (statement.useAfter driver uses connection .close).result ↔
        ClosedByCaller driver uses statement connection
  /-- Closing a statement that has closed itself succeeds and does nothing. -/
  close_of_closedItself :
    ∀ uses,
      (statement.afterUses driver uses connection).1.isClosed = true →
        ¬ClosedByCaller driver uses statement connection →
          statement.useAfter driver uses connection .close =
            ⟨.ok .closed, (statement.afterUses driver uses connection).1,
              (statement.afterUses driver uses connection).2⟩
  /-- Nothing is asked of the driver for a statement that is closed. -/
  unchanged_of_closed :
    ∀ uses use,
      (statement.afterUses driver uses connection).1.isClosed = true →
        (statement.useAfter driver uses connection use).connection =
          (statement.afterUses driver uses connection).2

end Statement

variable {driver : Driver Connection Cursor} {statement : Statement Cursor}
  {connection : Connection} {rows : List (List Value)}

namespace Statement

/-! ## One use -/

/-- A use that cannot claim the rows is refused, and nothing happens. -/
theorem refused_of_spent
    (driver : Driver Connection Cursor) (connection : Connection)
    {use : Use} (reads : use.reads = true) (spent : statement.Spent) :
    ∃ fault,
      statement.use driver connection use =
        ⟨.error (.statement fault), statement, connection⟩ := by
  rcases claim_of_spent spent with ⟨fault, refused⟩
  cases use with
  | rows count => exact ⟨fault, by simp only [Statement.use, claiming, refused]⟩
  | all =>
      refine ⟨fault, ?_⟩
      simp only [Statement.use, all, claiming, refused]
      rfl
  | first =>
      refine ⟨fault, ?_⟩
      simp only [Statement.use, first, claiming, refused]
      rfl
  | close => cases reads

/-- A granted use claims the rows, and otherwise only reads. -/
theorem follows_use
    (driver : Driver Connection Cursor) (connection : Connection)
    {use : Use} (reads : use.reads = true) (fresh : ¬statement.Spent) :
    Follows { statement with claimed := true }
      (statement.use driver connection use).statement := by
  cases use with
  | rows count =>
      simp only [Statement.use, claiming, claim_of_not_spent fresh]
      exact follows_read driver count _ connection
  | all =>
      simp only [Statement.use, all, claiming, claim_of_not_spent fresh]
      exact follows_drain driver _ connection
  | first =>
      simp only [Statement.use, first, claiming, claim_of_not_spent fresh,
        Used.map]
      split
      · exact follows_next driver _ connection
      · exact
          (follows_next driver _ connection).trans (follows_finish driver _ _)
  | close => cases reads

theorem rows_of_granted
    (fresh : ¬statement.Spent)
    (supplied : statement.Supplies driver rows connection) (count : Nat) :
    ∃ outcomes,
      (statement.use driver connection (.rows count)).result =
          .ok (.steps outcomes) ∧
        outcomes.length = count ∧
        ReadsFrom (driver.Reports statement.query) (rows.map statement.row)
          outcomes := by
  have claimed :
      ({ statement with claimed := true } : Statement Cursor).Supplies driver
        rows connection := supplied
  simp only [Statement.use, claiming, claim_of_not_spent fresh]
  exact
    ⟨_, rfl, length_outcomes_read count _ connection,
      readsFrom_read claimed count⟩

theorem all_of_granted
    (fresh : ¬statement.Spent)
    (supplied : statement.Supplies driver rows connection) :
    (statement.use driver connection .all).result =
        .ok (.all (rows.map statement.row)) ∨
      ∃ failure,
        (statement.use driver connection .all).result = .error failure ∧
          driver.Reports statement.query failure := by
  have claimed :
      ({ statement with claimed := true } : Statement Cursor).Supplies driver
        rows connection := supplied
  simp only [Statement.use, all, claiming, claim_of_not_spent fresh, Used.map]
  rcases drain_result claimed with given | ⟨failure, failed, reported⟩
  · exact .inl (by simp only [given, Except.map]; rfl)
  · exact .inr ⟨failure, by simp only [failed, Except.map], reported⟩

theorem first_of_granted
    (fresh : ¬statement.Spent)
    (supplied : statement.Supplies driver rows connection) :
    (statement.use driver connection .first).result =
        .ok (.first (rows.map statement.row).head?) ∨
      ∃ failure,
        (statement.use driver connection .first).result = .error failure ∧
          driver.Reports statement.query failure := by
  simp only [Statement.use, Used.map]
  rcases first_result fresh supplied with given | ⟨failure, failed, reported⟩
  · exact .inl (by simp only [given, Except.map])
  · exact .inr ⟨failure, by simp only [failed, Except.map], reported⟩

/-- What a driver reports is not a refusal. -/
theorem not_refused_of_reports
    {Result : Type} {result : Except Failure Result} {query : Query}
    {failure : Failure} (failed : result = .error failure)
    (reported : driver.Reports query failure) :
    ¬Refused result := by
  rintro ⟨fault, refused⟩
  rw [failed] at refused
  cases reported <;> cases refused

theorem not_refused_of_not_spent
    {use : Use} (reads : use.reads = true) (fresh : ¬statement.Spent)
    (supplied : statement.Supplies driver rows connection) :
    ¬Refused (statement.use driver connection use).result := by
  cases use with
  | rows count =>
      rcases rows_of_granted fresh supplied count with ⟨outcomes, given, _⟩
      rw [given]
      rintro ⟨fault, refused⟩
      cases refused
  | all =>
      rcases all_of_granted fresh supplied with
        given | ⟨failure, failed, reported⟩
      · rw [given]
        rintro ⟨fault, refused⟩
        cases refused
      · exact not_refused_of_reports failed reported
  | first =>
      rcases first_of_granted fresh supplied with
        given | ⟨failure, failed, reported⟩
      · rw [given]
        rintro ⟨fault, refused⟩
        cases refused
      · exact not_refused_of_reports failed reported
  | close => cases reads

/-- Closing an open statement, one that closed itself, and one once more. -/
theorem close_cases
    (driver : Driver Connection Cursor) (statement : Statement Cursor)
    (connection : Connection) :
    (statement.isClosed = false ∧
      (statement.use driver connection .close).statement.phase = .closed ∧
      ¬Refused (statement.use driver connection .close).result) ∨
    (statement.phase = .finished ∧
      statement.use driver connection .close =
        ⟨.ok .closed, statement, connection⟩) ∨
    (statement.phase = .closed ∧
      statement.use driver connection .close =
        ⟨.error (.statement .alreadyClosed), statement, connection⟩) := by
  cases phase : statement.phase with
  | active cursor =>
      refine .inl ⟨by simp [isClosed, phase], ?_⟩
      simp only [Statement.use, Statement.close, leave, phase, Used.map]
      rcases driver.close cursor connection with ⟨errors | ⟨⟩, after⟩
      · refine ⟨rfl, ?_⟩
        rintro ⟨fault, same⟩
        cases same
      · refine ⟨rfl, ?_⟩
        rintro ⟨fault, same⟩
        cases same
  | finished =>
      refine .inr (.inl ⟨rfl, ?_⟩)
      simp only [Statement.use, Statement.close, leave, phase]
      rfl
  | closed =>
      refine .inr (.inr ⟨rfl, ?_⟩)
      simp only [Statement.use, Statement.close, phase]
      rfl

theorem rowsOf_close :
    rowsOf (statement.use driver connection .close) = [] := by
  simp only [Statement.use, Used.map, rowsOf]
  cases (statement.close driver connection).result <;> rfl

theorem phase_closed_use (use : Use) :
    (statement.use driver connection use).statement.phase = .closed ↔
      statement.phase = .closed ∨
        (use = .close ∧ statement.isClosed = false) := by
  by_cases reads : use.reads = true
  · have other : use ≠ .close := by
      rintro rfl
      cases reads
    by_cases spent : statement.Spent
    · rcases refused_of_spent driver connection reads spent with
        ⟨fault, refused⟩
      simp only [refused, other, false_and, or_false]
    · rw [(follows_use driver connection reads spent).closed_iff]
      simp only [other, false_and, or_false]
  · cases use with
    | rows count | all | first => exact absurd rfl reads
    | close =>
        rcases close_cases driver statement connection with
          ⟨opened, left, _⟩ | ⟨finished, done⟩ | ⟨closed, done⟩
        · simp only [left, opened, and_self, or_true]
        · have ended : statement.isClosed = true := by
            simp [isClosed, finished]
          simp [done, ended]
        · simp [done, closed]

theorem spent_use (use : Use) :
    (statement.use driver connection use).statement.Spent ↔
      statement.Spent ∨ use.reads = true ∨
        (use = .close ∧ statement.isClosed = false) := by
  by_cases reads : use.reads = true
  · by_cases spent : statement.Spent
    · rcases refused_of_spent driver connection reads spent with
        ⟨fault, refused⟩
      simp only [refused, spent, true_or]
    · have claimed :=
        (follows_use driver connection reads spent).claimed_eq
      simp only [Spent, claimed, reads, true_or, or_true]
  · cases use with
    | rows count | all | first => exact absurd rfl reads
    | close =>
        rcases close_cases driver statement connection with
          ⟨opened, left, _⟩ | ⟨finished, done⟩ | ⟨closed, done⟩
        · simp only [Spent, left, opened, and_self, or_true]
        · have ended : statement.isClosed = true := by
            simp [isClosed, finished]
          simp [done, ended, Use.reads]
        · simp only [done, Spent, closed, or_true, true_or]

/-! ## Several uses -/

theorem closedByCaller_cons (use : Use) (uses : List Use) :
    ClosedByCaller driver (use :: uses) statement connection ↔
      (use = .close ∧ statement.isClosed = false) ∨
        ClosedByCaller driver uses
          (statement.use driver connection use).statement
          (statement.use driver connection use).connection := by
  constructor
  · rintro ⟨front, back, split, opened⟩
    cases front with
    | nil =>
        simp only [List.nil_append, List.cons.injEq] at split
        exact .inl ⟨split.1, opened⟩
    | cons earliest front =>
        simp only [List.cons_append, List.cons.injEq] at split
        rcases split with ⟨rfl, split⟩
        exact .inr ⟨front, back, split, opened⟩
  · rintro (⟨rfl, opened⟩ | ⟨front, back, split, opened⟩)
    · exact ⟨[], uses, rfl, opened⟩
    · exact ⟨use :: front, back, by rw [split]; rfl, opened⟩

theorem phase_closed_afterUses (uses : List Use) :
    (statement.afterUses driver uses connection).1.phase = .closed ↔
      statement.phase = .closed ∨
        ClosedByCaller driver uses statement connection := by
  induction uses generalizing statement connection with
  | nil => simp [ClosedByCaller]
  | cons use uses induction =>
      apply Iff.trans induction
      rw [phase_closed_use, closedByCaller_cons, or_assoc]

theorem usedUp_cons (use : Use) (uses : List Use) :
    UsedUp driver (use :: uses) statement connection ↔
      use.reads = true ∨ (use = .close ∧ statement.isClosed = false) ∨
        UsedUp driver uses (statement.use driver connection use).statement
          (statement.use driver connection use).connection := by
  simp only [UsedUp, closedByCaller_cons, List.mem_cons, or_and_right,
    exists_or, exists_eq_left, or_assoc]
  exact or_congr_right or_left_comm

theorem spent_afterUses (uses : List Use) :
    (statement.afterUses driver uses connection).1.Spent ↔
      statement.Spent ∨ UsedUp driver uses statement connection := by
  induction uses generalizing statement connection with
  | nil => simp [UsedUp, ClosedByCaller]
  | cons use uses induction =>
      apply Iff.trans induction
      rw [spent_use, usedUp_cons, or_assoc, or_assoc]

/-- Uses that do not use up the right to read do nothing at all. -/
theorem afterUses_of_not_usedUp
    {uses : List Use} (fresh : ¬statement.Spent)
    (unused : ¬UsedUp driver uses statement connection) :
    statement.afterUses driver uses connection = (statement, connection) := by
  induction uses with
  | nil => rfl
  | cons use uses induction =>
      rw [usedUp_cons, not_or, not_or] at unused
      rcases unused with ⟨reads, opened, unused⟩
      cases use with
      | rows count | all | first => exact absurd rfl reads
      | close =>
          rcases close_cases driver statement connection with
            ⟨active, _⟩ | ⟨finished, done⟩ | ⟨closed, done⟩
          · exact absurd ⟨rfl, active⟩ opened
          · rw [done] at unused
            have later := induction unused
            simp only [afterUses, List.foldl_cons, done] at later ⊢
            exact later
          · exact absurd (.inr closed) fresh

/-! ## The rows of several uses -/

theorem rowsOf_of_spent
    {use : Use} (spent : statement.Spent) :
    rowsOf (statement.use driver connection use) = [] := by
  by_cases reads : use.reads = true
  · rcases refused_of_spent driver connection reads spent with ⟨fault, refused⟩
    simp only [refused, rowsOf]
  · cases use with
    | rows count | all | first => exact absurd rfl reads
    | close => exact rowsOf_close

theorem delivered_of_spent (uses : List Use) (spent : statement.Spent) :
    delivered driver uses statement connection = [] := by
  induction uses generalizing statement connection with
  | nil => rfl
  | cons use uses induction =>
      simp only [delivered, rowsOf_of_spent spent,
        induction ((spent_use use).2 (.inl spent)), List.append_nil]

theorem rowsOf_prefix
    {use : Use} (fresh : ¬statement.Spent)
    (supplied : statement.Supplies driver rows connection) :
    rowsOf (statement.use driver connection use) <+:
      rows.map statement.row := by
  cases use with
  | rows count =>
      rcases rows_of_granted fresh supplied count with
        ⟨outcomes, given, _, reads⟩
      simp only [rowsOf, given]
      exact reads.filterMap_prefix
  | all =>
      rcases all_of_granted fresh supplied with given | ⟨failure, failed, _⟩
      · simp only [rowsOf, given]
        exact List.prefix_rfl
      · simp only [rowsOf, failed]
        exact List.nil_prefix
  | first =>
      rcases first_of_granted fresh supplied with given | ⟨failure, failed, _⟩
      · simp only [rowsOf, given, Taken.rows]
        cases rows with
        | nil => exact List.nil_prefix
        | cons values rest => exact ⟨_, rfl⟩
      · simp only [rowsOf, failed]
        exact List.nil_prefix
  | close =>
      rw [rowsOf_close]
      exact List.nil_prefix

/-- All uses together give the rows in order, and no row twice. -/
theorem delivered_prefix
    (uses : List Use) (fresh : ¬statement.Spent)
    (supplied : statement.Supplies driver rows connection) :
    delivered driver uses statement connection <+: rows.map statement.row := by
  induction uses with
  | nil => exact List.nil_prefix
  | cons use uses induction =>
      by_cases spent : (statement.use driver connection use).statement.Spent
      · simp only [delivered, delivered_of_spent uses spent, List.append_nil]
        exact rowsOf_prefix fresh supplied
      · -- Only closing a statement that closed itself leaves the right to read.
        have unused : ¬UsedUp driver [use] statement connection := by
          intro used
          exact spent ((spent_afterUses [use]).2 (.inr used))
        have same := afterUses_of_not_usedUp fresh unused
        simp only [afterUses, List.foldl_cons, List.foldl_nil,
          Prod.mk.injEq] at same
        have close : use = .close := by
          cases use with
          | close => rfl
          | rows count | all | first =>
              exact absurd (.inl ⟨_, .head _, rfl⟩) unused
        simp only [delivered, same.1, same.2]
        rw [close, rowsOf_close]
        exact induction

/-- A closed statement has nothing left to ask its driver for. -/
theorem connection_use_of_isClosed
    (closed : statement.isClosed = true) (use : Use) :
    (statement.use driver connection use).connection = connection := by
  by_cases spent : use.reads = true ∧ statement.Spent
  · rcases refused_of_spent driver connection spent.1 spent.2 with
      ⟨fault, refused⟩
    rw [refused]
  · have still :
        ({ statement with claimed := true } : Statement Cursor).isClosed =
          true := closed
    cases use with
    | rows count =>
        have fresh : ¬statement.Spent := fun used => spent ⟨rfl, used⟩
        simp only [Statement.use, claiming, claim_of_not_spent fresh,
          read_of_isClosed still]
    | all =>
        have fresh : ¬statement.Spent := fun used => spent ⟨rfl, used⟩
        have ended :
            Statement.next driver { statement with claimed := true }
                connection = _ :=
          next_of_isClosed still connection
        simp only [Statement.use, all, claiming, claim_of_not_spent fresh,
          Used.map]
        rw [drain_of_none (by rw [ended]), ended]
    | first =>
        have fresh : ¬statement.Spent := fun used => spent ⟨rfl, used⟩
        simp only [Statement.use, first, claiming, claim_of_not_spent fresh,
          Used.map, next_of_isClosed still, finish_of_isClosed still]
    | close =>
        rcases close_cases driver statement connection with
          ⟨opened, _⟩ | ⟨_, done⟩ | ⟨_, done⟩
        · rw [closed] at opened
          cases opened
        · rw [done]
        · rw [done]

/-- Closing is refused only to a statement that the caller has closed. -/
theorem refused_close_iff :
    Refused (statement.use driver connection .close).result ↔
      statement.phase = .closed := by
  rcases close_cases driver statement connection with
    ⟨opened, _, granted⟩ | ⟨finished, done⟩ | ⟨closed, done⟩
  · refine iff_of_false granted fun closed => ?_
    simp [isClosed, closed] at opened
  · rw [done, finished]
    refine iff_of_false ?_ (by simp)
    rintro ⟨fault, refused⟩
    cases refused
  · exact iff_of_true ⟨_, by rw [done]⟩ closed

/-! ## The protocol -/

section

variable (fresh : ¬statement.Spent)

include fresh

theorem spent_afterUses_iff (uses : List Use) :
    (statement.afterUses driver uses connection).1.Spent ↔
      UsedUp driver uses statement connection := by
  rw [spent_afterUses, or_iff_right fresh]

theorem phase_closed_afterUses_iff (uses : List Use) :
    (statement.afterUses driver uses connection).1.phase = .closed ↔
      ClosedByCaller driver uses statement connection := by
  rw [phase_closed_afterUses, or_iff_right fun closed => fresh (.inr closed)]

theorem useAfter_of_not_usedUp
    {uses : List Use} (unused : ¬UsedUp driver uses statement connection)
    (use : Use) :
    statement.useAfter driver uses connection use =
      statement.use driver connection use := by
  simp only [useAfter, afterUses_of_not_usedUp fresh unused]

theorem reads_refused_iff
    (supplied : statement.Supplies driver rows connection) (uses : List Use)
    (use : Use) (reads : use.reads = true) :
    Refused (statement.useAfter driver uses connection use).result ↔
      UsedUp driver uses statement connection := by
  constructor
  · intro refused
    by_cases used : UsedUp driver uses statement connection
    · exact used
    · rw [useAfter_of_not_usedUp fresh used] at refused
      exact absurd refused (not_refused_of_not_spent reads fresh supplied)
  · intro used
    rcases refused_of_spent driver
        (statement.afterUses driver uses connection).2 reads
        ((spent_afterUses_iff fresh uses).2 used) with
      ⟨fault, refused⟩
    exact ⟨fault, by rw [useAfter, refused]⟩

/-- A refused use leaves the statement and the connection as they were. -/
theorem unchanged_of_refused
    (supplied : statement.Supplies driver rows connection) (uses : List Use)
    (use : Use)
    (refused : Refused (statement.useAfter driver uses connection use).result) :
    (statement.useAfter driver uses connection use).statement =
        (statement.afterUses driver uses connection).1 ∧
      (statement.useAfter driver uses connection use).connection =
        (statement.afterUses driver uses connection).2 := by
  by_cases reads : use.reads = true
  · have used := (reads_refused_iff fresh supplied uses use reads).1 refused
    rcases refused_of_spent driver
        (statement.afterUses driver uses connection).2 reads
        ((spent_afterUses_iff fresh uses).2 used) with
      ⟨fault, same⟩
    rw [useAfter, same]
    exact ⟨rfl, rfl⟩
  · cases use with
    | rows count | all | first => exact absurd rfl reads
    | close =>
        rcases close_cases driver
            (statement.afterUses driver uses connection).1
            (statement.afterUses driver uses connection).2 with
          ⟨_, _, granted⟩ | ⟨_, done⟩ | ⟨_, done⟩
        · exact absurd refused granted
        · rw [useAfter, done]
          exact ⟨rfl, rfl⟩
        · rw [useAfter, done]
          exact ⟨rfl, rfl⟩

/-- What a granted reader shows comes from the rows of the statement. -/
theorem readsFrom_of_steps
    (supplied : statement.Supplies driver rows connection) {uses : List Use}
    {count : Nat} {outcomes : List (Except Failure (Option Row))}
    (given :
      (statement.useAfter driver uses connection (.rows count)).result =
        .ok (.steps outcomes)) :
    ReadsFrom (driver.Reports statement.query) (rows.map statement.row)
      outcomes := by
  have unused : ¬UsedUp driver uses statement connection := by
    intro used
    rcases (reads_refused_iff fresh supplied uses (.rows count) rfl).2 used with
      ⟨fault, refused⟩
    rw [given] at refused
    cases refused
  rcases rows_of_granted fresh supplied count with ⟨others, result, _, reads⟩
  rw [useAfter_of_not_usedUp fresh unused, result] at given
  cases given
  exact reads

/-- A statement that nobody has used yet follows the protocol. -/
theorem protocol_of_fresh
    (supplied : statement.Supplies driver rows connection) :
    Protocol driver statement connection (rows.map statement.row) where
  reads_refused_iff := reads_refused_iff fresh supplied
  unchanged_of_refused := unchanged_of_refused fresh supplied
  delivered_prefix uses := delivered_prefix uses fresh supplied
  steps_of_granted uses count unused := by
    rw [useAfter_of_not_usedUp fresh unused]
    exact rows_of_granted fresh supplied count
  rows_of_end uses count outcomes given :=
    (readsFrom_of_steps fresh supplied given).filterMap_eq_of_end
  none_behind_end uses count front stop back given :=
    (readsFrom_of_steps fresh supplied given).eq_none_behind rfl
  all_of_granted uses unused := by
    rw [useAfter_of_not_usedUp fresh unused]
    exact all_of_granted fresh supplied
  first_of_granted uses unused := by
    rw [useAfter_of_not_usedUp fresh unused]
    exact first_of_granted fresh supplied
  close_refused_iff uses := by
    rw [← phase_closed_afterUses_iff fresh]
    exact refused_close_iff
  close_of_closedItself uses closed own := by
    rw [← phase_closed_afterUses_iff fresh] at own
    rcases close_cases driver
        (statement.afterUses driver uses connection).1
        (statement.afterUses driver uses connection).2 with
      ⟨opened, _⟩ | ⟨_, done⟩ | ⟨left, _⟩
    · rw [closed] at opened
      cases opened
    · exact done
    · exact absurd left own
  unchanged_of_closed uses use closed :=
    connection_use_of_isClosed closed use

end

/-! ## The calls for a statement -/

/-- A statement that was just executed has been neither read nor closed. -/
theorem fresh_of_execute
    {options : Options} {query : Query} {before : Connection}
    (executed :
      execute driver options query before = (.ok statement, connection)) :
    ¬statement.Spent := by
  rcases starts_of_execute executed with
    ⟨cursor, between, _, ⟨_, rfl, rfl⟩ | ⟨_, finished⟩⟩
  · simp [Spent, ofCursor]
  · -- Without a result set it has closed itself, which is not a close by the
    -- caller.
    have follows :=
      follows_finish driver (ofCursor driver options query cursor)
        between
    rw [finished] at follows
    rw [Spent, follows.claimed_eq, follows.closed_iff]
    simp [ofCursor]

theorem isNone_cursor? (statement : Statement Cursor) :
    statement.phase.cursor?.isNone = statement.isClosed := by
  unfold isClosed
  cases statement.phase <;> rfl

/--
Every executed statement follows the protocol.  What a log of the driver's
calls shows of the statement is a preparation, an execution, some fetches, and
a close if the statement is closed, and nothing behind it.
-/
theorem protocol_of_execute
    {options : Options} {query : Query} {before : Connection}
    (executed :
      execute driver options query before = (.ok statement, connection))
    (supplied : statement.Supplies driver rows connection) :
    Protocol driver statement connection (rows.map statement.row) ∧
      ∀ log : List Event,
        ∃ opened seen,
          execute driver.recorded options query ⟨before, log⟩ =
              (.ok opened, seen) ∧
            ∀ uses,
              let left := opened.afterUses driver.recorded uses seen
              left.map (map Prod.snd) Recorded.connection =
                  statement.afterUses driver uses connection ∧
                ∃ fetches,
                  left.2.log =
                    log ++ lifeOf (handles log) fetches left.1.isClosed := by
  constructor
  · exact protocol_of_fresh (fresh_of_execute executed) supplied
  · intro log
    have same :=
      execute_map driver.recording ⟨before, log⟩ options query
    rcases recorded : execute driver.recorded options query ⟨before, log⟩ with
      ⟨failure | opened, seen⟩
    · rw [recorded] at same
      cases executed.symm.trans same
    · rw [recorded] at same
      cases executed.symm.trans same
      refine ⟨opened, seen, rfl, ?_⟩
      intro uses
      constructor
      · exact (afterUses_map driver.recording opened seen uses).symm
      · rcases keptBy_afterUses uses (keptBy_life_of_execute recorded) with
          ⟨_, fetches, calls⟩
        rw [isNone_cursor?] at calls
        exact ⟨fetches, calls⟩

/-- A script that answers a query with two rows. -/
def twoRows : Script :=
  .ofPending false
    [.plain (.succeed (.ofRows ["id"] [[.int 7], [.int 8]]))]

theorem protocol_of_execute_twoRows :
    ∃ statement started,
      execute Script.driver Options.generic ⟨"SELECT id FROM t", []⟩ twoRows =
          (.ok statement, started) ∧
        Protocol Script.driver statement started
          [⟨["id"], [.int 7]⟩, ⟨["id"], [.int 8]⟩] := by
  have opened :
      ∃ statement started,
        execute Script.driver Options.generic ⟨"SELECT id FROM t", []⟩
            twoRows =
          (.ok statement, started) :=
    ⟨_, _, rfl⟩
  rcases opened with ⟨statement, started, executed⟩
  rcases supplies_of_script executed with ⟨answer, given, columns, supplied⟩
  cases given
  have followed := (protocol_of_execute executed supplied).1
  have shown : statement.row = Row.mk ["id"] := by
    funext values
    rw [row, columns]
    rfl
  rw [shown] at followed
  exact ⟨statement, started, executed, followed⟩

end Statement

end Sqlwright
