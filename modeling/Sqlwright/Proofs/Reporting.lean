import Mathlib.Data.List.Forall2
import Sqlwright.Proofs.Lifecycle
import Sqlwright.Proofs.Transcripts

/-!
# What is bound and what is reported

The values of a query are used twice.  The driver gets them with booleans
converted where the backend has none, and the caller finds them as they were
given, in the statement and in the report of every failure.

`Binds` says which values a driver has to get, and `Report.Describes` what the
report of a failed call has to say.  `Course` lists the ways in which the
execution of a query can go, each with all calls that the driver gets.  A use
of the statement reports the first of its calls that has failed and nothing
else, which `Tells` says of its part of the transcript.
-/

namespace Sqlwright

variable {Connection Cursor : Type}

/-- What is said of a statement when a step of it has failed. -/
def DriverCall.failureText : DriverCall → String
  | .prepare => "Failed to prepare statement"
  | .execute => "Failed to execute prepared statement"
  | .fetch => "Failed to fetch row"
  | .close => "Failed to close statement"
  | other => other.context

theorem DriverCall.failureText_eq_context (call : DriverCall) :
    call.failureText = call.context := by
  cases call <;> rfl

/-- The report of a call that has failed about a query with some records. -/
structure Report.Describes (report : Report) (query : Query)
    (call : DriverCall) (errors : List NativeError) : Prop where
  message_eq :
    report.message =
      call.failureText ++ ": " ++
        "; ".intercalate (errors.map NativeError.message)
  sql_eq : report.sql = query.sql
  params_eq : report.params = query.params
  of_first :
    ∀ first rest,
      errors = first :: rest →
        report.code = first.code.getD 0 ∧
          report.sqlState = first.sqlState.getD ""
  of_none : errors = [] → report.code = 0 ∧ report.sqlState = ""

/-- Values as a driver has to get them, which is position by position. -/
structure Binds (options : Options) (params bound : List Value) : Prop where
  length_eq : bound.length = params.length
  of_bool :
    options.nativeBoolType = false →
      ∀ (index : Nat) (value : Bool),
        params[index]? = some (Value.bool value) →
          bound[index]? = some (Value.int (if value then 1 else 0))
  of_other :
    ∀ (index : Nat) (param : Value),
      params[index]? = some param →
        (options.nativeBoolType = true ∨ ∀ value, param ≠ .bool value) →
          bound[index]? = some param

namespace Statement

/-- Whether a value is a boolean. -/
def isBool : Value → Bool
  | .bool _ => true
  | _ => false

/-- A value as a backend without booleans gets it. -/
def withoutBool : Value → Value
  | .bool value => .ofBool value
  | other => other

/--
The copy of the values that is made for a driver.  Values that need no change
are handed on as they are, without a copy.
-/
def boundCopy? (options : Options) (params : List Value) :
    Option (List Value) :=
  if options.nativeBoolType || !params.any isBool then none
  else some (params.map withoutBool)

/-! ## The values that are bound -/

theorem withoutBool_of_not_isBool
    {value : Value} (other : isBool value = false) :
    withoutBool value = value := by
  cases value with
  | bool value => cases other
  | _ => rfl

theorem boundValues_eq (options : Options) (params : List Value) :
    boundValues options params =
      if options.nativeBoolType then params
      else params.map withoutBool := by
  unfold boundValues
  split
  · rfl
  · exact List.map_congr_left fun value _ => by cases value <;> rfl

/-- With and without a copy the driver gets the same values. -/
theorem boundCopy?_getD (options : Options) (params : List Value) :
    (boundCopy? options params).getD params = boundValues options params := by
  rw [boundValues_eq, boundCopy?]
  cases options.nativeBoolType with
  | true => rfl
  | false =>
      cases converted : params.any isBool with
      | true => rfl
      | false =>
          have same : ∀ value ∈ params, withoutBool value = value := by
            intro value member
            apply withoutBool_of_not_isBool
            simpa using List.any_eq_false.1 converted value member
          exact ((List.map_congr_left same).trans (List.map_id params)).symm

theorem binds_boundValues (options : Options) (params : List Value) :
    Binds options params (boundValues options params) where
  length_eq := by
    rw [boundValues_eq]
    split
    · rfl
    · exact List.length_map withoutBool
  of_bool without index value found := by
    rw [boundValues_eq, without, if_neg Bool.false_ne_true,
      List.getElem?_map, found]
    rfl
  of_other index param found kept := by
    rw [boundValues_eq]
    split
    · exact found
    · rename_i without
      have other : isBool param = false := by
        rcases kept with native | kept
        · exact absurd native without
        · cases param with
          | bool value => exact absurd rfl (kept value)
          | _ => rfl
      rw [List.getElem?_map, found, Option.map_some,
        withoutBool_of_not_isBool other]

end Statement

/-! ## Reports -/

theorem describes_ofNative
    (query : Query) (call : DriverCall) (errors : List NativeError) :
    (Report.ofNative call.context errors query.sql query.params).Describes
      query call errors where
  message_eq := by
    rw [call.failureText_eq_context]
    rfl
  sql_eq := rfl
  params_eq := rfl
  of_first first rest split := by
    subst split
    exact ⟨rfl, rfl⟩
  of_none empty := by
    subst empty
    exact ⟨rfl, rfl⟩

/-- The report of a failed backend, which other failures do not have. -/
def Failure.report? : Failure → Option Report
  | .backend report => some report
  | _ => none

/-- The report that a result comes with, if it is a failure of the backend. -/
def report? {Result : Type} : Except Failure Result → Option Report
  | .ok _ => none
  | .error failure => failure.report?

@[simp]
theorem report?_map
    {First Second : Type} (change : First → Second)
    (result : Except Failure First) :
    report? (result.map change) = report? result := by
  cases result <;> rfl

/-- The reports that a use shows, of which steps may show several. -/
def reportsOf : Except Failure Statement.Taken → List Report
  | .ok (.steps outcomes) => outcomes.filterMap report?
  | result => (report? result).toList

/--
Between two points of a transcript the caller got reports of the first call that
has failed there, if one has.
-/
def Tells (query : Query) (before after : Transcribed Connection Cursor)
    (reports : List Report) : Prop :=
  ∃ exchanges,
    after.exchanges = before.exchanges ++ exchanges ∧
      List.Forall₂
        (fun report failure => report.Describes query failure.1 failure.2)
        reports (firstFailure? exchanges).toList

namespace Tells

variable {query : Query} {before between after : Transcribed Connection Cursor}
  {reports : List Report}

theorem refl (query : Query) (seen : Transcribed Connection Cursor) :
    Tells query seen seen [] :=
  ⟨[], (List.append_nil _).symm, .nil⟩

/-- A call that has not failed. -/
theorem of_ok
    {exchange : Exchange Cursor} (succeeded : exchange.failure? = none)
    {left : Connection} :
    Tells query before (before.add exchange left) [] := by
  refine ⟨[exchange], rfl, ?_⟩
  rw [firstFailure?, List.findSome?_cons, succeeded]
  exact .nil

/-- A call that has failed. -/
theorem of_error
    {exchange : Exchange Cursor} {call : DriverCall}
    {errors : List NativeError}
    (failed : exchange.failure? = some (call, errors))
    {left : Connection} :
    Tells query before (before.add exchange left)
      [Report.ofNative call.context errors query.sql query.params] := by
  refine ⟨[exchange], rfl, ?_⟩
  rw [firstFailure?, List.findSome?_cons, failed]
  exact .cons (describes_ofNative query call errors) .nil

/-- As long as nothing has failed, the next failure is the first one. -/
theorem trans
    (first : Tells query before between [])
    (second : Tells query between after reports) :
    Tells query before after reports := by
  rcases first with ⟨front, frontCalls, none⟩
  rcases second with ⟨back, backCalls, told⟩
  refine ⟨front ++ back, ?_, ?_⟩
  · rw [backCalls, frontCalls, List.append_assoc]
  · have unfailed : firstFailure? front = Option.none := by
      cases found : firstFailure? front with
      | none => rfl
      | some failure =>
          rw [found] at none
          cases none
    rw [firstFailure?_append, unfailed, Option.none_or]
    exact told

/-- Behind the first failure others are not reported. -/
theorem trans_of_failed
    {report : Report} {others : List Report}
    (first : Tells query before between [report])
    (second : Tells query between after others) :
    Tells query before after [report] := by
  rcases first with ⟨front, frontCalls, told⟩
  rcases second with ⟨back, backCalls, _⟩
  refine ⟨front ++ back, ?_, ?_⟩
  · rw [backCalls, frontCalls, List.append_assoc]
  · cases found : firstFailure? front with
    | none =>
        rw [found] at told
        cases told
    | some failure =>
        rw [found] at told
        rw [firstFailure?_append, found]
        exact told

end Tells

namespace Statement

variable (driver : Driver Connection Cursor)

section

variable (statement : Statement Cursor)
  (before : Transcribed Connection Cursor)

/-! ## Uses -/

theorem tells_leave (next : Phase Cursor) :
    Tells statement.query before
      (statement.leave driver.transcribed next before).connection
      (report?
        (statement.leave driver.transcribed next before).result).toList := by
  unfold leave
  split
  · rename_i cursor active
    rcases answered : driver.close cursor before.connection with
      ⟨errors | ⟨⟩, after⟩
    · simp only [Driver.transcribed, answered]
      exact .of_error rfl
    · simp only [Driver.transcribed, answered]
      exact .of_ok rfl
  · exact .refl statement.query before

theorem tells_close :
    Tells statement.query before
      (statement.close driver.transcribed before).connection
      (report? (statement.close driver.transcribed before).result).toList := by
  unfold close
  split
  · exact .refl statement.query before
  · exact tells_leave driver statement before .closed

theorem tells_next :
    Tells statement.query before
      (statement.next driver.transcribed before).connection
      (report? (statement.next driver.transcribed before).result).toList := by
  unfold next
  split
  · rename_i cursor active
    rcases answered : driver.fetch cursor before.connection with
      ⟨errors | _ | ⟨values, behind⟩, after⟩
    · simp only [Driver.transcribed, answered]
      exact (Tells.of_error rfl).trans_of_failed
        (tells_leave driver statement _ _)
    · simp only [Driver.transcribed, answered, report?_map]
      exact (Tells.of_ok rfl).trans (tells_leave driver statement _ _)
    · simp only [Driver.transcribed, answered]
      exact .of_ok rfl
  · exact .refl statement.query before

theorem tells_drain :
    Tells statement.query before
      (statement.drain driver.transcribed before).connection
      (report? (statement.drain driver.transcribed before).result).toList := by
  fun_induction drain driver.transcribed statement before with
  | case1 statement before row found rest induction =>
      have step := tells_next driver statement before
      rw [found] at step
      rw [(follows_next driver.transcribed statement before).query_eq]
        at induction
      rw [report?_map]
      exact step.trans induction
  | case2 statement before found =>
      have step := tells_next driver statement before
      rw [found] at step
      exact step
  | case3 statement before failure found =>
      have step := tells_next driver statement before
      rw [found] at step
      exact step

theorem tells_read (count : Nat) :
    Tells statement.query before
      (statement.read driver.transcribed count before).connection
      ((statement.read driver.transcribed count before).outcomes.filterMap
        report?) := by
  induction count generalizing statement before with
  | zero => exact .refl statement.query before
  | succ count induction =>
      have step := tells_next driver statement before
      have rest :=
        induction (statement.next driver.transcribed before).statement
          (statement.next driver.transcribed before).connection
      rw [(follows_next driver.transcribed statement before).query_eq] at rest
      simp only [read, List.filterMap_cons]
      cases told :
          report? (statement.next driver.transcribed before).result with
      | none =>
          rw [told] at step
          exact step.trans rest
      | some report =>
          -- A reader that has failed comes to the end from then on.
          have closed :
              (statement.next driver.transcribed
                before).statement.isClosed = true := by
            apply isClosed_next
            intro row found
            rw [found] at told
            cases told
          rw [told] at step
          rw [read_of_isClosed closed, List.filterMap_replicate_of_none rfl]
          exact step

/-- A use that is refused reports nothing, as no call was made for it. -/
theorem tells_claiming
    {Result : Type} (reports : Except Failure Result → List Report)
    {read :
      Statement Cursor → Used (Transcribed Connection Cursor) Cursor Result}
    (silent : ∀ fault, reports (.error (.statement fault)) = [])
    (reads :
      ∀ claimed : Statement Cursor,
        claimed.query = statement.query →
          Tells statement.query before (read claimed).connection
            (reports (read claimed).result)) :
    Tells statement.query before (statement.claiming before read).connection
      (reports (statement.claiming before read).result) := by
  unfold claiming
  by_cases spent : statement.Spent
  · rcases claim_of_spent spent with ⟨fault, refused⟩
    simp only [refused, silent]
    exact .refl statement.query before
  · simp only [claim_of_not_spent spent]
    exact reads _ rfl

theorem tells_all :
    Tells statement.query before
      (statement.all driver.transcribed before).connection
      (report? (statement.all driver.transcribed before).result).toList := by
  refine
    tells_claiming statement before (fun result => (report? result).toList)
      (fun _ => rfl) fun claimed same => ?_
  rw [← same]
  exact tells_drain driver claimed before

theorem tells_first :
    Tells statement.query before
      (statement.first driver.transcribed before).connection
      (report? (statement.first driver.transcribed before).result).toList := by
  refine
    tells_claiming statement before (fun result => (report? result).toList)
      (fun _ => rfl) fun claimed same => ?_
  have step := tells_next driver claimed before
  rw [← same]
  dsimp only
  split
  · exact step
  · rename_i row found
    rw [found] at step
    have behind :=
      tells_leave driver
        (claimed.next driver.transcribed before).statement
        (claimed.next driver.transcribed before).connection .finished
    rw [(follows_next driver.transcribed claimed before).query_eq] at behind
    rw [report?_map]
    exact step.trans behind

theorem tells_use (use : Use) :
    Tells statement.query before
      (statement.use driver.transcribed before use).connection
      (reportsOf (statement.use driver.transcribed before use).result) := by
  have plain {Result : Type} (result : Except Failure Result)
      (wrap : Result → Taken)
      (unstepped : ∀ found outcomes, wrap found ≠ .steps outcomes) :
      reportsOf (result.map wrap) = (report? result).toList := by
    cases result with
    | error failure => rfl
    | ok found =>
        show reportsOf (.ok (wrap found)) = []
        cases taken : wrap found with
        | steps outcomes => exact absurd taken (unstepped found outcomes)
        | all rows | first row | closed => rfl
  cases use with
  | rows count =>
      refine
        tells_claiming statement before reportsOf (fun _ => rfl)
          fun claimed same => ?_
      rw [← same]
      exact tells_read driver claimed before count
  | all =>
      simp only [Statement.use, Used.map]
      rw [plain _ _ (by simp)]
      exact tells_all driver statement before
  | first =>
      simp only [Statement.use, Used.map]
      rw [plain _ _ (by simp)]
      exact tells_first driver statement before
  | close =>
      simp only [Statement.use, Used.map]
      rw [plain _ _ (by simp)]
      exact tells_close driver statement before

end

/-! ## The query of a statement -/

theorem query_leave
    (next : Phase Cursor) (statement : Statement Cursor)
    (connection : Connection) :
    (statement.leave driver next connection).statement.query =
      statement.query := by
  unfold leave
  split
  · split <;> rfl
  · rfl

theorem query_use
    (statement : Statement Cursor) (connection : Connection) (use : Use) :
    (statement.use driver connection use).statement.query =
      statement.query := by
  by_cases reads : use.reads = true
  · by_cases spent : statement.Spent
    · rcases refused_of_spent driver connection reads spent with
        ⟨fault, refused⟩
      rw [refused]
    · exact (follows_use driver connection reads spent).query_eq
  · cases use with
    | rows count | all | first => exact absurd rfl reads
    | close =>
        simp only [Statement.use, Used.map, close]
        split
        · rfl
        · exact query_leave driver .closed statement connection

theorem query_afterUses
    (statement : Statement Cursor) (connection : Connection)
    (uses : List Use) :
    (statement.afterUses driver uses connection).1.query =
      statement.query := by
  induction uses generalizing statement connection with
  | nil => rfl
  | cons use uses induction =>
      exact
        (induction _ _).trans (query_use driver statement _ use)

/-! ## Executing -/

/--
The ways in which the execution of a query can go: the calls that the driver
gets, and what comes of it.
-/
inductive Course (query : Query) (bound : List Value) :
    List (Exchange Cursor) → Except Failure (Statement Cursor) → Prop where
  | unprepared {errors : List NativeError} {report : Report} :
      report.Describes query .prepare errors →
        Course query bound [.prepare query.sql (.error errors)]
          (.error (.backend report))
  /-- The prepared cursor is given back, whatever comes of that. -/
  | unexecuted {cursor : Cursor} {errors : List NativeError}
      {closed : Except (List NativeError) Unit} {report : Report} :
      report.Describes query .execute errors →
        Course query bound
          [.prepare query.sql (.ok cursor),
            .execute cursor bound (.error errors), .close cursor closed]
          (.error (.backend report))
  /-- A statement with a result set stays open. -/
  | opened {cursor executed : Cursor} {statement : Statement Cursor} :
      statement.query = query → statement.columns.isSome = true →
        statement.phase = .active executed →
          Course query bound
            [.prepare query.sql (.ok cursor),
              .execute cursor bound (.ok executed)]
            (.ok statement)
  | finished {cursor executed : Cursor} {statement : Statement Cursor} :
      statement.query = query → statement.columns = none →
        statement.phase = .finished →
          Course query bound
            [.prepare query.sql (.ok cursor),
              .execute cursor bound (.ok executed), .close executed (.ok ())]
            (.ok statement)
  | unfinished {cursor executed : Cursor} {errors : List NativeError}
      {report : Report} :
      report.Describes query .close errors →
        Course query bound
          [.prepare query.sql (.ok cursor),
            .execute cursor bound (.ok executed),
            .close executed (.error errors)]
          (.error (.backend report))

theorem exists_course
    (options : Options) (query : Query)
    (before : Transcribed Connection Cursor) :
    ∃ exchanges,
      (execute driver.transcribed options query before).2.exchanges =
          before.exchanges ++ exchanges ∧
        Course query (boundValues options query.params) exchanges
          (execute driver.transcribed options query before).1 := by
  rcases prepared : driver.prepare query.sql before.connection with
    ⟨errors | cursor, between⟩
  · simp only [execute, Driver.transcribed, Transcribed.add, prepared]
    exact ⟨_, rfl, .unprepared (describes_ofNative query .prepare errors)⟩
  · rcases answered :
        driver.execute cursor (boundValues options query.params) between with
      ⟨errors | executed, after⟩
    · simp only [execute, Driver.transcribed, Transcribed.add, prepared,
        answered, List.append_assoc, List.cons_append, List.nil_append]
      exact ⟨_, rfl, .unexecuted (describes_ofNative query .execute errors)⟩
    · cases columns : driver.columns executed with
      | some names =>
          simp only [execute, Driver.transcribed, Transcribed.add, prepared,
            answered, ofCursor, columns, Option.isSome_some, if_true,
            List.append_assoc, List.cons_append, List.nil_append]
          exact ⟨_, rfl, .opened rfl rfl rfl⟩
      | none =>
          simp only [execute, Driver.transcribed, Transcribed.add, prepared,
            answered, ofCursor, columns, Option.isSome_none, finish, leave,
            List.append_assoc, List.cons_append, List.nil_append]
          rcases closed : driver.close executed after with ⟨errors | ⟨⟩, left⟩
          · exact
              ⟨_, rfl, .unfinished (describes_ofNative query .close errors)⟩
          · exact ⟨_, rfl, .finished rfl rfl rfl⟩

theorem Course.query_eq
    {query : Query} {bound : List Value} {exchanges : List (Exchange Cursor)}
    {statement : Statement Cursor}
    (course : Course query bound exchanges (.ok statement)) :
    statement.query = query := by
  cases course with
  | opened same _ _ | finished same _ _ => exact same

/--
The driver gets the values of a query position by position, with booleans as
integers if the backend has none, whether a copy has to be made or not.  The
statement keeps the values as they were given, through all uses.  Every report,
of a failed execution as of a failed use, is about the first call that has
failed, and it has the query as it was given, what was attempted in front of
the joined messages, and code and state of the first record.  Behind a failed
execution the prepared cursor is given back, once and in any case.
-/
theorem bound_and_reported
    (options : Options) (query : Query)
    (before : Transcribed Connection Cursor) :
    let started := execute driver.transcribed options query before
    execute driver options query before.connection =
        (started.1, started.2.connection) ∧
      (∃ bound exchanges,
        Binds options query.params bound ∧
          (boundCopy? options query.params).getD query.params = bound ∧
          started.2.exchanges = before.exchanges ++ exchanges ∧
          Course query bound exchanges started.1) ∧
      ∀ statement,
        started.1 = .ok statement →
          ∀ uses,
            let left := statement.afterUses driver.transcribed uses started.2
            statement.afterUses driver uses started.2.connection =
                (left.1, left.2.connection) ∧
              left.1.query = query ∧
              ∀ use,
                let used := left.1.use driver.transcribed left.2 use
                left.1.use driver left.2.connection use =
                    ⟨used.result, used.statement,
                      used.connection.connection⟩ ∧
                  Tells query left.2 used.connection
                    (reportsOf used.result) := by
  intro started
  rcases exists_course driver options query before with
    ⟨exchanges, calls, course⟩
  refine
    ⟨execute_transcribed driver before options query,
      ⟨boundValues options query.params, exchanges,
        binds_boundValues options query.params,
        boundCopy?_getD options query.params, calls, course⟩, ?_⟩
  intro statement succeeded uses left
  rw [succeeded] at course
  have same : left.1.query = query :=
    (query_afterUses driver.transcribed statement started.2 uses).trans
      course.query_eq
  refine
    ⟨afterUses_transcribed driver statement started.2 uses, same, ?_⟩
  intro use used
  have told := tells_use driver left.1 left.2 use
  rw [same] at told
  exact ⟨use_transcribed driver left.1 left.2 use, told⟩

/-- The only row cannot be fetched, and the cursor cannot be given back. -/
def brokenRow : Script :=
  .ofPending false
    [⟨.succeed (.ofRows ["a"] [[.null]]),
      some (0, [⟨some 1205, some "40001", "lost"⟩, .ofMessage "gone"]),
      some [.ofMessage "stuck"]⟩]

theorem bound_and_reported_brokenRow :
    ∃ statement started report,
      execute Script.driver.transcribed Options.generic
            ⟨"SELECT ?, ?", [.bool true, .text "true"]⟩ ⟨brokenRow, []⟩ =
          (.ok statement, started) ∧
        reportsOf
            (statement.use Script.driver.transcribed started .first).result =
          [report] ∧
        report.Describes ⟨"SELECT ?, ?", [.bool true, .text "true"]⟩ .fetch
          [⟨some 1205, some "40001", "lost"⟩, .ofMessage "gone"] ∧
        report.message = "Failed to fetch row: lost; gone" := by
  rcases bound_and_reported Script.driver Options.generic
      ⟨"SELECT ?, ?", [.bool true, .text "true"]⟩ ⟨brokenRow, []⟩ with
    ⟨_, _, used⟩
  rcases (used _ rfl []).2.2 .first with ⟨_, exchanges, calls, told⟩
  -- The calls of the execution stand in front of both.
  injection calls with _ calls
  injection calls with _ calls
  have failed :
      firstFailure? exchanges =
        some
          (.fetch, [⟨some 1205, some "40001", "lost"⟩, .ofMessage "gone"]) := by
    rw [← show _ = exchanges from calls]
    rfl
  rw [failed] at told
  rcases List.forall₂_cons_right_iff.1 told with
    ⟨report, _, described, none, shown⟩
  cases none
  exact ⟨_, _, report, rfl, shown, described, described.message_eq⟩

end Statement

end Sqlwright
