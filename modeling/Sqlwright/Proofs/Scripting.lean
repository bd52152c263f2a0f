import Sqlwright.Proofs.Delivery
import Sqlwright.Session.Scripted

/-!
# Statements on a script

A scripted connection answers a statement with the next outcome of its script.
The lemmas of this module say what a statement gets of that outcome: whether it
can be prepared and executed, and which rows it stands before.
-/

namespace Sqlwright

namespace Script

variable {script after : Script} {cursor next : Cursor} {sql : String}
  {params : List Value}

/-- A prepared statement has the outcome that is the next one of the script. -/
theorem outcome_of_prepare
    (prepared : prepare sql script = (.ok cursor, after)) :
    cursor.outcome = script.pending.head?.map Scripted.outcome ∧
      after.echoes = script.echoes := by
  unfold prepare at prepared
  dsimp only at prepared
  split at prepared
  · cases prepared
  · cases prepared
    exact ⟨rfl, rfl⟩

/-- An executed statement has the answer of its outcome, and all rows of it. -/
theorem answer_of_execute
    (executed : execute cursor params script = (.ok next, after)) :
    answer script.echoes params cursor.outcome = .ok next.answer ∧
      next.rows = next.answer.rows := by
  unfold execute at executed
  dsimp only at executed
  split at executed
  · cases executed
  · rename_i found given
    cases executed
    exact ⟨given, rfl⟩

/-- A cursor stands before the rows that its answer has left. -/
theorem supplies (cursor : Cursor) (script : Script) :
    driver.Supplies cursor.rows cursor script := by
  rcases cursor with ⟨sql, outcome, answer, rows, fetched, failFetch, failClose⟩
  induction rows generalizing fetched script with
  | nil =>
      intro found given
      simp only [driver, fetch] at given
      split at given
      · split at given <;> cases given
        rfl
      · cases given
        rfl
  | cons values rows induction =>
      intro found given
      simp only [driver, fetch] at given
      split at given
      · split at given <;> cases given
        exact ⟨_, rfl, induction _ _⟩
      · cases given
        exact ⟨_, rfl, induction _ _⟩

/-! ## Calls that succeed -/

/-- A connection later on, as far as fetching and closing do not change it. -/
structure Continues (before after : Script) : Prop where
  pending_eq : after.pending = before.pending
  executed_eq : after.executed = before.executed

theorem Continues.trans {before between after : Script}
    (first : Continues before between) (second : Continues between after) :
    Continues before after where
  pending_eq := second.pending_eq.trans first.pending_eq
  executed_eq := second.executed_eq.trans first.executed_eq

theorem continues_close (cursor : Cursor) (script : Script) :
    Continues script (close cursor script).2 := by
  unfold close
  dsimp only
  split
  · exact ⟨rfl, rfl⟩
  · exact ⟨rfl, rfl⟩

theorem exists_close (lasting : cursor.failClose = none) (script : Script) :
    ∃ after,
      close cursor script = (.ok (), after) ∧ Continues script after := by
  refine ⟨(close cursor script).2, ?_, continues_close cursor script⟩
  simp only [close, lasting]

theorem fetch_of_ne
    (fetchable :
      ∀ index errors,
        cursor.failFetch = some (index, errors) → index ≠ cursor.fetched)
    (script : Script) :
    fetch cursor script =
      (.ok
        (match cursor.rows with
        | [] => none
        | values :: rows =>
            some
              (values,
                { cursor with rows := rows, fetched := cursor.fetched + 1 })),
        script.called) := by
  unfold fetch
  dsimp only
  split
  · rename_i index errors failing
    exact if_neg (fetchable index errors failing)
  · rfl

/-- All rows can be fetched if the one that fails is behind them. -/
theorem exists_fetches
    (cursor : Cursor) (script : Script)
    (fetchable :
      ∀ index errors,
        cursor.failFetch = some (index, errors) →
          cursor.fetched + cursor.rows.length < index) :
    ∃ last after,
      driver.Fetches cursor script cursor.rows last after ∧
        last.failClose = cursor.failClose ∧ Continues script after := by
  rcases cursor with ⟨sql, outcome, answer, rows, fetched, failFetch, failClose⟩
  induction rows generalizing fetched script with
  | nil =>
      refine ⟨_, _, .done (fetch_of_ne ?_ script), rfl, rfl, rfl⟩
      intro index errors failing
      have behind := fetchable index errors failing
      simp only [List.length_nil] at behind ⊢
      omega
  | cons values rows induction =>
      simp only [List.length_cons] at fetchable
      have later :
          ∀ index errors,
            failFetch = some (index, errors) →
              fetched + 1 + rows.length < index := by
        intro index errors failing
        have behind := fetchable index errors failing
        omega
      rcases induction script.called (fetched + 1) later with
        ⟨last, after, fetches, same, continues⟩
      refine
        ⟨last, after, .row (fetch_of_ne ?_ script) fetches, same,
          continues.pending_eq, continues.executed_eq⟩
      intro index errors failing
      have behind := fetchable index errors failing
      simp only
      omega

/-- The cursor of a statement that has been answered. -/
def answered (sql : String) (scripted : Scripted) (answer : Answer) : Cursor :=
  { Script.cursor sql (some scripted) with
    answer := answer
    rows := answer.rows }

/-- A query is answered as the next entry of the script says. -/
theorem exists_starts
    (options : Options) (query : Query) {scripted : Scripted}
    {rest : List Scripted} {answer : Answer}
    (pending : script.pending = scripted :: rest)
    (succeeds : scripted.outcome = .succeed answer) :
    ∃ started,
      driver.Starts options query script (answered query.sql scripted answer)
          started ∧
        started.pending = rest ∧
        started.executed =
          script.executed ++
            [⟨query.sql, Statement.boundValues options query.params⟩] := by
  rcases scripted with ⟨outcome, failFetch, failClose⟩
  rcases script with
    ⟨entries, echoes, executed, calls, opened, maxOpened, closes,
      transactions, failTransactions, configured⟩
  cases succeeds
  cases pending
  refine
    ⟨_, ⟨Script.cursor query.sql (some ⟨.succeed answer, failFetch, failClose⟩),
      _, rfl, rfl⟩, rfl, rfl⟩

end Script

namespace Statement

/-- The rows of a statement are those of the answer that it was given. -/
theorem supplies_of_script
    {options : Options} {query : Query} {script started : Script}
    {statement : Statement Script.Cursor}
    (executed :
      execute Script.driver options query script = (.ok statement, started)) :
    ∃ answer,
      Script.answer script.echoes (boundValues options query.params)
            (script.pending.head?.map Scripted.outcome) =
          .ok answer ∧
        statement.columns = answer.columns ∧
          statement.Supplies Script.driver
            (if answer.columns.isSome then answer.rows else []) started := by
  rcases starts_of_execute executed with
    ⟨cursor, between, ⟨prepared, bound, preparation, execution⟩, result⟩
  rcases Script.outcome_of_prepare preparation with ⟨outcome, echoes⟩
  rcases Script.answer_of_execute execution with ⟨answered, rows⟩
  rw [outcome, echoes] at answered
  refine ⟨cursor.answer, answered, ?_⟩
  rcases result with ⟨columns, rfl, rfl⟩ | ⟨columns, finished⟩
  · constructor
    · rfl
    · have some : cursor.answer.columns.isSome = true := columns
      rw [if_pos some, ← rows]
      exact Script.supplies cursor started
  · have none : cursor.answer.columns = none := columns
    have follows :=
      follows_finish Script.driver
        (ofCursor Script.driver options query cursor) between
    have closed :
        ((ofCursor Script.driver options query cursor).finish Script.driver
          between).statement.isClosed = true :=
      isClosed_finish between
    rw [finished] at follows closed
    constructor
    · exact follows.columns_eq
    · rw [none]
      exact (supplies_of_isClosed closed).2 rfl

end Statement

end Sqlwright
