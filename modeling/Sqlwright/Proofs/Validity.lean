import Sqlwright.Proofs.Checking
import Sqlwright.Proofs.Restriction

/-!
# Valid filters

`Filter.Admits` says when a column with its condition is valid: the column may
be named, and the condition demands something that makes sense.  The body of a
filter is written exactly if all of its columns are valid.

If it is not, the first column that is not valid decides, and of its checks the
first one that is not passed: the allow-list, the rules of quoting, and then
those of the condition in the order in which it is written.  Else the body is
the conjunction of what is written for each column on its own.
-/

namespace Sqlwright

open Sqlwright.Success

/-! ## Conditions that make sense -/

/-- What an operator can compare a column with. -/
def Operand.Suits (operator : Operator) : Operand → Prop
  | .value single => operator ∈ [.like, .notLike] → single ≠ .null
  | .list several =>
      several ≠ [] ∧
        operator ∈ [.equal, .notEqual, .like, .notLike] ∧
        (operator ∈ [.like, .notLike] → .null ∉ several)

/-- A condition that demands something, and of which each part makes sense. -/
def Condition.Valid : Condition → Prop
  | .value _ => True
  | .oneOf values => values ≠ []
  | .all comparisons =>
      comparisons ≠ [] ∧
        ∀ comparison ∈ comparisons, comparison.2.Suits comparison.1

/-- A column that statements may name, with a valid condition. -/
structure Filter.Admits (options : Options)
    (entry : String × Condition) : Prop where
  column : Nameable options entry.1
  condition : entry.2.Valid

/-! ## The checks of a condition -/

/-- Operators with a meaning for a list of values. -/
def Operator.takesLists : Operator → Bool
  | equal | notEqual | like | notLike => true
  | _ => false

/-- A pattern has to be there; other values may be null. -/
def Operator.patternCheck (column : String) (operator : Operator)
    (value : Value) : Check :=
  ⟨!(operator.isLike && value.isNull), .argument (.nullPattern operator column)⟩

/-- A list has to have items, before its operator and its items are checked. -/
def Operand.checks (column : String) (operator : Operator) :
    Operand → List Check
  | .value single => [operator.patternCheck column single]
  | .list several =>
      ⟨!several.isEmpty, .argument (.emptyConditions column)⟩ ::
        ⟨operator.takesLists, .argument (.listOperand operator column)⟩ ::
          several.map (operator.patternCheck column)

/-- The checks of a condition, in the order in which it is written. -/
def Condition.checks (column : String) : Condition → List Check
  | .value _ => []
  | .oneOf values => [⟨!values.isEmpty, .argument (.emptyConditions column)⟩]
  | .all comparisons =>
      ⟨!comparisons.isEmpty, .argument (.emptyConditions column)⟩ ::
        comparisons.flatMap fun comparison =>
          comparison.2.checks column comparison.1

/-- The checks of a column, and then those of its condition. -/
def Filter.entryChecks (options : Options) (entry : String × Condition) :
    List Check :=
  options.columnChecks entry.1 ++ entry.2.checks entry.1

/-! ## What the checks demand -/

theorem Value.isNull_eq_true_iff (value : Value) :
    value.isNull = true ↔ value = .null := by
  cases value <;> simp [isNull]

theorem Operator.isLike_eq_true_iff (operator : Operator) :
    operator.isLike = true ↔ operator ∈ [.like, .notLike] := by
  cases operator <;> decide

theorem Operator.takesLists_eq_true_iff (operator : Operator) :
    operator.takesLists = true ↔
      operator ∈ [.equal, .notEqual, .like, .notLike] := by
  cases operator <;> decide

theorem Operator.patternCheck_passed_iff
    (column : String) (operator : Operator) (value : Value) :
    (operator.patternCheck column value).passed = true ↔
      (operator ∈ [.like, .notLike] → value ≠ .null) := by
  rw [← operator.isLike_eq_true_iff, ← not_iff_not, patternCheck]
  simp [value.isNull_eq_true_iff]

theorem Operand.forall_checks_iff
    (column : String) (operator : Operator) (operand : Operand) :
    (∀ check ∈ operand.checks column operator, check.passed = true) ↔
      operand.Suits operator := by
  cases operand with
  | value single =>
      simp only [checks, List.forall_mem_singleton]
      exact operator.patternCheck_passed_iff column single
  | list several =>
      simp only [checks, List.forall_mem_cons, List.forall_mem_map,
        operator.patternCheck_passed_iff, operator.takesLists_eq_true_iff,
        Bool.not_eq_true', List.isEmpty_eq_false_iff, Suits]
      refine and_congr_right fun _ => and_congr_right fun _ => ?_
      constructor
      · intro visible isLike listed
        exact visible .null listed isLike rfl
      · rintro absent value listed isLike rfl
        exact absent isLike listed

theorem Condition.forall_checks_iff
    (column : String) (condition : Condition) :
    (∀ check ∈ condition.checks column, check.passed = true) ↔
      condition.Valid := by
  cases condition with
  | value single => simp [checks, Valid]
  | oneOf values => simp [checks, Valid]
  | all comparisons =>
      simp only [checks, List.forall_mem_cons, List.forall_mem_flatMap,
        Operand.forall_checks_iff, Bool.not_eq_true',
        List.isEmpty_eq_false_iff, Valid]

theorem Filter.forall_entryChecks_iff
    (options : Options) (entry : String × Condition) :
    (∀ check ∈ entryChecks options entry, check.passed = true) ↔
      Admits options entry := by
  rw [entryChecks, List.forall_mem_append, options.forall_columnChecks_iff,
    Condition.forall_checks_iff]
  constructor
  · rintro ⟨column, condition⟩
    exact ⟨column, condition⟩
  · rintro ⟨column, condition⟩
    exact ⟨column, condition⟩

/-! ## The checks decide -/

open Check

theorem Operator.decide_testPattern
    (column : String) (operator : Operator) (isLike : operator.isLike = true)
    (pattern : Value) :
    Decide [operator.patternCheck column pattern]
      (operator.testPattern column pattern) := by
  rw [patternCheck, isLike, Bool.true_and]
  exact .unless fun _ => .ok _

theorem Operator.decide_testList
    (column : String) (operator : Operator) (values : List Value) :
    Decide ((Operand.list values).checks column operator)
      (operator.testList column values) := by
  apply Decide.unless
  intro _
  have patterns (isLike : operator.isLike = true) :
      Decide (values.map (operator.patternCheck column))
        (values.mapM (operator.testPattern column)) := by
    rw [List.map_eq_flatMap]
    exact .mapM fun value _ => operator.decide_testPattern column isLike value
  have passed (isLike : operator.isLike = false) :
      ∀ check ∈ values.map (operator.patternCheck column),
        check.passed = true := by
    rw [List.forall_mem_map]
    intro value _
    simp [patternCheck, isLike]
  -- Lists of patterns are walked item by item; lists of other values are taken
  -- as they are, and the checks of their items cannot fail.
  cases operator with
  | equal | notEqual =>
      exact .of_passed (List.forall_mem_cons.2 ⟨rfl, passed rfl⟩) _
  | like | notLike => exact patterns rfl
  | greaterOrEqual | greater | lessOrEqual | less => rfl

theorem Operand.decide_tests
    (column : String) (operator : Operator) (operand : Operand) :
    Decide (operand.checks column operator)
      (operand.tests column operator) := by
  cases operand with
  | value single => exact .unless fun _ => .ok _
  | list several => exact operator.decide_testList column several

theorem Condition.decide_tests (column : String) (condition : Condition) :
    Decide (condition.checks column) (condition.tests column) := by
  cases condition with
  | value single => exact .ok _
  | oneOf values => exact .unless fun _ => .ok _
  | all comparisons =>
      apply Decide.unless
      intro _
      have groups :
          Decide
            (comparisons.flatMap fun comparison =>
              comparison.2.checks column comparison.1)
            (comparisons.mapM fun comparison =>
              comparison.2.tests column comparison.1) :=
        .mapM fun comparison _ =>
          comparison.2.decide_tests column comparison.1
      exact groups.before fun _ _ => .ok _

namespace Filter

variable (options : Options)

theorem decide_entryClauses (entry : String × Condition) :
    Decide (entryChecks options entry)
      (entryClauses options entry.1 entry.2) := by
  apply (options.decide_quoteColumn entry.1).bind
  intro quoted _
  apply (entry.2.decide_tests entry.1).before
  intro tests _
  exact .ok _

theorem decide_toWhere (filter : Filter) :
    Decide (filter.entries.flatMap (entryChecks options))
      (filter.toWhere options) := by
  have groups :
      Decide (filter.entries.flatMap (entryChecks options))
        (filter.entries.mapM fun entry =>
          entryClauses options entry.1 entry.2) :=
    .mapM fun entry _ => decide_entryClauses options entry
  have clauses :
      Decide (filter.entries.flatMap (entryChecks options))
        (filter.clauses options) :=
    groups.before fun _ _ => .ok _
  exact clauses.before fun _ _ => .ok _

/-! ## Columns on their own -/

/-- The filter with one column only. -/
def only (entry : String × Condition) : Filter :=
  empty.condition entry.1 entry.2

theorem toWhere_eq_map (filter : Filter) :
    filter.toWhere options =
      (filter.entries.mapM fun entry =>
        entryClauses options entry.1 entry.2).map
          fun groups => Clause.join groups.flatten := by
  rw [toWhere, clauses, bind_assoc]
  cases filter.entries.mapM fun entry =>
      entryClauses options entry.1 entry.2 with
  | error failure => rfl
  | ok groups => rfl

theorem toWhere_only (entry : String × Condition) :
    (only entry).toWhere options =
      (entryClauses options entry.1 entry.2).map Clause.join := by
  have single : (only entry).entries = [entry] := rfl
  rw [toWhere_eq_map, single, List.mapM_cons, List.mapM_nil]
  cases entryClauses options entry.1 entry.2 with
  | error failure => rfl
  | ok clauses =>
      exact
        congrArg (fun all => Except.ok (Clause.join all))
          (List.append_nil clauses)

end Filter

/-- Queries joined as conditions that all have to hold. -/
def Query.conjunction (parts : List Query) : Query :=
  ⟨" AND ".intercalate (parts.map Query.sql), parts.flatMap Query.params⟩

theorem Query.conjunction_cons
    (part : Query) {rest : List Query} (more : rest ≠ []) :
    conjunction (part :: rest) =
      ⟨part.sql ++ " AND " ++ (conjunction rest).sql,
        part.params ++ (conjunction rest).params⟩ := by
  rcases List.exists_cons_of_ne_nil more with ⟨next, others, rfl⟩
  simp only [conjunction, List.map_cons, String.intercalate_cons_cons,
    List.flatMap_cons]

theorem Clause.join_append
    {left right : List Clause} (first : left ≠ []) (second : right ≠ []) :
    join (left ++ right) =
      ⟨(join left).sql ++ " AND " ++ (join right).sql,
        (join left).params ++ (join right).params⟩ := by
  have leftTexts : left.map Clause.sql ≠ [] := by
    rwa [ne_eq, List.map_eq_nil_iff]
  have rightTexts : right.map Clause.sql ≠ [] := by
    rwa [ne_eq, List.map_eq_nil_iff]
  simp only [join, List.map_append, List.flatMap_append,
    String.intercalate_append_of_ne_nil leftTexts rightTexts]

/-- Clauses in groups are joined group by group. -/
theorem Clause.join_flatten
    {groups : List (List Clause)} (visible : ∀ group ∈ groups, group ≠ []) :
    join groups.flatten = Query.conjunction (groups.map join) := by
  induction groups with
  | nil => rfl
  | cons group rest step =>
      rw [List.forall_mem_cons] at visible
      rw [List.flatten_cons, List.map_cons]
      cases rest with
      | nil => simp [Query.conjunction]
      | cons next others =>
          have more : (next :: others).flatten ≠ [] := by
            rw [List.flatten_cons]
            exact
              List.append_ne_nil_of_left_ne_nil
                (visible.2 next List.mem_cons_self) _
          have mapped : (next :: others).map join ≠ [] :=
            List.cons_ne_nil _ _
          rw [join_append visible.1 more, step visible.2,
            Query.conjunction_cons _ mapped]

namespace Filter

variable (options : Options)

theorem entryClauses_ne_nil
    {entry : String × Condition} {clauses : List Clause}
    (written : entryClauses options entry.1 entry.2 = .ok clauses) :
    clauses ≠ [] := by
  rcases entryClauses_eq_ok written with ⟨tests, tested, rfl⟩
  rw [ne_eq, List.map_eq_nil_iff, List.map_eq_nil_iff]
  exact (Condition.tests_eq_ok tested).2

theorem toWhere_eq_conjunction (filter : Filter) :
    filter.toWhere options =
      (filter.entries.mapM fun entry => (only entry).toWhere options).map
        Query.conjunction := by
  simp only [toWhere_only]
  rw [mapM_map, toWhere_eq_map]
  cases written :
      filter.entries.mapM fun entry => entryClauses options entry.1 entry.2 with
  | error failure => rfl
  | ok groups =>
      have visible : ∀ group ∈ groups, group ≠ [] :=
        forall_of_mapM_eq_ok written fun _ _ _ done =>
          entryClauses_ne_nil options done
      exact congrArg Except.ok (Clause.join_flatten visible)

/--
The body of a filter is decided column by column.  It is written exactly if all
entries are valid; a failure is that of the first check not passed of the first
entry that is not valid; and what is written, or the failure, is what comes out
of the entries on their own, in order, joined as conditions.
-/
theorem toWhere_by_entry (filter : Filter) :
    ((∃ body, filter.toWhere options = .ok body) ↔
        ∀ entry ∈ filter.entries, Admits options entry) ∧
      (∀ failure,
        filter.toWhere options = .error failure ↔
          ∃ front entry back, filter.entries = front ++ entry :: back ∧
            (∀ earlier ∈ front, Admits options earlier) ∧
            Check.first? (entryChecks options entry) = some failure) ∧
      filter.toWhere options =
        (filter.entries.mapM fun entry => (only entry).toWhere options).map
          Query.conjunction := by
  have decided := decide_toWhere options filter
  refine ⟨?_, ?_, toWhere_eq_conjunction options filter⟩
  · rw [decided.exists_iff, List.forall_mem_flatMap]
    simp only [forall_entryChecks_iff]
  · intro failure
    rw [decided.error_iff, Check.first?_flatMap_eq_some_iff]
    simp only [forall_entryChecks_iff]

/-- A list without items is refused before its operator is looked at. -/
example :
    ((empty.equals "a" .null).compare "b" .less (.list [])).toWhere
        Options.generic =
      .error (.argument (.emptyConditions "b")) :=
  rfl

end Filter

end Sqlwright
