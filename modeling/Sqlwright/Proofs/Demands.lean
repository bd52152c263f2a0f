import Sqlwright.Filter.Comparison
import Sqlwright.Proofs.Success

/-!
# What a filter demands

The comparisons that a filter stands for are found while its conditions are
checked.  Here they are listed without any checks: equality with null is
absence, equality with a list is membership, a list of patterns is one demand
for each pattern, and everything else is compared as it is.

A condition that is accepted stands for what it demands, and it demands
something.
-/

namespace Sqlwright

open Sqlwright.Success

/-- What an operator demands of a column with an operand. -/
def Operand.demands (operator : Operator) : Operand → List Test
  | .value .null =>
      match operator with
      | .equal => [.isNull]
      | .notEqual => [.isNotNull]
      | _ => [.compare operator .null]
  | .value single => [.compare operator single]
  | .list values =>
      match operator with
      | .equal => [.isIn values]
      | .notEqual => [.isNotIn values]
      | _ => values.map (.compare operator)

/-- What a condition demands: a value or a list is one for equality. -/
def Condition.demands : Condition → List Test
  | .value single => Operand.demands .equal (.value single)
  | .oneOf values => Operand.demands .equal (.list values)
  | .all comparisons =>
      comparisons.flatMap fun (operator, operand) => operand.demands operator

/-- What a filter demands of its columns, in their order. -/
def Filter.demands (filter : Filter) : List Comparison :=
  filter.entries.flatMap fun (column, condition) =>
    condition.demands.map (Comparison.mk column)

/-! ## Operators with operands -/

namespace Operator

theorem demands_value (operator : Operator) (value : Value) :
    Operand.demands operator (.value value) = [operator.testValue value] := by
  cases value with
  | null => cases operator <;> rfl
  | int _ | float _ | text _ | bool _ | timestamp _ | json _ | binary _ =>
      cases operator <;> rfl

theorem demands_list_ne_nil
    (operator : Operator) {values : List Value} (visible : values ≠ []) :
    Operand.demands operator (.list values) ≠ [] := by
  cases operator with
  | equal | notEqual => exact List.cons_ne_nil _ _
  | like | notLike | greaterOrEqual | greater | lessOrEqual | less =>
      exact fun nothing => visible (List.map_eq_nil_iff.1 nothing)

theorem testPattern_eq_ok
    {operator : Operator} {column : String} {pattern : Value} {test : Test}
    (tested : operator.testPattern column pattern = .ok test) :
    test = .compare operator pattern := by
  unfold testPattern at tested
  split at tested
  · cases tested
  · cases tested
    rfl

theorem testList_eq_ok
    {operator : Operator} {column : String} {values : List Value}
    {tests : List Test} (tested : operator.testList column values = .ok tests) :
    values ≠ [] ∧ tests = Operand.demands operator (.list values) := by
  unfold testList at tested
  split at tested
  · cases tested
  · rename_i visible
    have patterns
        (done : values.mapM (operator.testPattern column) = .ok tests) :
        tests = values.map (.compare operator) := by
      have same : tests.map id = values.map (.compare operator) :=
        map_eq_map_of_forall₂ (mapM_eq_ok.1 done) fun _ _ each =>
          testPattern_eq_ok each
      rwa [List.map_id] at same
    refine ⟨fun nothing => visible (List.isEmpty_iff.2 nothing), ?_⟩
    cases operator with
    | equal | notEqual =>
        cases tested
        rfl
    | like | notLike => exact patterns tested
    | greaterOrEqual | greater | lessOrEqual | less => cases tested

end Operator

theorem Operand.tests_eq_ok
    {operand : Operand} {column : String} {operator : Operator}
    {tests : List Test} (tested : operand.tests column operator = .ok tests) :
    tests = operand.demands operator ∧ tests ≠ [] := by
  cases operand with
  | value single =>
      simp only [Operand.tests] at tested
      split at tested
      · cases tested
      · cases tested
        exact ⟨(operator.demands_value single).symm, List.cons_ne_nil _ _⟩
  | list several =>
      rcases Operator.testList_eq_ok tested with ⟨visible, rfl⟩
      exact ⟨rfl, operator.demands_list_ne_nil visible⟩

/-! ## Conditions and filters -/

/-- An accepted condition stands for what it demands, which is not nothing. -/
theorem Condition.tests_eq_ok
    {condition : Condition} {column : String} {tests : List Test}
    (tested : condition.tests column = .ok tests) :
    tests = condition.demands ∧ tests ≠ [] := by
  cases condition with
  | value single =>
      cases tested
      exact ⟨(Operator.equal.demands_value single).symm, List.cons_ne_nil _ _⟩
  | oneOf values =>
      have listed : Operator.equal.testList column values = .ok tests := tested
      rcases Operator.testList_eq_ok listed with ⟨visible, rfl⟩
      exact ⟨rfl, Operator.equal.demands_list_ne_nil visible⟩
  | all comparisons =>
      simp only [Condition.tests] at tested
      split at tested
      · cases tested
      · rename_i visible
        simp only [bind_eq_ok, pure_eq_ok] at tested
        rcases tested with ⟨groups, each, rfl⟩
        have same :
            groups.map id =
              comparisons.map fun (operator, operand) =>
                operand.demands operator :=
          map_eq_map_of_forall₂ (mapM_eq_ok.1 each) fun _ _ done =>
            (Operand.tests_eq_ok done).1
        rw [List.map_id] at same
        refine ⟨by rw [same, demands, List.flatMap_def], ?_⟩
        rcases List.exists_mem_of_ne_nil comparisons
            (fun nothing => visible (List.isEmpty_iff.2 nothing)) with
          ⟨comparison, member⟩
        rcases exists_of_mem_of_mapM_eq_ok each member with
          ⟨group, listed, done⟩
        intro nothing
        exact
          (Operand.tests_eq_ok done).2
            (List.flatten_eq_nil_iff.1 nothing group listed)

/-- The comparisons that a filter stands for are what it demands. -/
theorem Filter.comparisons_eq_ok
    {filter : Filter} {comparisons : List Comparison}
    (compared : filter.comparisons = .ok comparisons) :
    comparisons = filter.demands := by
  simp only [Filter.comparisons, bind_eq_ok, pure_eq_ok] at compared
  rcases compared with ⟨groups, each, rfl⟩
  have same :
      groups.map id =
        filter.entries.map fun (column, condition) =>
          condition.demands.map (Comparison.mk column) :=
    map_eq_map_of_forall₂ (mapM_eq_ok.1 each) fun _ _ done => by
      rcases bind_eq_ok.1 done with ⟨tests, tested, written⟩
      rw [← pure_eq_ok.1 written, (Condition.tests_eq_ok tested).1]
      rfl
  rw [List.map_id] at same
  rw [same, demands, List.flatMap_def]

end Sqlwright
