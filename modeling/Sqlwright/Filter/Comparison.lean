import Sqlwright.Filter.Basic
import Sqlwright.Options
import Sqlwright.Query

/-!
# Comparisons

A filter stands for an ordered list of `Comparison`s, each of one column.  A
condition with a null is a test for absence, and a list of patterns is one
comparison for each pattern, since patterns have no list form.
`Condition.tests` gives the comparisons of one column or the reason why the
condition makes no sense.

`Filter.toWhere` is the body of a `WHERE`: the comparisons in order, each with a
quoted column and placeholders for its values.  For each column the
allow-list, the quoting and the condition are looked at in this order, and the
first refusal decides.
-/

namespace Sqlwright

/-- What a comparison asks of its column. -/
inductive Test where
  | compare (operator : Operator) (value : Value)
  | isNull
  | isNotNull
  | isIn (values : List Value)
  | isNotIn (values : List Value)

/-- A test of one column. -/
structure Comparison where
  column : String
  test : Test

namespace Test

/-- Placeholders for a list of values, with commas between them. -/
def placeholders (count : Nat) : String :=
  ",".intercalate (List.replicate count "?")

/-- What follows the column in a statement. -/
def sql : Test → String
  | compare operator _ => " " ++ operator.sql ++ " ?"
  | isNull => " IS NULL"
  | isNotNull => " IS NOT NULL"
  | isIn values => " IN(" ++ placeholders values.length ++ ")"
  | isNotIn values => " NOT IN(" ++ placeholders values.length ++ ")"

/-- The values of the placeholders, in order. -/
def params : Test → List Value
  | compare _ value => [value]
  | isNull | isNotNull => []
  | isIn values | isNotIn values => values

end Test

/-- The test for one value; equality with null is a test for absence. -/
def Operator.testValue (operator : Operator) (value : Value) : Test :=
  match operator, value with
  | .equal, .null => .isNull
  | .notEqual, .null => .isNotNull
  | _, _ => .compare operator value

/-- The test for a pattern, which has to be there. -/
def Operator.testPattern (column : String) (operator : Operator)
    (pattern : Value) : Except Failure Test :=
  if pattern.isNull then
    .error (.argument (.nullPattern operator column))
  else
    .ok (.compare operator pattern)

/--
The tests for a list of values, for the operators that lists have a meaning for.
-/
def Operator.testList (column : String) (operator : Operator)
    (values : List Value) : Except Failure (List Test) :=
  if values.isEmpty then
    .error (.argument (.emptyConditions column))
  else
    match operator with
    | .equal => .ok [.isIn values]
    | .notEqual => .ok [.isNotIn values]
    | .like | .notLike => values.mapM (operator.testPattern column)
    | _ => .error (.argument (.listOperand operator column))

/-- The tests that an operator with an operand stands for, in order. -/
def Operand.tests (column : String) (operator : Operator) :
    Operand → Except Failure (List Test)
  | .value single =>
      if operator.isLike && single.isNull then
        .error (.argument (.nullPattern operator column))
      else
        .ok [operator.testValue single]
  | .list several => operator.testList column several

/-- The tests that a condition stands for, in order. -/
def Condition.tests (column : String) : Condition → Except Failure (List Test)
  | .value single => .ok [Operator.equal.testValue single]
  | .oneOf values => Operator.equal.testList column values
  | .all comparisons =>
      if comparisons.isEmpty then
        .error (.argument (.emptyConditions column))
      else do
        let tests ← comparisons.mapM
          fun (operator, operand) => operand.tests column operator
        pure tests.flatten

/-- A piece of a condition with the values of its placeholders. -/
structure Clause where
  sql : String
  params : List Value

/-- Pieces of a condition that have to hold together. -/
def Clause.join (clauses : List Clause) : Query :=
  { sql := " AND ".intercalate (clauses.map Clause.sql)
    params := clauses.flatMap Clause.params }

/-- A test behind the quoted column that it is about. -/
def Test.clause (quoted : String) (test : Test) : Clause :=
  ⟨quoted ++ test.sql, test.params⟩

namespace Filter

/--
The clauses of one column, which is quoted before its condition is looked at.
-/
def entryClauses (options : Options) (column : String) (condition : Condition) :
    Except Failure (List Clause) := do
  let quoted ← options.quoteColumn column
  let tests ← condition.tests column
  pure (tests.map (Test.clause quoted))

/-- The clauses of all columns, in order. -/
def clauses (options : Options) (filter : Filter) :
    Except Failure (List Clause) := do
  let groups ← filter.entries.mapM
    fun (column, condition) => entryClauses options column condition
  pure groups.flatten

/-- The body of a `WHERE`; a filter without columns has an empty one. -/
def toWhere (options : Options) (filter : Filter) : Except Failure Query := do
  pure (Clause.join (← filter.clauses options))

/-- The comparisons that a filter stands for, in order. -/
def comparisons (filter : Filter) : Except Failure (List Comparison) := do
  let groups ← filter.entries.mapM fun (column, condition) => do
    pure ((← condition.tests column).map (Comparison.mk column))
  pure groups.flatten

end Filter

end Sqlwright
