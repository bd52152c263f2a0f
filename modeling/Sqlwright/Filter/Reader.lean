import Sqlwright.Filter.Basic

/-!
# Filters written as documents

A filter can be written as a JSON object with a field for each column.  A
scalar demands equality, an array demands one of its scalars, and an object
names an operator in each field, with a scalar or an array of scalars to
compare with.  Fields are read in order, and the first mistake decides.
-/

namespace Sqlwright

/-- The operator with a tag, which has to be there. -/
def Operator.ofTag (tag : String) : Except Failure Operator :=
  match Operator.ofTag? tag with
  | some operator => .ok operator
  | none => .error (.argument (.unknownOperator tag))

namespace Filter

/-- A value of a document that is neither a list nor an object. -/
def readScalar (column : String) : Json → Except Failure Value
  | .array _ | .object _ => .error (.argument (.nestedValue column))
  | scalar => .ok (Value.ofJson scalar)

/-- The values of a list, none of which has parts. -/
def readScalars (column : String) (items : List Json) :
    Except Failure (List Value) :=
  items.mapM (readScalar column)

/-- What a column is compared with: a list of values, or one value. -/
def readOperand (column : String) : Json → Except Failure Operand
  | .array items => do pure (.list (← readScalars column items))
  | scalar => do pure (.value (← readScalar column scalar))

/-- One operator with what it compares with; its tag is looked at first. -/
def readComparison (column : String) (field : String × Json) :
    Except Failure (Operator × Operand) := do
  let operator ← Operator.ofTag field.1
  let operand ← readOperand column field.2
  pure (operator, operand)

/--
The condition of a column: a list, an object of comparisons, or one value.
-/
def readCondition (column : String) : Json → Except Failure Condition
  | .array items => do pure (.oneOf (← readScalars column items))
  | .object fields => do
      pure (.all (← fields.mapM (readComparison column)))
  | scalar => do pure (.value (← readScalar column scalar))

/-- The filter that a document writes. -/
def ofJson : Json → Except Failure Filter
  | .object fields =>
      fields.foldlM
        (fun filter (column, document) => do
          pure (filter.condition column (← readCondition column document)))
        empty
  | _ => .error (.argument .filterNotObject)

end Filter

end Sqlwright
