import Sqlwright.Dialect
import Sqlwright.Filter.Comparison
import Sqlwright.Row
import Sqlwright.Select

/-!
# Updates and deletes

`Dialect.update` writes a statement that sets columns of the rows of a filter;
it refuses to write one for a whole table.  `Dialect.delete` writes a statement
that deletes the rows of a filter, all of them if the filter is empty.
-/

namespace Sqlwright

/-- One column that an update sets. -/
def writeAssignment (options : Options) (column : String) :
    Except Failure String := do
  pure ((← options.quoteColumn column) ++ " = ?")

/-- The list of columns that an update sets. -/
def writeAssignments (options : Options) (assignments : Assignments) :
    Except Failure String := do
  let parts ← assignments.mapM fun entry => writeAssignment options entry.1
  pure (", ".intercalate parts)

/-- The statement that sets columns of the rows of a filter. -/
def Dialect.update (dialect : Dialect) (table : String)
    (assignments : Assignments) (filter : Filter) : Except Failure Query := do
  validateTable table
  if assignments.isEmpty then
    .error (.argument .emptySet)
  else if filter.isEmpty then
    .error (.argument .emptyFilter)
  else do
    let changes ← writeAssignments dialect.options assignments
    let condition ← filter.toWhere dialect.options
    pure
      { sql :=
          "UPDATE " ++ table ++ " SET " ++ changes ++ " WHERE " ++ condition.sql
        params := assignments.map Prod.snd ++ condition.params }

/-- The statement that deletes the rows of a filter. -/
def Dialect.delete (dialect : Dialect) (table : String) (filter : Filter) :
    Except Failure Query := do
  validateTable table
  let condition ← filter.toWhere dialect.options
  pure
    { sql :=
        "DELETE FROM " ++ table ++ optionalPart " WHERE " condition.sql
      params := condition.params }

end Sqlwright
