import Sqlwright.Dialect
import Sqlwright.Insertion.Batch
import Sqlwright.Query
import Sqlwright.Row

/-!
# Plans for inserting rows

`Dialect.planInsert` writes the statements that insert some rows, in order.
The first row decides about the columns; every other row has to name the same
columns, in any order, and its values are put into the order of the first row.
The rows are then grouped into batches as large as the limits allow, with one
statement for each batch.
-/

namespace Sqlwright

/-- One statement of a plan, and the number of rows that it inserts. -/
structure Batch where
  query : Query
  rowCount : Nat

/-- The statements that insert some rows, and how their ids are found. -/
structure InsertPlan where
  batches : List Batch
  retrieval : IdRetrieval

namespace Insertion

/-- The first name that occurs a second time. -/
def repeated? (seen : List String) : List String → Option String
  | [] => none
  | name :: rest =>
      if seen.contains name then some name else repeated? (name :: seen) rest

/-- The values of a row in the order of given columns, if it has these only. -/
def alignRow? (columns : List String) (row : Assignments) :
    Option (List Value) :=
  if row.length = columns.length then
    columns.mapM fun column => row.lookup column
  else
    none

/-- The values of rows, the first one of which has a given number. -/
def alignRows (columns : List String) (index : Nat) :
    List Assignments → Except Failure (List (List Value))
  | [] => .ok []
  | row :: rest =>
      match alignRow? columns row with
      | none => .error (.argument (.misalignedRow index))
      | some values => do
          pure (values :: (← alignRows columns (index + 1) rest))

/-- A placeholder for each column of a row, in parentheses. -/
def rowPlaceholders (columns : Nat) : String :=
  "(" ++ ",".intercalate (List.replicate columns "?") ++ ")"

/-- The placeholders of several rows. -/
def placeholders (columns rows : Nat) : String :=
  ",".intercalate (List.replicate rows (rowPlaceholders columns))

/--
One statement that inserts rows of values into quoted columns.  The way in
which ids are found adds to the statement what it needs.
-/
def writeInsert (style : QuoteStyle) (table : String) (quoted : List String)
    (rows : List (List Value)) (retrieval : IdRetrieval) :
    Except Failure Query := do
  let into := "INSERT INTO " ++ table ++ " (" ++ ", ".intercalate quoted ++ ")"
  let values := "VALUES " ++ placeholders quoted.length rows.length
  let sql ←
    match retrieval with
    | .outputTable column => do
        let id ← Identifier.quote style column
        pure
          ("DECLARE @ids TABLE(RowID int); " ++ into ++ " OUTPUT inserted." ++
            id ++ " INTO @ids(RowID) " ++ values ++ "; SELECT * FROM @ids;")
    | .returning column => do
        let id ← Identifier.quote style column
        pure (into ++ " " ++ values ++ " RETURNING " ++ id)
    | _ => pure (into ++ " " ++ values)
  pure ⟨sql, rows.flatten⟩

/-- The statement of a batch, with the number of its rows. -/
def writeBatch (style : QuoteStyle) (table : String) (quoted : List String)
    (retrieval : IdRetrieval) (rows : List (List Value)) :
    Except Failure Batch := do
  pure ⟨← writeInsert style table quoted rows retrieval, rows.length⟩

end Insertion

open Insertion in
/--
The statements that insert rows into a table.  Without rows there is nothing to
do and nothing is looked at; otherwise the table, the retrieval of ids, the
columns, the rows, the allow-list with the quoting, and the limits are looked
at in this order.
-/
def Dialect.planInsert (dialect : Dialect) (table : String)
    (rows : List Assignments) : Except Failure InsertPlan :=
  match rows with
  | [] => .ok ⟨[], .none⟩
  | first :: _ => do
      let options := dialect.options
      validateTable table
      let retrieval ← dialect.idRetrieval
      let columns := first.map Prod.fst
      match repeated? [] columns with
      | some column => .error (.argument (.repeatedColumn column))
      | none => do
          let aligned ← alignRows columns 0 rows
          let quoted ← options.quoteColumns columns
          let size ←
            batchSize columns.length rows.length options.maxBoundParams
              options.maxInsertRows
          let batches ←
            (partition size aligned).mapM
              (writeBatch options.quoteStyle table quoted retrieval)
          pure ⟨batches, retrieval⟩

end Sqlwright
