import Sqlwright.Change
import Sqlwright.Insertion.Plan
import Sqlwright.Select

/-!
# Requests

A `Request` is one thing that a dialect can be asked to write: the body of a
`WHERE`, a select, an update, a delete, or the batches of an insertion.
`Request.write` gives the queries that are written for it.

Two kinds of text of the caller get into a statement.  `Request.sources` are
the texts that are taken as they are: the name of a table, or a statement to
add conditions to.  `Request.names` are the identifiers that are quoted.
-/

namespace Sqlwright

/-- What a dialect can be asked to write. -/
inductive Request where
  | condition (filter : Filter)
  | select (selection : Selection)
  | selectFrom (sql : String) (filter : Filter)
  | update (table : String) (assignments : Assignments) (filter : Filter)
  | delete (table : String) (filter : Filter)
  | insert (table : String) (rows : List Assignments)

/-- The text of a source that is taken as it is. -/
def Source.text : Source → String
  | table name _ => name
  | query sql => sql

/-- The columns of a source that are selected by name. -/
def Source.columns : Source → List String
  | table _ columns => columns
  | query _ => []

/-- The columns that a filter names. -/
def Filter.columns (filter : Filter) : List String :=
  filter.entries.map Prod.fst

/-- The column that a retrieval of ids names. -/
def IdRetrieval.columns : IdRetrieval → List String
  | outputTable column | returning column => [column]
  | _ => []

/-- The column in which a dialect finds the ids of inserted rows. -/
def Dialect.idColumns (dialect : Dialect) : List String :=
  match dialect.idRetrieval with
  | .ok retrieval => retrieval.columns
  | .error _ => []

namespace Request

/-- The queries that a dialect writes; only an insertion has several. -/
def write (dialect : Dialect) : Request → Except Failure (List Query)
  | condition filter => (filter.toWhere dialect.options).map ([·])
  | select selection => (dialect.select selection).map ([·])
  | selectFrom sql filter => (dialect.selectFrom sql filter).map ([·])
  | update table assignments filter =>
      (dialect.update table assignments filter).map ([·])
  | delete table filter => (dialect.delete table filter).map ([·])
  | insert table rows =>
      (dialect.planInsert table rows).map fun plan =>
        plan.batches.map Batch.query

/-- The texts that get into the statements as they are. -/
def sources : Request → List String
  | condition _ => []
  | select selection => [selection.source.text]
  | selectFrom sql _ => [sql]
  | update table _ _ | delete table _ | insert table _ => [table]

/-- The identifiers that get into the statements in quotes. -/
def names (dialect : Dialect) : Request → List String
  | condition filter | selectFrom _ filter | delete _ filter => filter.columns
  | select selection =>
      selection.source.columns ++ selection.filter.columns ++
        selection.order.map SortItem.column
  | update _ assignments filter =>
      assignments.map Prod.fst ++ filter.columns
  | insert _ rows =>
      (rows.head?.getD []).map Prod.fst ++ dialect.idColumns

end Request

end Sqlwright
