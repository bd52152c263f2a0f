import Sqlwright.Dialect
import Sqlwright.Filter.Comparison

/-!
# Selects

A `Selection` says what to select: columns of a table, or a statement that the
caller has written, and then which rows, in which order, and which page of
them.  `Dialect.select` writes the statement.

The direction of a sort item is a text, `asc` or `desc` in letters of any case,
and is looked at when the statement is written.  A page is only asked for in a
sorted result.
-/

namespace Sqlwright

/-- A column to sort by, and a word for the direction. -/
structure SortItem where
  column : String
  direction : String
  deriving DecidableEq

namespace SortItem

/-- A column to sort by from its least value on. -/
def ascending (column : String) : SortItem :=
  ⟨column, "asc"⟩

/-- A column to sort by from its greatest value on. -/
def descending (column : String) : SortItem :=
  ⟨column, "desc"⟩

/-- The keyword of a direction, whose letters may have any case. -/
def keyword? (item : SortItem) : Option String :=
  let direction := Text.lower item.direction
  if direction = "asc" then some "ASC"
  else if direction = "desc" then some "DESC"
  else none

/-- A sort item in a statement: allow-list, direction, and quoting in this order. -/
def write (options : Options) (item : SortItem) : Except Failure String := do
  options.validateColumn item.column
  match item.keyword? with
  | none => .error (.argument (.badDirection item.direction item.column))
  | some keyword => do
      let quoted ← Identifier.quote options.quoteStyle item.column
      pure (quoted ++ " " ++ keyword)

end SortItem

/-- The body of an `ORDER BY`; without items it is empty. -/
def writeOrder (options : Options) (items : List SortItem) :
    Except Failure String := do
  pure (", ".intercalate (← items.mapM (SortItem.write options)))

/-- What rows are selected from. -/
inductive Source where
  /-- Columns of a table; none named means all. -/
  | table (name : String) (columns : List String)
  /-- A statement without conditions, which the caller has written. -/
  | query (sql : String)
  deriving DecidableEq

/-- What to select: from where, which rows, in which order, and which page. -/
structure Selection where
  source : Source
  filter : Filter
  order : List SortItem
  page : Option Page

namespace Selection

/-- All that a source has, in no order. -/
def ofSource (source : Source) : Selection :=
  ⟨source, Filter.empty, [], none⟩

/-- All columns and rows of a table. -/
def ofTable (name : String) : Selection :=
  ofSource (.table name [])

/-- All rows of a statement that the caller has written. -/
def ofQuery (sql : String) : Selection :=
  ofSource (.query sql)

/-- The selection of some columns; a written statement has its own. -/
def withColumns (selection : Selection) (columns : List String) : Selection :=
  match selection.source with
  | .table name _ => { selection with source := .table name columns }
  | .query _ => selection

end Selection

/-- The head of a select, up to the name of the table. -/
def Source.write (options : Options) : Source → Except Failure String
  | .table name columns => do
      validateTable name
      if columns.isEmpty then
        pure ("SELECT * FROM " ++ name)
      else
        let quoted ← options.quoteColumns columns
        pure ("SELECT " ++ ", ".intercalate quoted ++ " FROM " ++ name)
  | .query sql =>
      if Text.isBlank sql then .error (.argument .blankSelect) else .ok sql

/-- A part of a statement behind a keyword, unless the part is empty. -/
def optionalPart (keyword body : String) : String :=
  if body.isEmpty then "" else keyword ++ body

/-- The tail that asks for a page; only a sorted result has pages. -/
def Dialect.pageTail (dialect : Dialect) (order : String) :
    Option Page → Except Failure String
  | none => .ok ""
  | some page =>
      if order.isEmpty then
        .error (.argument .unsortedPage)
      else
        .ok (" " ++ dialect.paginate page)

/--
The statement of a selection: its parts are written, and refused, in their
order.
-/
def Dialect.select (dialect : Dialect) (selection : Selection) :
    Except Failure Query := do
  let head ← selection.source.write dialect.options
  let condition ← selection.filter.toWhere dialect.options
  let order ← writeOrder dialect.options selection.order
  let page ← dialect.pageTail order selection.page
  pure
    { sql :=
        head ++ optionalPart " WHERE " condition.sql ++
          optionalPart " ORDER BY " order ++ page
      params := condition.params }

/-- A statement that the caller has written, with the conditions of a filter. -/
def Dialect.selectFrom (dialect : Dialect) (sql : String) (filter : Filter) :
    Except Failure Query :=
  dialect.select { Selection.ofQuery sql with filter := filter }

end Sqlwright
