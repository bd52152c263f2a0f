import Sqlwright.Value

/-!
# Rows

A `Row` pairs the column names of a result with one value for each.  Names may
repeat, as in the result of a join, and a row may hold fewer or more values
than there are names.

A value is found under the first column of its name.  `Row.entries` is the
row read as a finite map: each name once, with the value that belongs to its
last column.
-/

namespace Sqlwright

/-- The values of one result row, with the names of the result's columns. -/
structure Row where
  columns : List String
  values : List Value

namespace Row

/-- The position of the first column with a name. -/
def index? (row : Row) (name : String) : Option Nat :=
  row.columns.findIdx? (· == name)

/-- The value at a position. -/
def at? (row : Row) (index : Nat) : Option Value :=
  row.values[index]?

/--
The value under a name; of several columns of the name the first one counts.
-/
def get? (row : Row) (name : String) : Option Value :=
  (row.index? name).bind row.at?

/-- Replace the value under a name, or append a new entry. -/
def insertEntry (entries : List (String × Value)) (name : String)
    (value : Value) : List (String × Value) :=
  match entries with
  | [] => [(name, value)]
  | entry :: rest =>
      if entry.1 == name then (name, value) :: rest
      else entry :: insertEntry rest name value

/--
The row as a map: columns without a value have no entry, and of several values
under one name the last stays.
-/
def entries (row : Row) : List (String × Value) :=
  (row.columns.zip row.values).foldl
    (fun found pair => insertEntry found pair.1 pair.2)
    []

/-- The value of a name among the entries of a row. -/
def lookup? (row : Row) (name : String) : Option Value :=
  row.entries.lookup name

end Row

/-- Named values in order: a row to insert, or what an update sets. -/
abbrev Assignments := List (String × Value)

end Sqlwright
