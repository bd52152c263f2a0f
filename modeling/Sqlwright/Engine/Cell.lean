import Sqlwright.Value

/-!
# Stored cells

A table stores five classes of values.  `Cell.ofValue` gives the cell that a
value is stored as, and `Cell.toValue` the value that a cell is read back as.
Integers, doubles, texts, bytes and null come back as they were; a boolean
comes back as an integer, and timestamps and documents as their texts.

Cells are ordered by class first: null, numbers, texts, bytes.  Numbers are
ordered by value whatever their class, texts by their characters, and bytes by
the first byte that differs.
-/

namespace Sqlwright.Engine

open Sqlwright.Decimal

/-- A stored value. -/
inductive Cell where
  | null
  | integer (value : Int64)
  | real (value : Binary64)
  | text (value : String)
  | blob (bytes : List UInt8)
  deriving DecidableEq

namespace Cell

/-- The cell that a value is stored in. -/
def ofValue : Value → Cell
  | .null => .null
  | .int value => .integer value
  | .float value => .real value
  | .text value => .text value
  | .bool value => .integer (if value then 1 else 0)
  | .timestamp value => .text (value.write " ")
  | .json document => .text document.compact
  | .binary bytes => .blob bytes

/-- The value that a cell is read as. -/
def toValue : Cell → Value
  | .null => .null
  | .integer value => .int value
  | .real value => .float value
  | .text value => .text value
  | .blob bytes => .binary bytes

/-- The name of the class of a cell. -/
def className : Cell → String
  | .null => "null"
  | .integer _ => "integer"
  | .real _ => "real"
  | .text _ => "text"
  | .blob _ => "blob"

/-- A cell as a table keeps it: a pattern that is no number is null. -/
def kept : Cell → Cell
  | .real value => if value.isNaN then .null else .real value
  | cell => cell

/-- The position of a class in the order of cells. -/
def rank : Cell → Nat
  | .null => 0
  | .integer _ | .real _ => 1
  | .text _ => 2
  | .blob _ => 3

/-- The order of lists by their first difference; a front part comes first. -/
def compareLists {α : Type} (compareItems : α → α → Ordering) :
    List α → List α → Ordering
  | [], [] => .eq
  | [], _ :: _ => .lt
  | _ :: _, [] => .gt
  | left :: lefts, right :: rights =>
      (compareItems left right).then (compareLists compareItems lefts rights)

/-- The order of cells: by class, and within a class by value. -/
def order (left right : Cell) : Ordering :=
  match left, right with
  | .integer left, .integer right => compare left.toInt right.toInt
  | .integer left, .real right => Binary64.compareInt left.toInt right
  | .real left, .integer right => (Binary64.compareInt right.toInt left).swap
  | .real left, .real right => left.compareValue right
  | .text left, .text right =>
      compareLists (fun a b => compare a.toNat b.toNat) left.toList right.toList
  | .blob left, .blob right =>
      compareLists (fun a b => compare a.toNat b.toNat) left right
  | left, right => compare left.rank right.rank

/-- The order of two cells as far as it is known; that of null is not. -/
def orderKnown? (left right : Cell) : Option Ordering :=
  if left = .null ∨ right = .null then none else some (left.order right)

/-- Whether two cells are equal in the order of cells. -/
def same (left right : Cell) : Bool :=
  match left, right with
  | .text left, .text right => left == right
  | left, right => left.order right == .eq

end Cell

end Sqlwright.Engine
