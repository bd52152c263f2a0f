import Sqlwright.Engine.Command
import Sqlwright.Engine.Pattern

/-!
# Tests of rows

A `Test` is one part of a `WHERE` after names have become positions and
placeholders cells.  Its truth may be unknown, because nothing is known of null:
comparing with null is unknown, and so is a membership that is not found among
values of which one is null.

Only rows of which all tests are true are taken.
-/

namespace Sqlwright.Engine

/-- A cell of a row, by its position, or a cell that is the same for all rows. -/
inductive Scalar where
  | column (index : Nat)
  | constant (cell : Cell)
  deriving DecidableEq

/-- The cell of a scalar in a row; a row that is too short has null there. -/
def Scalar.of (cells : List Cell) : Scalar → Cell
  | column index => cells[index]?.getD .null
  | constant cell => cell

/-- Whether a relation holds of two cells in an order. -/
def Relation.holds : Relation → Ordering → Bool
  | equal, ordering => ordering.isEq
  | notEqual, ordering => ordering.isNe
  | greater, ordering => ordering.isGT
  | greaterOrEqual, ordering => ordering.isGE
  | less, ordering => ordering.isLT
  | lessOrEqual, ordering => ordering.isLE

/-- One part of a `WHERE`; negated tests are those with a `NOT`. -/
inductive Test where
  | relation (subject : Scalar) (relation : Relation) (cell : Cell)
  | like (negated : Bool) (subject : Scalar) (pattern : Cell)
  | member (negated : Bool) (subject : Scalar) (cells : List Cell)
  | absent (negated : Bool) (subject : Scalar)
  deriving DecidableEq

namespace Test

/-- A truth value, or its opposite; what is unknown stays unknown. -/
def negate (negated : Bool) (truth : Option Bool) : Option Bool :=
  truth.map fun known => negated != known

/-- Whether a cell is one of several, as far as this is known. -/
def isAmong? (cell : Cell) (cells : List Cell) : Option Bool :=
  if cells.isEmpty then some false
  else if cell = .null then none
  else if cells.any cell.same then some true
  else if cells.contains .null then none
  else some false

/-- Whether a test holds of a row, as far as that is known. -/
def truth? (cells : List Cell) : Test → Option Bool
  | relation subject sign cell =>
      ((subject.of cells).orderKnown? cell).map sign.holds
  | like negated subject pattern =>
      negate negated (Pattern.isLike? (subject.of cells) pattern)
  | member negated subject members =>
      negate negated (isAmong? (subject.of cells) members)
  | absent negated subject =>
      negate negated (some (subject.of cells == .null))

/-- Whether a test is true of a row. -/
def accepts (cells : List Cell) (test : Test) : Bool :=
  test.truth? cells == some true

end Test

/-- Whether all tests are true of a row. -/
def passes (tests : List Test) (cells : List Cell) : Bool :=
  tests.all (Test.accepts cells)

end Sqlwright.Engine
