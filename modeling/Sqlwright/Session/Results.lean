/-!
# Results of inserts

What is known after inserting rows: the generated ids in the order of the
rows, the number of rows that the backend counted, and the number of
statements that were needed.
-/

namespace Sqlwright

/-- The result of inserting any number of rows. -/
structure BulkInsert where
  /-- No ids if the table generates none. -/
  ids : List Int64
  affected : Int
  queries : Nat
  deriving DecidableEq

/-- The result of inserting one row; the id is zero if none was generated. -/
structure SingleInsert where
  id : Int64
  affected : Int
  deriving DecidableEq

/-- The result without an id or a row. -/
def SingleInsert.none : SingleInsert :=
  ⟨0, 0⟩

/-- The result of inserting rows, seen as that of their first one. -/
def BulkInsert.toSingle (bulk : BulkInsert) : SingleInsert :=
  ⟨bulk.ids.head?.getD 0, bulk.affected⟩

end Sqlwright
