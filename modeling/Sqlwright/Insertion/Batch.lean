import Sqlwright.Failure

/-!
# Batches of rows

A backend limits the placeholders of one statement and the rows of one
statement, where zero means no limit.  `batchSize` is the greatest number of
rows that both limits allow, and `partition` cuts a list into consecutive
groups of that size, the last one possibly smaller.  No row is ever split,
and joining the groups gives the list back.
-/

namespace Sqlwright.Insertion

/-- A number bounded by a limit, of which zero is none. -/
def limited (limit value : Nat) : Nat :=
  if limit = 0 then value else min limit value

/--
The number of rows for one statement.  Rows need columns, and one row has to
fit into the limit of placeholders.
-/
def batchSize (columns rows maxParams maxRows : Nat) : Except Failure Nat :=
  if columns = 0 then
    .error (.argument .noColumns)
  else if 0 < maxParams ∧ maxParams < columns then
    .error (.argument (.rowTooWide columns maxParams))
  else
    .ok (limited (maxParams / columns) (limited maxRows (max rows 1)))

/-- Consecutive groups of `size` items, the last possibly smaller. -/
def partition {α : Type} (size : Nat) (items : List α) : List (List α) :=
  match items with
  | [] => []
  | first :: rest =>
      (first :: rest).take (max size 1) ::
        partition size ((first :: rest).drop (max size 1))
termination_by items.length
decreasing_by
  simp only [List.length_drop, List.length_cons]
  omega

@[simp]
theorem partition_nil {α : Type} (size : Nat) :
    partition size ([] : List α) = [] := by
  simp [partition]

theorem partition_cons {α : Type} (size : Nat) (first : α) (rest : List α) :
    partition size (first :: rest) =
      (first :: rest).take (max size 1) ::
        partition size ((first :: rest).drop (max size 1)) := by
  rw [partition]

/-- Joining the groups gives the list back. -/
theorem flatten_partition {α : Type} (size : Nat) (items : List α) :
    (partition size items).flatten = items := by
  fun_induction partition size items with
  | case1 => rfl
  | case2 first rest step =>
      rw [List.flatten_cons, step, List.take_append_drop]

end Sqlwright.Insertion
