import Sqlwright.Engine.Cell
import Sqlwright.Engine.Fault
import Sqlwright.Text.Ascii

/-!
# Stored tables

A `Table` holds rows of cells in ascending order of their ids.  A column of
the table may show the id of its row; in other tables the id stays hidden.

`Table.insert` and `Table.replace` check the constraints of a row in a fixed
order: that its id is an integer, that no column that needs a value is null,
that no other row has its id, and that no other row has its cell in a column
without repetitions.  So every row that they place has an id of its own, and the
order is kept.  The id that a row gets if it brings none is behind all others.
-/

namespace Sqlwright.Engine

/-- A column with the constraints of its cells. -/
structure Column where
  name : String
  /-- Whether the column shows the id of the row. -/
  isId : Bool
  notNull : Bool
  unique : Bool
  deriving DecidableEq

/-- What to do with a row that breaks a constraint. -/
inductive Policy where
  | abort
  | ignore
  /-- Delete the rows in conflict first. -/
  | replace
  deriving DecidableEq

/-- The cells of a row, with the id that it is stored under. -/
structure StoredRow where
  id : Int
  cells : List Cell
  deriving DecidableEq

namespace StoredRow

/-- The ids of rows ascend, so no two rows have the same one. -/
def Ascending (rows : List StoredRow) : Prop :=
  rows.Pairwise fun left right => left.id < right.id

/-- Put a row in front of the first one that has a greater id. -/
def place (row : StoredRow) : List StoredRow → List StoredRow
  | [] => [row]
  | first :: rest =>
      if row.id < first.id then row :: first :: rest
      else first :: place row rest

theorem mem_place (row other : StoredRow) (rows : List StoredRow) :
    other ∈ place row rows ↔ other = row ∨ other ∈ rows := by
  induction rows with
  | nil => simp [place]
  | cons first rest step =>
      unfold place
      split
      · exact List.mem_cons
      · rw [List.mem_cons, List.mem_cons, step]
        exact or_left_comm

/-- A row with an id of its own keeps the rows ascending. -/
theorem ascending_place
    {row : StoredRow} {rows : List StoredRow} (ascending : Ascending rows)
    (fresh : ∀ other ∈ rows, other.id ≠ row.id) :
    Ascending (place row rows) := by
  unfold Ascending at ascending ⊢
  induction rows with
  | nil => exact List.pairwise_singleton _ row
  | cons first rest step =>
      rw [List.pairwise_cons] at ascending
      rw [List.forall_mem_cons] at fresh
      unfold place
      split
      · rename_i below
        rw [List.pairwise_cons, List.pairwise_cons, List.forall_mem_cons]
        refine ⟨⟨below, ?_⟩, ascending⟩
        intro other member
        exact Int.lt_trans below (ascending.1 other member)
      · rename_i above
        rw [List.pairwise_cons]
        refine ⟨?_, step ascending.2 fresh.2⟩
        intro other member
        rcases (mem_place row other rest).1 member with rfl | inside
        · have different := fresh.1
          omega
        · exact ascending.1 other inside

/-- Whether a row has a cell at a position. -/
def has (row : StoredRow) (index : Nat) (cell : Cell) : Bool :=
  row.cells[index]?.any cell.same

end StoredRow

/-- Rows under columns, in the order of their ids. -/
structure Table where
  name : String
  columns : List Column
  /-- Whether ids are never used again. -/
  autoIncrement : Bool
  rows : List StoredRow
  /-- The greatest id that was ever used, or zero. -/
  greatestUsed : Int
  ascending : StoredRow.Ascending rows
  deriving DecidableEq

/-- Whether two names are the same but for the case of ASCII letters. -/
def sameName (left right : String) : Bool :=
  Text.lower left == Text.lower right

namespace Table

/-- A table without rows. -/
def empty (name : String) (columns : List Column) (autoIncrement : Bool) :
    Table :=
  ⟨name, columns, autoIncrement, [], 0, .nil⟩

/-- The position of the column that shows ids. -/
def idIndex? (table : Table) : Option Nat :=
  table.columns.findIdx? Column.isId

/-- The position of a column. -/
def index? (table : Table) (name : String) : Option Nat :=
  table.columns.findIdx? fun column => sameName column.name name

/-- The id of the last row, which is the greatest one. -/
def greatestId? (table : Table) : Option Int :=
  table.rows.getLast?.map StoredRow.id

/-- The id of the next row that does not bring its own. -/
def nextId (table : Table) : Except Fault Int :=
  let behind := ((table.greatestId?).getD 0) + 1
  let next :=
    if table.autoIncrement then max behind (table.greatestUsed + 1) else behind
  if next < Int.pow 2 63 then .ok next else .error .idsExhausted

theorem lt_of_greatestId?
    {table : Table} {row : StoredRow} (member : row ∈ table.rows) {next : Int}
    (behind : (table.greatestId?).getD 0 < next) :
    row.id < next := by
  have ascending := table.ascending
  rcases List.eq_nil_or_concat table.rows with empty | ⟨front, last, split⟩
  · rw [empty] at member
    cases member
  · rw [List.concat_eq_append] at split
    rw [greatestId?, split, List.getLast?_concat] at behind
    rw [split, List.mem_append, List.mem_singleton] at member
    rw [StoredRow.Ascending, split, List.pairwise_append] at ascending
    rcases member with inside | rfl
    · exact
        Int.lt_trans (ascending.2.2 row inside last List.mem_cons_self) behind
    · exact behind

/-- A row that does not bring its own id comes behind all others. -/
theorem lt_of_nextId
    {table : Table} {id : Int} (next : table.nextId = .ok id) :
    ∀ row ∈ table.rows, row.id < id := by
  intro row member
  apply lt_of_greatestId? member
  simp only [nextId] at next
  by_cases used : table.autoIncrement = true
  · rw [if_pos used] at next
    split at next
    · cases next
      exact Int.lt_of_lt_of_le (Int.lt_succ _) (Int.le_max_left _ _)
    · cases next
  · rw [if_neg used] at next
    split at next
    · cases next
      exact Int.lt_succ _
    · cases next

/-- The id that a row brings with it. -/
def broughtId? (table : Table) (cells : List Cell) :
    Except Fault (Option Int) :=
  match table.idIndex?.bind fun index => cells[index]? with
  | none | some .null => .ok none
  | some (.integer id) => .ok (some id.toInt)
  | some _ => .error .mismatch

/-- A row with its id in the column that shows ids. -/
def rowOf (table : Table) (id : Int) (cells : List Cell) : StoredRow :=
  match table.idIndex? with
  | some index => ⟨id, cells.set index (.integer (Int64.ofInt id))⟩
  | none => ⟨id, cells⟩

/-- The fault of a row without a value in a column that needs one. -/
def nullFault? (table : Table) (row : StoredRow) : Option Fault :=
  ((table.columns.zip row.cells).find? fun (column, cell) =>
    column.notNull && !column.isId && cell == .null).map
      fun (column, _) => .notNull table.name column.name

/-- The columns without repetitions, and the cells of a row that others may not have. -/
def uniqueCells (table : Table) (row : StoredRow) :
    List (Nat × Column × Cell) :=
  ((table.columns.zip row.cells).zipIdx.filter fun ((column, cell), _) =>
    column.unique && !column.isId && cell != .null).map
      fun ((column, cell), index) => (index, column, cell)

/-- The fault of a row that repeats an id or a cell of one of some other rows. -/
def conflictFault? (table : Table) (others : List StoredRow)
    (row : StoredRow) : Option Fault :=
  if others.any fun other => other.id == row.id then
    let column := table.columns.find? Column.isId
    some (.duplicateId table.name ((column.map Column.name).getD "rowid"))
  else
    ((table.uniqueCells row).find? fun (index, _, cell) =>
      others.any fun other => other.has index cell).map
        fun (_, column, _) => .duplicate table.name column.name

/-- Whether two rows cannot be in the table together. -/
def clash (table : Table) (row other : StoredRow) : Bool :=
  other.id == row.id ||
    (table.uniqueCells row).any fun (index, _, cell) =>
      other.has index cell

theorem id_ne_of_conflictFault?_eq_none
    {table : Table} {others : List StoredRow} {row : StoredRow}
    (without : table.conflictFault? others row = none) :
    ∀ other ∈ others, other.id ≠ row.id := by
  intro other member same
  have repeated : (others.any fun other => other.id == row.id) = true :=
    List.any_eq_true.2 ⟨other, member, beq_iff_eq.2 same⟩
  rw [conflictFault?, if_pos repeated] at without
  cases without

/-- The rows that can be in the table together with a row. -/
def withoutClashes (table : Table) (row : StoredRow) : List StoredRow :=
  table.rows.filter fun other => !table.clash row other

theorem sublist_withoutClashes (table : Table) (row : StoredRow) :
    (table.withoutClashes row).Sublist table.rows :=
  List.filter_sublist

theorem id_ne_of_mem_withoutClashes (table : Table) (row : StoredRow) :
    ∀ other ∈ table.withoutClashes row, other.id ≠ row.id := by
  intro other member same
  have clashes : table.clash row other = true := by
    rw [clash, beq_iff_eq.2 same, Bool.true_or]
  rw [withoutClashes, List.mem_filter, clashes] at member
  cases member.2

/-- The rows of a table that are kept, and another one with an id of its own. -/
def withRow (table : Table) (kept : List StoredRow) (row : StoredRow)
    (sublist : kept.Sublist table.rows)
    (fresh : ∀ other ∈ kept, other.id ≠ row.id) :
    Table :=
  { table with
    rows := row.place kept
    ascending :=
      StoredRow.ascending_place (table.ascending.sublist sublist) fresh }

/--
Insert a row.  There is no row in the answer if it was ignored.  An id that was
given to a row counts as used, also if the row is then ignored.
-/
def insert (policy : Policy) (cells : List Cell) (table : Table) :
    Except Fault (Option StoredRow × Table) := do
  let id ←
    match ← table.broughtId? cells with
    | some id => pure id
    | none => table.nextId
  let row := table.rowOf id cells
  let used := { table with greatestUsed := max table.greatestUsed id }
  match table.nullFault? row, policy with
  | some _, .ignore => pure (none, used)
  | some fault, _ => throw fault
  | none, .replace =>
      pure
        (some row,
          used.withRow (table.withoutClashes row) row
            (table.sublist_withoutClashes row)
            (table.id_ne_of_mem_withoutClashes row))
  | none, _ =>
      match conflict : table.conflictFault? table.rows row, policy with
      | none, _ =>
          pure
            (some row,
              used.withRow table.rows row (.refl _)
                (id_ne_of_conflictFault?_eq_none conflict))
      | some _, .ignore => pure (none, used)
      | some fault, _ => throw fault

/-- Insert rows in order, and give those that were stored. -/
def insertAll (policy : Policy) : List (List Cell) → Table →
    Except Fault (List StoredRow × Table)
  | [], table => pure ([], table)
  | cells :: rest, table => do
      let (stored, after) ← table.insert policy cells
      let (others, final) ← insertAll policy rest after
      pure (stored.toList ++ others, final)

/-- Put other cells in the place of a row, which may give it another id. -/
def replace (old : StoredRow) (cells : List Cell) (table : Table) :
    Except Fault (StoredRow × Table) := do
  let id ←
    match table.idIndex?.bind fun index => cells[index]? with
    | none => pure old.id
    | some (.integer id) => pure id.toInt
    | some _ => throw .mismatch
  let row := table.rowOf id cells
  let others := table.rows.filter fun other => other.id != old.id
  match table.nullFault? row with
  | some fault => throw fault
  | none =>
      match conflict : table.conflictFault? others row with
      | some fault => throw fault
      | none =>
          pure
            (row,
              table.withRow others row List.filter_sublist
                (id_ne_of_conflictFault?_eq_none conflict))

/-- Change rows in order, and give them as they are afterwards. -/
def replaceAll (change : List Cell → List Cell) : List StoredRow → Table →
    Except Fault (List StoredRow × Table)
  | [], table => pure ([], table)
  | old :: rest, table => do
      let (row, after) ← table.replace old (change old.cells)
      let (others, final) ← replaceAll change rest after
      pure (row :: others, final)

/-- Delete the rows that pass a test, and give them. -/
def delete (test : StoredRow → Bool) (table : Table) :
    List StoredRow × Table :=
  (table.rows.filter test,
    { table with
      rows := table.rows.filter fun row => !test row
      ascending := table.ascending.filter _ })

end Table

end Sqlwright.Engine
