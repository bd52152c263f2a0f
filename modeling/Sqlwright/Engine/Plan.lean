import Sqlwright.Engine.Test

/-!
# Plans

`Plan.ofCommand` finds out what the names of a statement stand for, and puts
the bound cells in the place of the placeholders.  Tables that the statement
lists itself hide stored ones.  A name in double quotes that no column has
stands for a text.

The first name without a meaning is reported, in this order: the table, the
columns that are written, what a `SELECT` gives, the tests, the order, and what
is returned.
-/

namespace Sqlwright.Engine

/-- Rows under column names. -/
structure Source where
  names : List String
  rows : List (List Cell)

/-- What a column of a result holds. -/
inductive Content where
  | scalar (scalar : Scalar)
  /-- The number of rows. -/
  | count
  deriving DecidableEq

/-- A column of a result, with its label. -/
structure ResultColumn where
  label : String
  content : Content
  deriving DecidableEq

/-- A column to sort by, in descending order or not. -/
structure Key where
  scalar : Scalar
  descending : Bool
  deriving DecidableEq

/-- A `SELECT` without names. -/
structure Reading where
  source : Source
  tests : List Test
  outputs : List ResultColumn
  keys : List Key
  limit : Option Cell
  offset : Option Cell

/-- A statement without names. -/
inductive Plan where
  | create (table : Table)
  | dropTable (table : Table)
  /-- There is nothing to be created or dropped. -/
  | idle
  /-- Rows whose cells belong at some positions of the table. -/
  | insert (table : Table) (policy : Policy) (places : List Nat)
      (reading : Reading) (returning : List ResultColumn)
  | update (table : Table) (assigned : List (Nat × Cell)) (tests : List Test)
      (returning : List ResultColumn)
  | delete (table : Table) (tests : List Test)
      (returning : List ResultColumn)
  | select (reading : Reading)
  | transact (transaction : Transaction)

/-- What can be selected from a table. -/
def Table.source (table : Table) : Source :=
  ⟨table.columns.map Column.name, table.rows.map StoredRow.cells⟩

/-- What the names of a statement can stand for. -/
structure Scope where
  tables : List Table
  listed : List (String × Source)
  params : Array Cell

namespace Scope

/-- The cell of a value; placeholders beyond the bound cells are null. -/
def cell (scope : Scope) : Term → Cell
  | .bound index => scope.params[index]?.getD .null
  | .constant cell => cell

/-- The stored table with a name. -/
def table? (scope : Scope) (name : Name) : Option Table :=
  scope.tables.find? fun table => sameName table.name name.text

/-- The stored table with a name, which has to be there. -/
def table (scope : Scope) (name : Name) : Except Fault Table :=
  match scope.table? name with
  | some table => .ok table
  | none => .error (.noTable name.text)

/-- The rows of a table that the statement lists, or of a stored one. -/
def source (scope : Scope) (name : Name) : Except Fault Source :=
  match scope.listed.find? fun (listed, _) => sameName listed name.text with
  | some (_, source) => .ok source
  | none => (scope.table name).map Table.source

end Scope

namespace Source

/-- The position of a column. -/
def index? (source : Source) (name : String) : Option Nat :=
  source.names.findIdx? (sameName · name)

/-- The meaning of a name where a column of the source can stand. -/
def scalar (source : Source) (name : Name) : Except Fault Scalar :=
  match source.index? name.text with
  | some index => .ok (.column index)
  | none =>
      if name.maybeText then .ok (.constant (.text name.text))
      else .error (.noColumn name.text (some name.offset))

/-- All columns of a source under their own names. -/
def everything (source : Source) : List ResultColumn :=
  source.names.zipIdx.map fun (name, index) =>
    ⟨name, .scalar (.column index)⟩

end Source

namespace Plan

/-- The cells that a list, or a column of another source, stands for. -/
def members (scope : Scope) : Members → Except Fault (List Cell)
  | .terms terms => .ok (terms.map scope.cell)
  | .column column table => do
      let source ← scope.source table
      let scalar ← source.scalar column
      pure (source.rows.map fun cells => scalar.of cells)

/-- The test that a predicate stands for. -/
def test (scope : Scope) (source : Source) : Predicate → Except Fault Test
  | .relation column sign term => do
      pure (.relation (← source.scalar column) sign (scope.cell term))
  | .like negated column pattern => do
      pure (.like negated (← source.scalar column) (scope.cell pattern))
  | .member negated column among => do
      pure (.member negated (← source.scalar column) (← members scope among))
  | .absent negated column => do
      pure (.absent negated (← source.scalar column))

/-- The columns of a result that an output stands for. -/
def outputs (scope : Scope) (source : Source) (hasTable : Bool) :
    Output → Except Fault (List ResultColumn)
  | .everything =>
      if hasTable then .ok source.everything else .error .nothingListed
  | .column name label => do
      let scalar ← source.scalar name
      let declared :=
        match scalar with
        | .column index => source.names[index]?.getD name.text
        | .constant _ => name.written
      pure [⟨label.getD declared, .scalar scalar⟩]
  | .count _ label => .ok [⟨label, .count⟩]
  | .term term label => .ok [⟨label, .scalar (.constant (scope.cell term))⟩]

/-- The columns of the rows that a change returns; these are not counted. -/
def returned (scope : Scope) (source : Source) (items : List Output) :
    Except Fault (List ResultColumn) := do
  let columns ← items.mapM fun item =>
    match item with
    | .count called _ => .error (.misplacedCount called.written called.offset)
    | other => outputs scope source true other
  pure columns.flatten

/-- The labels that an output gives itself. -/
def alias? : Output → Option String
  | .column _ label => label
  | .count _ label | .term _ label => some label
  | .everything => none

/-- The key of a column to sort by: an output with that label, or a column. -/
def key (source : Source) (labelled : List ResultColumn) (order : SortKey) :
    Except Fault Key := do
  let scalar ←
    match labelled.find? fun column => sameName column.label order.column.text with
    | some ⟨_, .scalar scalar⟩ => pure scalar
    | some ⟨_, .count⟩ => pure (.constant .null)
    | none => source.scalar order.column
  pure ⟨scalar, order.descending⟩

/-- A `SELECT` without its names. -/
def reading (scope : Scope) (selecting : Selecting) : Except Fault Reading := do
  let source ←
    match selecting.table with
    | some table => scope.source table
    | none => pure ⟨[], [[]]⟩
  let columns ←
    selecting.outputs.mapM (outputs scope source selecting.table.isSome)
  let labelled :=
    (selecting.outputs.zip columns).flatMap fun (output, columns) =>
      if (alias? output).isSome then columns else []
  let tests ← selecting.predicates.mapM (test scope source)
  let keys ← selecting.order.mapM (key source labelled)
  pure
    { source := source
      tests := tests
      outputs := columns.flatten
      keys := keys
      limit := selecting.limit.map scope.cell
      offset := selecting.offset.map scope.cell }

end Plan

namespace Reading

/-- The order of rows by some keys, the first key first. -/
def compareRows (keys : List Key) (left right : List Cell) : Ordering :=
  keys.foldl
    (fun found key =>
      let ordering := (key.scalar.of left).order (key.scalar.of right)
      found.then (if key.descending then ordering.swap else ordering))
    .eq

/-- The number of rows that a limit leaves; a negative one leaves all. -/
def limitOf : Option Cell → Except Fault (Option Nat)
  | none => .ok none
  | some (.integer count) =>
      .ok (if count < 0 then none else some count.toInt.toNat)
  | some _ => .error .mismatch

/-- The rows that pass the tests, in order. -/
def sorted (reading : Reading) : List (List Cell) :=
  (reading.source.rows.filter (passes reading.tests)).mergeSort
    fun left right => (compareRows reading.keys left right).isLE

/-- A row of a result from a row of the source, or from the last of several. -/
def emit (outputs : List ResultColumn) (count : Nat) (cells : List Cell) :
    List Cell :=
  outputs.map fun column =>
    match column.content with
    | .scalar scalar => scalar.of cells
    | .count => .integer (Int64.ofNat count)

/-- The rows of the result, before there is a limit. -/
def results (reading : Reading) : List (List Cell) :=
  let rows := reading.sorted
  if reading.outputs.any fun column => column.content = .count then
    [emit reading.outputs rows.length (rows.getLast?.getD [])]
  else
    rows.map (emit reading.outputs 1)

/-- The rows of a result within its limit, behind its offset. -/
def rows (reading : Reading) : Except Fault (List (List Cell)) := do
  let limit ← limitOf reading.limit
  let offset ← limitOf reading.offset
  let behind := reading.results.drop (offset.getD 0)
  pure (match limit with
    | some count => behind.take count
    | none => behind)

end Reading

namespace Plan

/-- The rows that are to be inserted. -/
def insertedReading (scope : Scope) : InsertSource → Except Fault Reading
  | .values rows =>
      let width := (rows.head?.map List.length).getD 0
      let names := (List.range width).map fun index =>
        "column" ++ toString (index + 1)
      let source : Source := ⟨names, rows.map fun terms => terms.map scope.cell⟩
      .ok ⟨source, [], source.everything, [], none, none⟩
  | .selected selecting => reading scope selecting

/-- The positions of the columns that an insertion names. -/
def positions (table : Table) (written : Name) (names : List Name) :
    Except Fault (List Nat) :=
  names.mapM fun name =>
    match table.index? name.text with
    | some index => .ok index
    | none => .error (.noInsertColumn written.text name.text)

/-- A row of a width: cells at their places, and null at all others. -/
def fullRow (width : Nat) (places : List Nat) (cells : List Cell) : List Cell :=
  (List.range width).map fun index =>
    ((places.zip cells).lookup index).getD .null

/-- Whether rows of values differ in their number of values. -/
def isRagged : InsertSource → Bool
  | .values (first :: rest) =>
      rest.any fun terms => terms.length != first.length
  | _ => false

/-- The plan of an insertion. -/
def insertion (scope : Scope) (policy : Policy) (written : Name)
    (columns : Option (List Name)) (source : InsertSource)
    (returning : List Output) : Except Fault Plan := do
  if isRagged source then throw .rowLengths
  let table ← scope.table written
  let width := table.columns.length
  let places ←
    match columns with
    | some names => positions table written names
    | none => pure (List.range width)
  let inserted ← insertedReading scope source
  let count := inserted.outputs.length
  if count ≠ places.length then
    throw
      (if columns.isSome then .valueCount count places.length
      else .tableValueCount written.text width count)
  let returned ← returned scope table.source returning
  pure (.insert table policy places inserted returned)

/-- The positions and cells of the changes of an update. -/
def assigned (scope : Scope) (table : Table)
    (assignments : List (Name × Term)) : Except Fault (List (Nat × Cell)) :=
  assignments.mapM fun (name, term) =>
    match table.index? name.text with
    | some index => .ok (index, scope.cell term)
    | none => .error (.noColumn name.text none)

/-- A statement without its names, except for the tables that it lists. -/
def ofAction (scope : Scope) : Action → Except Fault Plan
  | .create name ifMissing autoIncrement columns =>
      match scope.table? name with
      | some _ =>
          if ifMissing then .ok .idle
          else .error (.tableExists name.written name.offset)
      | none => .ok (.create (Table.empty name.text columns autoIncrement))
  | .dropTable name ifExists =>
      match scope.table? name with
      | some table => .ok (.dropTable table)
      | none => if ifExists then .ok .idle else .error (.noTable name.text)
  | .insert policy table columns source returning =>
      insertion scope policy table columns source returning
  | .update name assignments predicates returning => do
      let table ← scope.table name
      let assigned ← assigned scope table assignments
      let tests ← predicates.mapM (test scope table.source)
      pure
        (.update table assigned tests
          (← returned scope table.source returning))
  | .delete name predicates returning => do
      let table ← scope.table name
      let tests ← predicates.mapM (test scope table.source)
      pure (.delete table tests (← returned scope table.source returning))
  | .select selecting => do pure (.select (← reading scope selecting))
  | .transact transaction => .ok (.transact transaction)

/-- The rows of a table that a statement lists. -/
def listedSource (scope : Scope) (listed : Listed) : String × Source :=
  let rows := listed.rows.map fun terms => terms.map scope.cell
  let width := (rows.head?.map List.length).getD 0
  let names :=
    if listed.columns.isEmpty then
      (List.range width).map fun index => "column" ++ toString (index + 1)
    else
      listed.columns.map Name.text
  (listed.name.text, ⟨names, rows⟩)

/-- A statement without its names. -/
def ofCommand (tables : List Table) (params : List Cell) (command : Command) :
    Except Fault Plan :=
  let scope : Scope := ⟨tables, [], params.toArray⟩
  ofAction
    { scope with listed := command.listed.map (listedSource scope) }
    command.action

/-- The labels of the columns that are returned; without any there is no result set. -/
def labelsOf (returning : List ResultColumn) : Option (List String) :=
  if returning.isEmpty then none else some (returning.map ResultColumn.label)

/-- The columns of the result set, if there is one. -/
def labels? : Plan → Option (List String)
  | .insert _ _ _ _ returning | .update _ _ _ returning
  | .delete _ _ returning => labelsOf returning
  | .select reading => some (reading.outputs.map ResultColumn.label)
  | _ => none

end Plan

end Sqlwright.Engine
