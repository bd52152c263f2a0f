import Sqlwright.Options

/-!
# Dialects

A `Dialect` is the kind of a backend with its options.  It decides how the ids
of inserted rows come back and how a page of rows is asked for.
-/

namespace Sqlwright

/-- How the ids of inserted rows are found. -/
inductive IdRetrieval where
  | none
  /-- The first id of a batch is reported; the others follow at a stride. -/
  | firstStride (stride : Nat)
  /-- The last id of a batch is reported; the others precede it at a stride. -/
  | lastStride (stride : Nat)
  /-- The ids are written to a table variable and selected from it. -/
  | outputTable (column : String)
  /-- The statement returns the ids itself. -/
  | returning (column : String)
  deriving DecidableEq

/-- Whether the ids come back as rows of the insert statement. -/
def IdRetrieval.readsRows : IdRetrieval → Bool
  | outputTable _ | returning _ => true
  | _ => false

/-- The kinds of backends that statements are written for. -/
inductive Backend where
  | mysql
  | sqlServer
  /-- Any other backend, with the way to find ids that its user has chosen. -/
  | generic (retrieval : IdRetrieval)
  deriving DecidableEq

/-- A backend with its options. -/
structure Dialect where
  backend : Backend
  options : Options
  deriving DecidableEq

namespace Backend

/-- The name of a backend in messages. -/
def name : Backend → String
  | mysql => "mysql"
  | sqlServer => "sqlserver"
  | generic _ => "generic"

/-- The options of a backend whose user sets none. -/
def defaultOptions : Backend → Options
  | mysql => Options.mysql
  | sqlServer => Options.sqlServer
  | generic _ => Options.generic

end Backend

/-- A window of sorted rows, at least one row wide. -/
structure Page where
  limit : Nat
  offset : Nat
  limit_pos : 0 < limit
  deriving DecidableEq

/-- A window of `limit` rows behind the first `offset` ones. -/
def Page.of (limit offset : Nat) : Except Failure Page :=
  if positive : 0 < limit then
    .ok ⟨limit, offset, positive⟩
  else
    .error (.argument .zeroLimit)

namespace Dialect

/-- A dialect with default options. -/
def ofBackend (backend : Backend) : Dialect :=
  ⟨backend, backend.defaultOptions⟩

/-- The name of the backend of a dialect. -/
def name (dialect : Dialect) : String :=
  dialect.backend.name

/-- An identifier in the quotes of a dialect, segment by segment. -/
def quote (dialect : Dialect) (identifier : String) : Except Failure String :=
  Identifier.quote dialect.options.quoteStyle identifier

/-- The tail of a sorted select that asks for a page. -/
def paginate (dialect : Dialect) (page : Page) : String :=
  match dialect.backend with
  | .sqlServer =>
      "OFFSET " ++ toString page.offset ++ " ROWS FETCH NEXT " ++
        toString page.limit ++ " ROWS ONLY"
  | _ => "LIMIT " ++ toString page.limit ++ " OFFSET " ++ toString page.offset

/--
How the ids of inserted rows are found.  A stride has to be positive, and SQL
Server has to be told the id column.
-/
def idRetrieval (dialect : Dialect) : Except Failure IdRetrieval :=
  match dialect.backend with
  | .mysql => .ok (.firstStride dialect.options.autoIncrementIncrement)
  | .sqlServer =>
      match dialect.options.idColumn with
      | some column => .ok (.outputTable column)
      | none => .error (.setting .missingIdColumn)
  | .generic (.firstStride 0) | .generic (.lastStride 0) =>
      .error (.setting .zeroStride)
  | .generic retrieval => .ok retrieval

/-- What a message shows of the statements built for a dialect. -/
def inspect (dialect : Dialect) : String :=
  "QueryBuilder \x7b dialect: " ++ Text.inspectText dialect.name ++ " \x7d"

end Dialect

/-- Refuses the name of a table that is blank. -/
def validateTable (table : String) : Except Failure Unit :=
  if Text.isBlank table then .error (.argument .blankTable) else .ok ()

end Sqlwright
