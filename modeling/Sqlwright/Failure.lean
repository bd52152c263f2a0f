import Sqlwright.Filter.Operator
import Sqlwright.Value

/-!
# Failures

A `NativeError` is one record of a failed driver call, as the driver gives it.
A `Report` joins all records of such a call with the statement that failed.

A `Failure` is what an operation answers instead of a result.  Apart from
reports it names its cause, and the cause fixes the wording.  Its class says
who has to act: the caller who passed an argument, whoever configured the
session, or the backend.
-/

namespace Sqlwright

open Sqlwright.Text

/-- One record of a failed driver call. -/
structure NativeError where
  code : Option Int64
  sqlState : Option String
  message : String
  deriving DecidableEq

namespace NativeError

/-- A record with a message and nothing else. -/
def ofMessage (message : String) : NativeError :=
  { code := none, sqlState := none, message := message }

/-- A code that is written as an integer or as the text of one. -/
def codeOf? : Json → Option Int64
  | .number (.integer value) => int64Of? value
  | .string text => readInt64? text.toList
  | _ => none

/-- The first of some fields that a record has. -/
def firstField? (record : Json) (names : List String) : Option Json :=
  names.findSome? record.field?

/--
A record in one of the two shapes that drivers use.  The fields `errno`,
`sqlstate` and `error` are preferred to `code`, `SQLSTATE` and `message`; a
preferred field of the wrong kind still hides the other one.
-/
def ofRecord (record : Json) : NativeError :=
  { code := (firstField? record ["errno", "code"]).bind codeOf?
    sqlState := (firstField? record ["sqlstate", "SQLSTATE"]).bind Json.string?
    message :=
      ((firstField? record ["error", "message"]).bind Json.string?).getD "" }

end NativeError

/-- The messages of all records of a failed call. -/
def joinedMessages (errors : List NativeError) : String :=
  "; ".intercalate (errors.map NativeError.message)

/-- A failed driver call, with the statement that it was about. -/
structure Report where
  message : String
  sqlState : String
  code : Int64
  sql : String
  params : List Value

/--
The report of a failed call: what was attempted in front of the joined
messages, code and state of the first record, and the statement as the caller
gave it.
-/
def Report.ofNative (context : String) (errors : List NativeError)
    (sql : String) (params : List Value) : Report :=
  { message := context ++ ": " ++ joinedMessages errors
    sqlState := ((errors.head?.bind NativeError.sqlState).getD "")
    code := ((errors.head?.bind NativeError.code).getD 0)
    sql := sql
    params := params }

/-- What a driver can be asked for, and can fail at. -/
inductive DriverCall where
  | openDatabase
  | batch
  | prepare
  | execute
  | fetch
  | close
  | begin
  | commit
  | rollback
  deriving DecidableEq

/-- What is said of a failed call, in front of the driver's own messages. -/
def DriverCall.context : DriverCall → String
  | .openDatabase => "Failed to open database"
  | .batch => "Failed to execute batch"
  | .prepare => "Failed to prepare statement"
  | .execute => "Failed to execute prepared statement"
  | .fetch => "Failed to fetch row"
  | .close => "Failed to close statement"
  | .begin => "Failed to begin transaction"
  | .commit => "Failed to commit transaction"
  | .rollback => "Failed to roll back transaction"

/-- Arguments that no statement can be built from. -/
inductive ArgumentFault where
  | blankIdentifier
  | emptySegment (identifier : String)
  | blankTable
  | blankSelect
  | emptySet
  | emptyFilter
  | zeroLimit
  | unsortedPage
  | badDirection (direction column : String)
  | unknownOperator (tag : String)
  | filterNotObject
  | nestedValue (column : String)
  | emptyConditions (column : String)
  | nullPattern (operator : Operator) (column : String)
  | listOperand (operator : Operator) (column : String)
  | noColumns
  | rowTooWide (columns limit : Nat)
  | repeatedColumn (column : String)
  | misalignedRow (index : Nat)
  deriving DecidableEq

/-- The wording of an argument that no statement can be built from. -/
def ArgumentFault.message : ArgumentFault → String
  | .blankIdentifier => "Identifier cannot be blank"
  | .emptySegment identifier =>
      "Identifier " ++ identifier ++ " contains an empty segment"
  | .blankTable => "Table name cannot be blank"
  | .blankSelect => "Select query cannot be blank"
  | .emptySet => "Set values cannot be empty"
  | .emptyFilter => "Where conditions cannot be empty"
  | .zeroLimit => "Limit must be greater than zero"
  | .unsortedPage => "Results must be sorted to use an offset"
  | .badDirection direction column =>
      direction ++ " is not a valid sort direction for column " ++ column ++
        ". Use asc or desc."
  | .unknownOperator tag => tag ++ " is not a valid operator"
  | .filterNotObject => "Filter must be a JSON object"
  | .nestedValue column => "Unexpected nested value for column " ++ column
  | .emptyConditions column =>
      "Filter conditions cannot be empty for column " ++ column
  | .nullPattern operator column =>
      operator.tag ++ " operator cannot be used with a null value for column " ++
        column
  | .listOperand operator column =>
      operator.tag ++ " operator cannot be used with an array for column " ++
        column
  | .noColumns => "Cannot insert rows without columns"
  | .rowTooWide columns limit =>
      "A row with " ++ toString columns ++ " columns exceeds the limit of " ++
        toString limit ++ " bound parameters"
  | .repeatedColumn column =>
      "Column " ++ column ++ " appears more than once"
  | .misalignedRow index =>
      "Row " ++ toString index ++
        " does not have the same columns as the first row"

/-- Settings that no session can work with. -/
inductive SettingFault where
  | blankTable
  | blankColumn
  | zeroIncrement
  | blankIdColumn
  | zeroStride
  | missingIdColumn
  | strideOutOfRange (stride : Nat)
  | tooManyRows
  deriving DecidableEq

/-- The wording of a setting that no session can work with. -/
def SettingFault.message : SettingFault → String
  | .blankTable => "Table name cannot be blank"
  | .blankColumn => "Column names cannot be blank"
  | .zeroIncrement => "Auto increment increment must be at least 1"
  | .blankIdColumn => "ID column cannot be blank"
  | .zeroStride => "Id stride must be at least 1"
  | .missingIdColumn => "SQL Server inserts require an ID column to be set"
  | .strideOutOfRange stride =>
      "Id stride " ++ toString stride ++ " is out of range"
  | .tooManyRows => "Too many rows for id reconstruction"

/-- Uses of a statement that its phase does not allow. -/
inductive StatementFault where
  | alreadyClosed
  | readAfterClose
  | alreadyRead
  deriving DecidableEq

/-- The wording of a use that is not allowed. -/
def StatementFault.message : StatementFault → String
  | .alreadyClosed => "Statement has already been closed"
  | .readAfterClose => "Cannot read rows from a closed statement"
  | .alreadyRead => "Statement rows can only be iterated once"

/-- Answers of a backend that make no sense. -/
inductive ResultFault where
  | idsOverflow (rows : Nat) (reported : Int64) (stride : Nat)
  | idNotInteger (text : String)
  | noId (found : Option Value)

/-- The wording of a senseless answer. -/
def ResultFault.message : ResultFault → String
  | .idsOverflow rows reported stride =>
      "Ids for " ++ toString rows ++ " rows from " ++
        toString reported.toInt ++ " with stride " ++ toString stride ++
        " overflow"
  | .idNotInteger text => "Inserted id " ++ text ++ " is not an integer"
  | .noId found =>
      "Expected an inserted id, got " ++
        inspectOption (found.map Value.inspect)

/-- What an operation answers instead of a result. -/
inductive Failure where
  | backend (report : Report)
  | argument (fault : ArgumentFault)
  /-- A column that the allow-list does not have. -/
  | column (name : String)
  | setting (fault : SettingFault)
  | statement (fault : StatementFault)
  | result (fault : ResultFault)

namespace Failure

/-- The text of a failure: its class, unless the backend failed, and its cause. -/
def message : Failure → String
  | .backend report => report.message
  | .argument fault => "Invalid argument: " ++ fault.message
  | .column name => "Invalid column: " ++ name ++ " is not a valid column"
  | .setting fault => "Configuration error: " ++ fault.message
  | .statement fault => "Statement error: " ++ fault.message
  | .result fault => "Unexpected result: " ++ fault.message

/-- The failure of a call about a statement, with the report of it. -/
def ofCall (call : DriverCall) (errors : List NativeError) (sql : String)
    (params : List Value) : Failure :=
  .backend (Report.ofNative call.context errors sql params)

/-- Failures that are found before the backend is asked. -/
def isPreliminary : Failure → Bool
  | .argument _ | .column _ | .setting _ => true
  | _ => false

end Failure

end Sqlwright
