import Sqlwright.Failure

/-!
# Faults of the engine

A `Fault` says why the engine refuses a statement.  Faults have a code, save
those of which the place in the statement is known while it is prepared: these
are reported with the statement and the place instead.
-/

namespace Sqlwright.Engine

/-- Why a statement is refused. -/
inductive Fault where
  /-- A token that cannot stand where it stands. -/
  | unexpected (token : String) (offset : Nat)
  /-- What is no token at all. -/
  | unrecognized (written : String) (offset : Nat)
  /-- The statement ends too early. -/
  | incomplete
  | noTable (name : String)
  /-- All columns are asked for, of no table. -/
  | nothingListed
  /-- A column that is not there; its place is not always known. -/
  | noColumn (name : String) (offset : Option Nat)
  | noInsertColumn (table column : String)
  | tableExists (name : String) (offset : Nat)
  | valueCount (values columns : Nat)
  | tableValueCount (table : String) (columns values : Nat)
  | rowLengths
  | tooManyPlaceholders (offset : Nat)
  | misplacedCount (written : String) (offset : Nat)
  | notNull (table column : String)
  | duplicateId (table column : String)
  | duplicate (table column : String)
  /-- A value of a class that is of no use. -/
  | mismatch
  | idsExhausted
  | beginInTransaction
  | commitOutside
  | rollbackOutside
  | parameterCount (given needed : Nat)
  | severalStatements
  /-- A statement without words cannot run. -/
  | nothingToRun
  | cannotOpen (path : String)
  deriving DecidableEq

namespace Fault

/-- What is wrong. -/
def message : Fault → String
  | unexpected token _ => "near \"" ++ token ++ "\": syntax error"
  | unrecognized written _ => "unrecognized token: \"" ++ written ++ "\""
  | incomplete => "incomplete input"
  | noTable name => "no such table: " ++ name
  | nothingListed => "no tables specified"
  | noColumn name _ => "no such column: " ++ name
  | noInsertColumn table column =>
      "table " ++ table ++ " has no column named " ++ column
  | tableExists name _ => "table " ++ name ++ " already exists"
  | valueCount values columns =>
      toString values ++ " values for " ++ toString columns ++ " columns"
  | tableValueCount table columns values =>
      "table " ++ table ++ " has " ++ toString columns ++ " columns but " ++
        toString values ++ " values were supplied"
  | rowLengths => "all VALUES must have the same number of terms"
  | tooManyPlaceholders _ => "too many SQL variables"
  | misplacedCount written _ =>
      "misuse of aggregate function " ++ written ++ "()"
  | notNull table column =>
      "NOT NULL constraint failed: " ++ table ++ "." ++ column
  | duplicateId table column | duplicate table column =>
      "UNIQUE constraint failed: " ++ table ++ "." ++ column
  | mismatch => "datatype mismatch"
  | idsExhausted => "database or disk is full"
  | beginInTransaction => "cannot start a transaction within a transaction"
  | commitOutside => "cannot commit - no transaction is active"
  | rollbackOutside => "cannot rollback - no transaction is active"
  | parameterCount given needed =>
      "Wrong number of parameters passed to query. Got " ++ toString given ++
        ", needed " ++ toString needed
  | severalStatements => "Multiple statements provided"
  | nothingToRun => "not an error"
  | cannotOpen path => "unable to open database file: " ++ path

/-- The code of a fault; faults of the call and not of the database have none. -/
def code? : Fault → Option Int64
  | notNull _ _ => some 1299
  | duplicateId _ _ => some 1555
  | duplicate _ _ => some 2067
  | mismatch => some 20
  | idsExhausted => some 13
  | nothingToRun => some 21
  | cannotOpen _ => some 14
  | parameterCount _ _ | severalStatements => none
  | _ => some 1

/-- The place of a fault in the statement, in bytes. -/
def offset? : Fault → Option Nat
  | unexpected _ offset | unrecognized _ offset | tableExists _ offset
  | tooManyPlaceholders offset | misplacedCount _ offset => some offset
  | noColumn _ offset => offset
  | _ => none

/-- The record of a fault while a statement runs, when places are unknown. -/
def native (fault : Fault) : NativeError :=
  { code := fault.code?, sqlState := none, message := fault.message }

/-- The record of a fault that is found while a statement is prepared. -/
def nativeIn (fault : Fault) (sql : String) : NativeError :=
  match fault.offset? with
  | some offset =>
      NativeError.ofMessage
        (fault.message ++ " in " ++ sql ++ " at offset " ++ toString offset)
  | none => fault.native

end Fault

end Sqlwright.Engine
