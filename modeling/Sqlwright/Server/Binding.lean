import Sqlwright.Lexical.Placeholder
import Sqlwright.Value

/-!
# Parameters sent to a server

SQL Server numbers its placeholders `@P1`, `@P2`, …, and takes every value under
a type of its own.  A `BoundQuery` is the numbered statement with the values as
they are sent; `BoundQuery.inspect` shows both.

Dates are sent as days since the first day of year 1, and times as counts of a
hundred nanoseconds since midnight.
-/

namespace Sqlwright.Server

open Sqlwright.Text

/-- A value under the type in which it is sent. -/
inductive Parameter where
  | integer (value : Int64)
  | real (value : Decimal.Binary64)
  | bit (value : Bool)
  /-- A text, or null. -/
  | text (value : Option String)
  | binary (bytes : List UInt8)
  | dateTime (days : Int) (ticks : Nat)
  deriving DecidableEq

namespace Parameter

/-- The decimal places of a second that a count of ticks has. -/
def scale : Nat := 7

/-- The parameter that a value is sent as; documents are sent as their text. -/
def ofValue : Value → Parameter
  | .null => text none
  | .int value => integer value
  | .float value => real value
  | .text value => text (some value)
  | .bool value => bit value
  | .timestamp value =>
      dateTime value.date.daysFromEpoch (value.time.nanoseconds / 100)
  | .json document => text (some document.compact)
  | .binary bytes => binary bytes

/-- Something that is there, within the name of its type. -/
def present (type content : String) : String :=
  type ++ "(Some(" ++ content ++ "))"

/-- A parameter with its type, for messages. -/
def inspect : Parameter → String
  | integer value => present "I64" (toString value.toInt)
  | real value => present "F64" (Value.floatLayout.write value)
  | bit value => present "Bit" (Value.inspectBool value)
  | text none => "String(None)"
  | text (some value) => present "String" (inspectText value)
  | binary bytes => present "Binary" (Value.inspectBytes bytes)
  | dateTime days ticks =>
      present "DateTime2"
        ("DateTime2 \x7b date: Date(" ++ toString days ++
          "), time: Time \x7b increments: " ++ toString ticks ++ ", scale: " ++
          toString scale ++ " \x7d \x7d")

end Parameter

/-- A statement with numbered placeholders, and the values for them. -/
structure BoundQuery where
  sql : String
  params : List Parameter
  deriving DecidableEq

namespace BoundQuery

/-- A statement and its values; their numbers need not agree. -/
def ofStatement (sql : String) (params : List Value) : BoundQuery :=
  ⟨Lexical.number .atP sql, params.map Parameter.ofValue⟩

/-- A statement with its parameters, for messages. -/
def inspect (query : BoundQuery) : String :=
  "Query \x7b sql: " ++ inspectText query.sql ++ ", params: " ++
    inspectList (query.params.map Parameter.inspect) ++ " \x7d"

end BoundQuery

end Sqlwright.Server
