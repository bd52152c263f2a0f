import Sqlwright.Calendar.Text
import Sqlwright.Json.Basic

/-!
# Values

A `Value` is what a placeholder is bound to and what a row holds.  Every
backend gets the same kinds of values, so that building a statement never
depends on the backend's own types.

The readings `int?`, `text?`, `bool?`, … give the content of a value when it is of
the kind asked for.  Two of them are lenient: the integers 0 and 1 are read as
booleans, and a text that writes a timestamp is read as one, because backends
without these kinds store them that way.
-/

namespace Sqlwright

open Sqlwright.Calendar
open Sqlwright.Decimal
open Sqlwright.Text

/-- A value bound to a placeholder or found in a row. -/
inductive Value where
  | null
  | int (value : Int64)
  | float (value : Binary64)
  | text (value : String)
  | bool (value : Bool)
  | timestamp (value : Timestamp)
  | json (document : Json)
  | binary (bytes : List UInt8)

instance : Inhabited Value := ⟨.null⟩

namespace Value

/-- The integer that stands for a truth value. -/
def ofBool (value : Bool) : Value :=
  .int (if value then 1 else 0)

/-- Whether a value is null. -/
def isNull : Value → Bool
  | .null => true
  | _ => false

/-- The integer that a value is. -/
def int? : Value → Option Int64
  | .int value => some value
  | _ => none

/-- The text that a value is. -/
def text? : Value → Option String
  | .text value => some value
  | _ => none

/-- A boolean, or one of the integers 0 and 1. -/
def bool? : Value → Option Bool
  | .bool value => some value
  | .int value =>
      if value = 1 then some true
      else if value = 0 then some false
      else none
  | _ => none

/-- The double that a value is. -/
def float? : Value → Option Binary64
  | .float value => some value
  | _ => none

/-- The bytes that a value is. -/
def binary? : Value → Option (List UInt8)
  | .binary bytes => some bytes
  | _ => none

/-- A timestamp, or a text that writes one. -/
def timestamp? : Value → Option Timestamp
  | .timestamp value => some value
  | .text value => Timestamp.read? value
  | _ => none

/--
The value of a JSON document.  Scalars become the value of their kind, an
integer beyond 64 signed bits the nearest double; arrays and objects stay
documents.
-/
def ofJson : Json → Value
  | .null => .null
  | .bool value => .bool value
  | .number (.integer value) =>
      match int64Of? value with
      | some word => .int word
      | none => .float (Binary64.ofInt value)
  | .number (.double value) => .float value
  | .string value => .text value
  | document => .json document

/--
Inspected doubles are positional from `1e-4` up to below `1e16`, and a positive
exponent has no sign.
-/
def floatLayout : Layout :=
  { leastPositional := -4
    greatestPositional := 15
    plus := ""
    tie := .larger
    infinityWord := "inf"
    notANumberWord := "NaN" }

/-- The words for the two truth values. -/
def inspectBool (value : Bool) : String :=
  if value then "true" else "false"

/-- A list of bytes in decimal. -/
def inspectBytes (bytes : List UInt8) : String :=
  inspectList (bytes.map fun byte => toString byte.toNat)

/-- A value with the name of its kind, for messages. -/
def inspect : Value → String
  | .null => "Null"
  | .int value => "Int(" ++ toString value.toInt ++ ")"
  | .float value => "Float(" ++ floatLayout.write value ++ ")"
  | .text value => "Text(" ++ inspectText value ++ ")"
  | .bool value => "Bool(" ++ inspectBool value ++ ")"
  | .timestamp value => "Timestamp(" ++ value.write "T" ++ ")"
  | .json document => "Json(" ++ document.inspect ++ ")"
  | .binary bytes => "Binary(" ++ inspectBytes bytes ++ ")"

@[simp]
theorem bool?_ofBool (value : Bool) : (ofBool value).bool? = some value := by
  cases value <;> decide

end Value

end Sqlwright
