import Sqlwright.Decimal.Layout
import Sqlwright.Text.Quoted

/-!
# JSON documents

A `Json` document keeps the fields of an object in their written order.  A
number is an integer or a double: a number text without a point and without an
exponent is an integer.

`Json.compact` writes a document without spaces.  `Json.inspect` writes its
structure with the kind of each part, for messages.
-/

namespace Sqlwright

open Sqlwright.Decimal
open Sqlwright.Text

/-- Numbers of documents: integers of any size, and doubles. -/
inductive Json.Number where
  | integer (value : Int)
  | double (value : Binary64)
  deriving DecidableEq

/-- A JSON document; the fields of an object stay in order. -/
inductive Json where
  | null
  | bool (value : Bool)
  | number (value : Json.Number)
  | string (value : String)
  | array (items : List Json)
  | object (fields : List (String × Json))

namespace Json

/--
JSON numbers are positional from `1e-5` up to below `1e16`; beyond, a positive
exponent has a sign.  There are no texts for infinities.
-/
def numberLayout : Layout :=
  { leastPositional := -5
    greatestPositional := 15
    plus := "+"
    tie := .even
    infinityWord := "null"
    notANumberWord := "null" }

/-- A number as a document writes it. -/
def Number.write : Number → String
  | .integer value => toString value
  | .double value => numberLayout.write value

/-- A character within the quotes of a document. -/
def escapeChar (character : Char) : String :=
  match character with
  | '"' => "\\\""
  | '\\' => "\\\\"
  | '\n' => "\\n"
  | '\r' => "\\r"
  | '\t' => "\\t"
  | '\x08' => "\\b"
  | '\x0c' => "\\f"
  | _ =>
      if character.toNat < 0x20 then
        let digits := Nat.toDigits 16 character.toNat
        "\\u" ++ String.ofList (List.replicate (4 - digits.length) '0' ++ digits)
      else
        character.toString

/-- A JSON string with its quotes. -/
def writeString (text : String) : String :=
  "\"" ++ String.join (text.toList.map escapeChar) ++ "\""

mutual

/-- A document without spaces, the fields of objects in order. -/
def compact : Json → String
  | .null => "null"
  | .bool value => if value then "true" else "false"
  | .number value => value.write
  | .string value => writeString value
  | .array items => "[" ++ ",".intercalate (compactItems items) ++ "]"
  | .object fields => "\x7b" ++ ",".intercalate (compactFields fields) ++ "\x7d"

/-- The compact texts of the items of a list. -/
def compactItems : List Json → List String
  | [] => []
  | item :: items => compact item :: compactItems items

/-- The compact texts of the fields of an object. -/
def compactFields : List (String × Json) → List String
  | [] => []
  | (name, item) :: fields =>
      (writeString name ++ ":" ++ compact item) :: compactFields fields

end

mutual

/-- A document with the kind of each of its parts. -/
def inspect : Json → String
  | .null => "Null"
  | .bool value => "Bool(" ++ (if value then "true" else "false") ++ ")"
  | .number value => "Number(" ++ value.write ++ ")"
  | .string value => "String(" ++ inspectText value ++ ")"
  | .array items => "Array " ++ inspectList (inspectItems items)
  | .object fields =>
      "Object \x7b" ++ ", ".intercalate (inspectFields fields) ++ "\x7d"

/-- The items of a list, for messages. -/
def inspectItems : List Json → List String
  | [] => []
  | item :: items => inspect item :: inspectItems items

/-- The fields of an object, for messages. -/
def inspectFields : List (String × Json) → List String
  | [] => []
  | (name, item) :: fields =>
      (inspectText name ++ ": " ++ inspect item) :: inspectFields fields

end

/-- The value of the first field with a name; a document that is no object has none. -/
def field? (document : Json) (name : String) : Option Json :=
  match document with
  | .object fields => fields.lookup name
  | _ => none

/-- The text of a document that is a string. -/
def string? : Json → Option String
  | .string value => some value
  | _ => none

/-- The value of a document that is an integer. -/
def integer? : Json → Option Int
  | .number (.integer value) => some value
  | _ => none

/-- The value of a document that is `true` or `false`. -/
def bool? : Json → Option Bool
  | .bool value => some value
  | _ => none

/-- The items of a document that is an array. -/
def array? : Json → Option (List Json)
  | .array items => some items
  | _ => none

end Json

end Sqlwright
