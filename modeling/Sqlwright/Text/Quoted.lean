import Sqlwright.Text.Printable

/-!
# Inspected text

`inspectText` writes a text between double quotes so that it can be told apart
from every other text on sight: quotes and backslashes are escaped, common
control characters have a letter, and the other characters that cannot be
seen are written as their code in hexadecimal.
-/

namespace Sqlwright.Text

/-- A character as it is written between double quotes. -/
def inspectChar (character : Char) : String :=
  match character with
  | '"' => "\\\""
  | '\\' => "\\\\"
  | '\n' => "\\n"
  | '\r' => "\\r"
  | '\t' => "\\t"
  | '\x00' => "\\0"
  | _ =>
      if isPrintable character then
        character.toString
      else
        "\\u\x7b" ++ String.ofList (Nat.toDigits 16 character.toNat) ++ "\x7d"

/-- A text between double quotes, with escapes. -/
def inspectText (text : String) : String :=
  "\"" ++ String.join (text.toList.map inspectChar) ++ "\""

/-- Items between brackets, separated by commas. -/
def inspectList (items : List String) : String :=
  "[" ++ ", ".intercalate items ++ "]"

/-- An optional item as `Some(item)` or `None`. -/
def inspectOption (item : Option String) : String :=
  match item with
  | none => "None"
  | some text => "Some(" ++ text ++ ")"

end Sqlwright.Text
