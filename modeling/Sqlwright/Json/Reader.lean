import Sqlwright.Json.Basic
import Sqlwright.Text.Ascii

/-!
# Reading JSON

`Json.parse?` reads one document with white space around it.  It keeps the
order of fields, reads escapes (a pair of surrogate escapes is one character,
a lone one is refused), and reads a number with a point or an exponent as the
nearest double.  An integer outside the range from `-2 ^ 63` to `2 ^ 64 - 1` is
read as a double too.

Reading recurses on a budget that grows with the length of the text, and
every step uses up at least one character for at most two units of it.
-/

namespace Sqlwright.Json

open Sqlwright.Decimal
open Sqlwright.Text

/-- The four characters that may stand between the tokens of a document. -/
def isSpace (character : Char) : Bool :=
  character == ' ' || character == '\n' || character == '\r' || character == '\t'

/-- A text behind its leading white space. -/
def skipSpace (text : List Char) : List Char :=
  text.dropWhile isSpace

/-- The value of a hexadecimal digit. -/
def hexValue? (character : Char) : Option Nat :=
  if '0' ≤ character ∧ character ≤ '9' then
    some (character.toNat - '0'.toNat)
  else if 'a' ≤ character ∧ character ≤ 'f' then
    some (character.toNat - 'a'.toNat + 10)
  else if 'A' ≤ character ∧ character ≤ 'F' then
    some (character.toNat - 'A'.toNat + 10)
  else
    none

/-- The code of four hexadecimal digits, and the text behind them. -/
def readCode? : List Char → Option (Nat × List Char)
  | first :: second :: third :: fourth :: rest => do
      let high := (← hexValue? first) * 16 + (← hexValue? second)
      let low := (← hexValue? third) * 16 + (← hexValue? fourth)
      pure (high * 256 + low, rest)
  | _ => none

/-- The character with a code, if the code is one of a character. -/
def charOfCode? (code : Nat) : Option Char :=
  if valid : code.isValidChar then some (Char.ofNatAux code valid) else none

/-- The character of an escape, behind its backslash. -/
def readEscape? : List Char → Option (Char × List Char)
  | '"' :: rest => some ('"', rest)
  | '\\' :: rest => some ('\\', rest)
  | '/' :: rest => some ('/', rest)
  | 'b' :: rest => some ('\x08', rest)
  | 'f' :: rest => some ('\x0c', rest)
  | 'n' :: rest => some ('\n', rest)
  | 'r' :: rest => some ('\r', rest)
  | 't' :: rest => some ('\t', rest)
  | 'u' :: rest => do
      let (code, rest) ← readCode? rest
      if 0xD800 ≤ code ∧ code < 0xDC00 then
        match rest with
        | '\\' :: 'u' :: rest =>
            let (second, rest) ← readCode? rest
            if 0xDC00 ≤ second ∧ second < 0xE000 then
              let joined := 0x10000 + (code - 0xD800) * 0x400 + (second - 0xDC00)
              let character ← charOfCode? joined
              pure (character, rest)
            else
              none
        | _ => none
      else
        let character ← charOfCode? code
        pure (character, rest)
  | _ => none

/-- The characters of a string up to its closing quote, in reverse. -/
def readStringBody? (budget : Nat) (read : List Char) (text : List Char) :
    Option (String × List Char) :=
  match budget, text with
  | 0, _ => none
  | _, [] => none
  | _ + 1, '"' :: rest => some (String.ofList read.reverse, rest)
  | budget + 1, '\\' :: rest => do
      let (character, rest) ← readEscape? rest
      readStringBody? budget (character :: read) rest
  | budget + 1, character :: rest =>
      if character.toNat < 0x20 then none
      else readStringBody? budget (character :: read) rest

/-- The ASCII digits at the front of a text, and the text behind them. -/
def spanDigits (text : List Char) : List Char × List Char :=
  text.span fun character => (digitValue? character).isSome

/-- The number of a digit text; the empty text stands for zero. -/
def digitsValue (digits : List Char) : Nat :=
  (readNat? digits).getD 0

/-- The part of a number behind its point. -/
def readFraction? : List Char → Option (List Char × List Char)
  | '.' :: rest =>
      let (digits, rest) := spanDigits rest
      if digits.isEmpty then none else some (digits, rest)
  | rest => some ([], rest)

/-- The exponent of a number, if it has one. -/
def readExponent? : List Char → Option (Option Int × List Char)
  | marker :: rest =>
      if marker == 'e' || marker == 'E' then
        let (negative, rest) :=
          match rest with
          | '-' :: rest => (true, rest)
          | '+' :: rest => (false, rest)
          | rest => (false, rest)
        let (digits, rest) := spanDigits rest
        if digits.isEmpty then none
        else
          let size : Int := digitsValue digits
          some (some (if negative then -size else size), rest)
      else
        some (none, marker :: rest)
  | [] => some (none, [])

/--
Whether an integer is kept exactly: it has sixty-four bits, with or without a
sign.
-/
def inIntegerRange (value : Int) : Bool :=
  -Int.pow 2 63 ≤ value && value < Int.pow 2 64

/-- A number behind its sign. -/
def readUnsigned? (negative : Bool) (text : List Char) :
    Option (Number × List Char) := do
  let (whole, rest) := spanDigits text
  if whole.isEmpty || (whole.head? == some '0' && 1 < whole.length) then none
  let (fraction, rest) ← readFraction? rest
  let (exponent, rest) ← readExponent? rest
  let significand := digitsValue (whole ++ fraction)
  let value : Int := if negative then -(significand : Int) else significand
  if fraction.isEmpty && exponent.isNone && inIntegerRange value then
    pure (.integer value, rest)
  else
    let shift := exponent.getD 0 - fraction.length
    pure (.double (Binary64.ofDecimal negative significand shift), rest)

/-- A number with an optional minus in front. -/
def readNumber? : List Char → Option (Number × List Char)
  | '-' :: rest => readUnsigned? true rest
  | text => readUnsigned? false text

mutual

/-- One document at the front of a text. -/
def readValue? : Nat → List Char → Option (Json × List Char)
  | 0, _ => none
  | budget + 1, text =>
      match skipSpace text with
      | 'n' :: 'u' :: 'l' :: 'l' :: rest => some (.null, rest)
      | 't' :: 'r' :: 'u' :: 'e' :: rest => some (.bool true, rest)
      | 'f' :: 'a' :: 'l' :: 's' :: 'e' :: rest => some (.bool false, rest)
      | '"' :: rest => do
          let (value, rest) ← readStringBody? budget [] rest
          pure (.string value, rest)
      | '[' :: rest =>
          match skipSpace rest with
          | ']' :: rest => some (.array [], rest)
          | rest => do
              let (items, rest) ← readItems? budget rest
              pure (.array items, rest)
      | '{' :: rest =>
          match skipSpace rest with
          | '}' :: rest => some (.object [], rest)
          | rest => do
              let (fields, rest) ← readFields? budget rest
              pure (.object fields, rest)
      | rest => do
          let (value, rest) ← readNumber? rest
          pure (.number value, rest)

/-- The items of an array up to its closing bracket. -/
def readItems? : Nat → List Char → Option (List Json × List Char)
  | 0, _ => none
  | budget + 1, text => do
      let (item, rest) ← readValue? budget text
      match skipSpace rest with
      | ',' :: rest =>
          let (items, rest) ← readItems? budget rest
          pure (item :: items, rest)
      | ']' :: rest => pure ([item], rest)
      | _ => none

/-- The fields of an object up to its closing brace. -/
def readFields? : Nat → List Char → Option (List (String × Json) × List Char)
  | 0, _ => none
  | budget + 1, text =>
      match skipSpace text with
      | '"' :: rest => do
          let (name, rest) ← readStringBody? budget [] rest
          match skipSpace rest with
          | ':' :: rest =>
              let (item, rest) ← readValue? budget rest
              match skipSpace rest with
              | ',' :: rest =>
                  let (fields, rest) ← readFields? budget rest
                  pure ((name, item) :: fields, rest)
              | '}' :: rest => pure ([(name, item)], rest)
              | _ => none
          | _ => none
      | _ => none

end

/-- The document that a text holds, with nothing but white space around it. -/
def parse? (text : String) : Option Json := do
  let characters := text.toList
  let (document, rest) ← readValue? (2 * characters.length + 2) characters
  if (skipSpace rest).isEmpty then some document else none

end Sqlwright.Json
