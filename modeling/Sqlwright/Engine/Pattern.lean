import Sqlwright.Decimal.Layout
import Sqlwright.Decimal.Rounded
import Sqlwright.Engine.Cell

/-!
# Patterns

A pattern of `LIKE` is matched with the whole of a text.  In a pattern `%`
stands for any text and `_` for any one character; the letters of ASCII stand
for themselves in both cases, and every other character for itself.

Cells of all classes but null have a text: numbers are written in decimal, and
bytes are read as characters.  The text of a cell ends at a character zero.
-/

namespace Sqlwright.Engine

open Sqlwright.Decimal

namespace Pattern

/-- The code of `%`, which stands for any text. -/
def anyText : Nat := 0x25

/-- The code of `_`, which stands for any one character. -/
def anyCharacter : Nat := 0x5F

/-- The code of a character, with the capital letters of ASCII made small. -/
def fold (code : Nat) : Nat :=
  if 0x41 ≤ code ∧ code ≤ 0x5A then code + 0x20 else code

/-- Whether a test holds of an end of a text, the whole and the empty one included. -/
def someEnd (test : List Nat → Bool) : List Nat → Bool
  | [] => test []
  | code :: rest => test (code :: rest) || someEnd test rest

/-- Whether a text as a whole matches a pattern, both given as codes. -/
def covers : (pattern text : List Nat) → Bool
  | [], text => text.isEmpty
  | sign :: pattern, text =>
      if sign = anyText then
        someEnd (covers pattern) text
      else
        match text with
        | [] => false
        | code :: rest =>
            (sign == anyCharacter || fold sign == fold code) &&
              covers pattern rest

/-- Bytes that go on with a character. -/
def continues (byte : UInt8) : Bool :=
  byte &&& 0xC0 == 0x80

/-- What the first byte of a character contributes to its code. -/
def leading (byte : UInt8) : Nat :=
  let value := byte.toNat
  if value < 0xC0 then value
  else if value < 0xE0 then value - 0xC0
  else if value < 0xF0 then value - 0xE0
  else if value < 0xF8 then value - 0xF0
  else if value < 0xFC then value - 0xF8
  else if value < 0xFE then value - 0xFC
  else 0

/-- The code of a character that cannot be one, if it stands for such a code. -/
def replaced (code : Nat) : Nat :=
  if code < 0x80 || code / 0x800 == 0x1B || code / 2 == 0x7FFF then 0xFFFD
  else code

/--
The codes of the characters that bytes are read as.  A byte from `C0` on takes
all bytes behind it that go on with a character; any other byte stands alone.
-/
def codes : List UInt8 → List Nat
  | [] => []
  | byte :: rest =>
      if byte < 0xC0 then
        byte.toNat :: codes rest
      else
        let code :=
          (rest.takeWhile continues).foldl
            (fun total next => (64 * total + (next &&& 0x3F).toNat) % Nat.pow 2 32)
            (leading byte)
        replaced code :: codes (rest.dropWhile continues)
termination_by bytes => bytes.length
decreasing_by
  · simp
  · have := (List.dropWhile_suffix continues (l := rest)).length_le
    simp only [List.length_cons]
    omega

/--
A double as a text: at most fifteen significant digits, at least one behind the
point, and an exponent of at least two digits from `1e15` on and below `1e-4`.
-/
def writeReal (number : Binary64) : String :=
  match number.reading with
  | .notANumber => ""
  | .infinite negative => if negative then "-Inf" else "Inf"
  | .finite negative mantissa exponent =>
      if mantissa = 0 then
        "0.0"
      else
        let value := rounded 15 mantissa exponent
        let digits := Nat.toDigits 10 value.digits
        let leading := value.exponent + digits.length - 1
        let magnitude :=
          if -4 ≤ leading ∧ leading ≤ 14 then
            Layout.positional digits leading
          else
            Layout.positional digits 0 ++ "e" ++
              (if leading < 0 then "-" else "+") ++
              Text.padded 2 leading.natAbs
        (if negative then "-" else "") ++ magnitude

/-- The bytes of a text. -/
def bytesOf (text : String) : List UInt8 :=
  text.toUTF8.toList

/-- The bytes of a cell's text; there are none for null. -/
def bytes? : Cell → Option (List UInt8)
  | .null => none
  | .integer value => some (bytesOf (toString value.toInt))
  | .real value => some (bytesOf (writeReal value))
  | .text value => some (bytesOf value)
  | .blob bytes => some bytes

/-- The codes of a cell's text, up to a character zero. -/
def codes? (cell : Cell) : Option (List Nat) :=
  (bytes? cell).map fun bytes => codes (bytes.takeWhile (· != 0))

/-- Whether the text of a cell matches a pattern; unknown if either is null. -/
def isLike? (cell pattern : Cell) : Option Bool := do
  let text ← codes? cell
  let signs ← codes? pattern
  pure (covers signs text)

end Pattern

end Sqlwright.Engine
