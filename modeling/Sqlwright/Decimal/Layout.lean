import Sqlwright.Decimal.Shortest

/-!
# Writing a number

A `Layout` holds the decisions of one number format: which magnitudes are
written without an exponent, whether a positive exponent has a sign, where
ties go, and the words for infinity and for patterns that are no number.
Every layout keeps at least one digit on both sides of the point when there
is no exponent, and writes no digit that is not needed to read the number
back.
-/

namespace Sqlwright.Decimal

/-- The decisions of one number format. -/
structure Layout where
  /-- The least exponent of a first digit that is written positionally. -/
  leastPositional : Int
  /-- The greatest exponent of a first digit that is written positionally. -/
  greatestPositional : Int
  /-- Written before the digits of an exponent that is not negative. -/
  plus : String
  tie : Tie
  infinityWord : String
  notANumberWord : String

namespace Layout

/-- The digits of a number with its point at a fixed place. -/
def positional (digits : List Char) (leading : Int) : String :=
  let whole := (leading + 1).toNat
  if leading < 0 then
    "0." ++ String.ofList
      (List.replicate (-leading - 1).toNat '0' ++ digits)
  else if digits.length ≤ whole then
    String.ofList
      (digits ++ List.replicate (whole - digits.length) '0') ++ ".0"
  else
    String.ofList (digits.take whole) ++ "." ++
      String.ofList (digits.drop whole)

/-- One digit, the others behind a point, and the exponent. -/
def scientific (layout : Layout) (digits : List Char) (leading : Int) :
    String :=
  let rest := digits.drop 1
  let fraction := if rest.isEmpty then "" else "." ++ String.ofList rest
  let exponent :=
    if leading < 0 then "-" ++ toString leading.natAbs
    else layout.plus ++ toString leading.natAbs
  String.ofList (digits.take 1) ++ fraction ++ "e" ++ exponent

/-- A positive decimal number. -/
def decimal (layout : Layout) (value : Numeral) : String :=
  let digits := Nat.toDigits 10 value.digits
  let leading := value.exponent + digits.length - 1
  if layout.leastPositional ≤ leading ∧ leading ≤ layout.greatestPositional then
    positional digits leading
  else
    layout.scientific digits leading

/-- A number as a layout writes it, in the shortest digits that read back. -/
def write (layout : Layout) (number : Binary64) : String :=
  match number.reading with
  | .notANumber => layout.notANumberWord
  | .infinite negative =>
      (if negative then "-" else "") ++ layout.infinityWord
  | .finite negative mantissa exponent =>
      (if negative then "-" else "") ++
        if mantissa = 0 then "0.0"
        else layout.decimal (shortest layout.tie mantissa exponent)

end Layout

end Sqlwright.Decimal
