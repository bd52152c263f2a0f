import Sqlwright.Decimal.Shortest

/-!
# A fixed count of significant digits

`rounded` gives the decimal number with a fixed count of significant digits
that is nearest to a positive number `mantissa * 2 ^ exponent`.  Of two equally
near ones it takes the larger.
-/

namespace Sqlwright.Decimal

/-- The natural number nearest to a quotient; ties go to the larger one. -/
def roundHalfUp (numerator denominator : Nat) : Nat :=
  (2 * numerator + denominator) / (2 * denominator)

/--
The decimal number with at most `count` digits that is nearest to
`mantissa * 2 ^ exponent`, without zeros at the end of its digits.
-/
def rounded (count mantissa : Nat) (exponent : Int) : Numeral :=
  let numerator := mantissa * Nat.pow 2 exponent.toNat
  let denominator := Nat.pow 2 (-exponent).toNat
  let unit := decimalExponent numerator denominator - count + 1
  let digits :=
    roundHalfUp (numerator * Nat.pow 10 (-unit).toNat)
      (denominator * Nat.pow 10 unit.toNat)
  Numeral.strip (count + 1) ⟨digits, unit⟩

end Sqlwright.Decimal
