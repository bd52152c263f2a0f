import Sqlwright.Decimal.Binary64

/-!
# The fewest digits that read back

A finite positive number `mantissa * 2 ^ exponent` is the nearest double of
every real number in a small interval around it; the ends belong to the
interval when the mantissa is even.  `shortest` gives the decimal number with
the fewest digits in that interval, of those the nearest one.  For each count
of digits only the two neighbours of the number on that decimal grid can be
the nearest, so both are tried; the first count with a hit wins.
-/

namespace Sqlwright.Decimal

/-- Where two decimals are equally near: the larger or the even one. -/
inductive Tie where
  | larger
  | even
  deriving DecidableEq

/--
A positive quantity as a quotient, together with the ends of the interval of
numbers that are read as it.  All three have the denominator `unit`.
-/
structure Interval where
  low : Nat
  value : Nat
  high : Nat
  unit : Nat
  closed : Bool

namespace Interval

/--
The interval of `mantissa * 2 ^ exponent`.  Below a power of two the
neighbour is only half as far away as above it.
-/
def around (mantissa : Nat) (exponent : Int) : Interval :=
  let below := if mantissa = Nat.pow 2 52 ∧ -1074 < exponent then 1 else 2
  let scale := Nat.pow 2 (exponent - 2).toNat
  { low := (4 * mantissa - below) * scale
    value := 4 * mantissa * scale
    high := (4 * mantissa + 2) * scale
    unit := Nat.pow 2 (2 - exponent).toNat
    closed := mantissa % 2 = 0 }

/-- Whether `numerator / denominator` lies in the interval. -/
def contains (interval : Interval) (numerator denominator : Nat) : Bool :=
  let point := numerator * interval.unit
  let low := interval.low * denominator
  let high := interval.high * denominator
  if interval.closed then
    low ≤ point && point ≤ high
  else
    low < point && point < high

end Interval

/-- The number of decimal digits of a natural number; one for zero. -/
def digitCount (value : Nat) : Nat :=
  (Nat.toDigits 10 value).length

/--
How often a quotient below one has to be multiplied by ten until it reaches
one, at most `fuel` times.
-/
def leadingZeros (fuel numerator denominator : Nat) : Nat :=
  match fuel with
  | 0 => 0
  | fuel + 1 =>
      if denominator ≤ numerator then 0
      else leadingZeros fuel (10 * numerator) denominator + 1

/-- The exponent of the first significant digit of a positive quotient. -/
def decimalExponent (numerator denominator : Nat) : Int :=
  if denominator ≤ numerator then
    (digitCount (numerator / denominator) : Int) - 1
  else
    -(leadingZeros 400 numerator denominator : Int)

/-- A positive decimal number: `digits * 10 ^ exponent`. -/
structure Numeral where
  digits : Nat
  exponent : Int
  deriving DecidableEq

namespace Numeral

/-- Zeros at the end of the digits moved into the exponent. -/
def strip (fuel : Nat) (numeral : Numeral) : Numeral :=
  match fuel with
  | 0 => numeral
  | fuel + 1 =>
      if numeral.digits % 10 = 0 ∧ numeral.digits ≠ 0 then
        strip fuel ⟨numeral.digits / 10, numeral.exponent + 1⟩
      else
        numeral

end Numeral

/--
The better of the two neighbours of an interval's value on the grid of
multiples of `10 ^ exponent`, if one of them lies in the interval.
-/
def onGrid (tie : Tie) (interval : Interval) (exponent : Int) :
    Option Numeral :=
  let top := Nat.pow 10 exponent.toNat
  let bottom := Nat.pow 10 (-exponent).toNat
  let scaledValue := interval.value * bottom
  let step := interval.unit * top
  let lower := scaledValue / step
  let rest := scaledValue % step
  let hits (digits : Nat) := interval.contains (digits * top) bottom
  let preferUpper : Bool :=
    if 2 * rest = step then
      match tie with
      | .larger => true
      | .even => lower % 2 == 1
    else
      decide (step < 2 * rest)
  match 0 < lower && hits lower, hits (lower + 1) with
  | true, true => some ⟨if preferUpper then lower + 1 else lower, exponent⟩
  | true, false => some ⟨lower, exponent⟩
  | false, true => some ⟨lower + 1, exponent⟩
  | false, false => none

/-- The first of the grids with `count`, `count + 1`, … digits that has a hit. -/
def firstOnGrid (tie : Tie) (interval : Interval) (leading : Int) :
    Nat → Nat → Numeral
  | 0, _ => ⟨interval.value / interval.unit, 0⟩
  | fuel + 1, count =>
      match onGrid tie interval (leading - count + 1) with
      | some found => found
      | none => firstOnGrid tie interval leading fuel (count + 1)

/--
The decimal number with the fewest digits that reads back as
`mantissa * 2 ^ exponent`, for a positive mantissa.  Seventeen digits always
suffice.
-/
def shortest (tie : Tie) (mantissa : Nat) (exponent : Int) : Numeral :=
  let interval := Interval.around mantissa exponent
  let leading := decimalExponent interval.value interval.unit
  (firstOnGrid tie interval leading 17 1).strip 17

end Sqlwright.Decimal
