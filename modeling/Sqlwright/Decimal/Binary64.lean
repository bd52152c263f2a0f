/-!
# Binary floating-point numbers

A `Binary64` is the 64-bit pattern of an IEEE 754 double: a sign, eleven
exponent bits and fifty-two fraction bits.  `Binary64.reading` says which
number a pattern stands for, as a natural mantissa times a power of two, and
`Binary64.nearest` gives the pattern nearest to a quotient of natural numbers,
ties going to the even mantissa.  Everything is exact arithmetic on integers.
-/

namespace Sqlwright.Decimal

/-- The pattern of a double; two of them are equal when all bits are. -/
structure Binary64 where
  bits : UInt64
  deriving DecidableEq, Inhabited

namespace Binary64

/-- What a pattern stands for. -/
inductive Reading where
  /-- One of the patterns that are no number. -/
  | notANumber
  | infinite (negative : Bool)
  /-- The number `mantissa * 2 ^ exponent`, negated if `negative` holds. -/
  | finite (negative : Bool) (mantissa : Nat) (exponent : Int)
  deriving DecidableEq

/-- The sign bit. -/
def isNegative (number : Binary64) : Bool :=
  Nat.pow 2 63 ≤ number.bits.toNat

/-- The number that a pattern stands for. -/
def reading (number : Binary64) : Reading :=
  let magnitude : Nat := number.bits.toNat % Nat.pow 2 63
  let biased : Nat := magnitude / Nat.pow 2 52
  let fraction : Nat := magnitude % Nat.pow 2 52
  if biased = 2047 then
    if fraction = 0 then .infinite number.isNegative else .notANumber
  else if biased = 0 then
    .finite number.isNegative fraction (-1074)
  else
    .finite number.isNegative (Nat.pow 2 52 + fraction) ((biased : Int) - 1075)

/-- Whether the bits stand for no number. -/
def isNaN (number : Binary64) : Bool :=
  number.reading = .notANumber

/-- The pattern with a given sign and magnitude bits. -/
def ofMagnitude (negative : Bool) (magnitude : Nat) : Binary64 :=
  ⟨UInt64.ofNat ((if negative then Nat.pow 2 63 else 0) + magnitude)⟩

/-- The infinity of a sign: the greatest exponent, no mantissa. -/
def infinity (negative : Bool) : Binary64 :=
  ofMagnitude negative (2047 * Nat.pow 2 52)

/--
The integer nearest to `numerator / denominator`; of two equally near ones
the even one.
-/
def roundHalfEven (numerator denominator : Nat) : Nat :=
  let quotient := numerator / denominator
  let rest := numerator % denominator
  if 2 * rest < denominator then quotient
  else if 2 * rest > denominator then quotient + 1
  else quotient + quotient % 2

/-- The greatest `e` with `2 ^ e ≤ numerator / denominator`, both positive. -/
def binaryExponent (numerator denominator : Nat) : Int :=
  let guess := (numerator.log2 : Int) - denominator.log2
  let reached :=
    if 0 ≤ guess then
      denominator * Nat.pow 2 guess.toNat ≤ numerator
    else
      denominator ≤ numerator * Nat.pow 2 (-guess).toNat
  if reached then guess else guess - 1

/--
The pattern nearest to `numerator / denominator` with a given sign.  A
magnitude that rounds beyond the greatest finite number becomes infinite.
-/
def nearest (negative : Bool) (numerator denominator : Nat) : Binary64 :=
  if numerator = 0 then
    ofMagnitude negative 0
  else
    let exponent := max (-1074) (binaryExponent numerator denominator - 52)
    let mantissa :=
      if 0 ≤ exponent then
        roundHalfEven numerator (denominator * Nat.pow 2 exponent.toNat)
      else
        roundHalfEven (numerator * Nat.pow 2 (-exponent).toNat) denominator
    let magnitude := (exponent + 1074).toNat * Nat.pow 2 52 + mantissa
    if magnitude < 2047 * Nat.pow 2 52 then
      ofMagnitude negative magnitude
    else
      infinity negative

/--
The pattern nearest to `significand * 10 ^ exponent`.  Exponents far outside
the range of a double are answered without computing the power.
-/
def ofDecimal (negative : Bool) (significand : Nat) (exponent : Int) :
    Binary64 :=
  if significand = 0 then
    ofMagnitude negative 0
  else if 400 < exponent then
    infinity negative
  else if exponent + significand.log2 < -1200 then
    ofMagnitude negative 0
  else if 0 ≤ exponent then
    nearest negative (significand * Nat.pow 10 exponent.toNat) 1
  else
    nearest negative significand (Nat.pow 10 (-exponent).toNat)

/-- The pattern nearest to an integer. -/
def ofInt (value : Int) : Binary64 :=
  nearest (value < 0) value.natAbs 1

/--
A finite number as an integer over a power of two, with the power given by
its exponent.
-/
def scaled? (number : Binary64) : Option (Int × Nat) :=
  match number.reading with
  | .finite negative mantissa exponent =>
      let magnitude : Int := (mantissa * Nat.pow 2 exponent.toNat : Nat)
      some (if negative then -magnitude else magnitude, (-exponent).toNat)
  | _ => none

/--
The order of numbers by value: the infinities at both ends, both zeros equal.
Patterns that are no number stand below all others.
-/
def compareValue (left right : Binary64) : Ordering :=
  let rank (number : Binary64) : Int :=
    match number.reading with
    | .notANumber => -2
    | .infinite negative => if negative then -1 else 1
    | .finite .. => 0
  match scaledPair left right with
  | some (leftValue, rightValue) => compare leftValue rightValue
  | none => compare (rank left) (rank right)
where
  /-- Two finite numbers brought to one denominator. -/
  scaledPair (left right : Binary64) : Option (Int × Int) :=
    match left.scaled?, right.scaled? with
    | some (leftTop, leftShift), some (rightTop, rightShift) =>
        some (leftTop * Int.pow 2 rightShift, rightTop * Int.pow 2 leftShift)
    | _, _ => none

/-- The order of an integer and a number by value. -/
def compareInt (left : Int) (right : Binary64) : Ordering :=
  match right.reading with
  | .notANumber => .gt
  | .infinite negative => if negative then .gt else .lt
  | .finite .. =>
      match right.scaled? with
      | some (top, shift) => compare (left * Int.pow 2 shift) top
      | none => .gt

end Binary64

end Sqlwright.Decimal
