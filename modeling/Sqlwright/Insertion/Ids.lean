import Sqlwright.Dialect

/-!
# Ids of inserted rows

A backend that reports one id for a batch of rows gives the others at a fixed
distance.  `reconstructIds` rebuilds all ids of a batch in the order of its
rows, or refuses when one of them would lie outside 64 signed bits.  The ids
are computed in exact integers, so nothing wraps.
-/

namespace Sqlwright.Insertion

/-- The greatest signed integer of 64 bits. -/
def greatestId : Nat := Nat.pow 2 63 - 1

/-- Whether an integer is one of 64 signed bits. -/
def isId (value : Int) : Bool :=
  -Int.pow 2 63 ≤ value && value ≤ greatestId

/-- The ids from `first` on, at a distance of `stride`, `rows` of them. -/
def idsFrom (first : Int) (stride rows : Nat) : List Int64 :=
  (List.range rows).map fun index =>
    Int64.ofInt (first + (index * stride : Nat))

/--
The ids of a batch of `rows` rows of which the first one, or the last one if
`fromLast` holds, has been reported.  A batch counts as at least one row.
-/
def spreadIds (fromLast : Bool) (stride : Nat) (reported : Int64) (rows : Nat) :
    Except Failure (List Int64) :=
  let steps := rows - 1
  let span := steps * stride
  let last : Int := if fromLast then reported.toInt - span
    else reported.toInt + span
  if greatestId < stride then
    .error (.setting (.strideOutOfRange stride))
  else if greatestId < steps then
    .error (.setting .tooManyRows)
  else if greatestId < span ∨ isId last = false then
    .error (.result (.idsOverflow rows reported stride))
  else
    .ok (idsFrom (if fromLast then last else reported.toInt) stride (steps + 1))

/--
The ids of a batch, from the one id that the driver reports.  No id, or zero,
means that none were generated; then and with every other retrieval there is
nothing to rebuild.
-/
def reconstructIds (retrieval : IdRetrieval) (reported : Option Int64)
    (rows : Nat) : Except Failure (List Int64) :=
  match reported.filter (· != 0) with
  | none => .ok []
  | some id =>
      match retrieval with
      | .firstStride stride => spreadIds false stride id rows
      | .lastStride stride => spreadIds true stride id rows
      | _ => .ok []

end Sqlwright.Insertion
