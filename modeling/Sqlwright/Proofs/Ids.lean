import Sqlwright.Insertion.Ids

/-!
# Ids of consecutive rows

If every row of an insertion gets an id at a fixed distance from that of the
row before, the ids of a batch can be told from one of them.  The main theorem
says that they are rebuilt from the id of whichever row the backend reports.
-/

namespace Sqlwright

/-- The distance between the ids of two rows, if it is used to find them. -/
def IdRetrieval.stride? : IdRetrieval → Option Nat
  | firstStride stride | lastStride stride => some stride
  | _ => Option.none

/-- The row whose id is reported for `count` rows that begin with `row`. -/
def IdRetrieval.reportedRow (retrieval : IdRetrieval) (row count : Nat) : Nat :=
  match retrieval with
  | lastStride _ => row + (count - 1)
  | _ => row

/-- Whether the ids of a batch are counted back from the reported one. -/
def IdRetrieval.countsBack : IdRetrieval → Bool
  | lastStride _ => true
  | _ => false

namespace Insertion

theorem greatestId_eq : greatestId = 9223372036854775807 := rfl

theorem isId_iff (value : Int) :
    isId value = true ↔
      -9223372036854775808 ≤ value ∧ value ≤ 9223372036854775807 := by
  have least : -Int.pow 2 63 = -9223372036854775808 := rfl
  rw [isId, least, greatestId_eq, Bool.and_eq_true, decide_eq_true_eq,
    decide_eq_true_eq]
  rfl

theorem idsFrom_add (first stride front back : Nat) :
    idsFrom first stride (front + back) =
      idsFrom first stride front ++
        idsFrom ((first + front * stride : Nat) : Int) stride back := by
  simp only [idsFrom, List.range_add, List.map_append, List.map_map]
  congr 1
  apply List.map_congr_left
  intro index _
  simp only [Function.comp_apply, Nat.add_mul, Int.natCast_add]
  congr 1
  omega

/-- Ids that fit into 64 signed bits do not wrap. -/
theorem toInt_idsFrom
    {first stride rows : Nat}
    (inside : first + (rows - 1) * stride ≤ greatestId) :
    (idsFrom first stride rows).map Int64.toInt =
      (List.range rows).map fun index =>
        ((first + index * stride : Nat) : Int) := by
  rw [idsFrom, List.map_map]
  apply List.map_congr_left
  intro index member
  have before : index ≤ rows - 1 := by
    have below := List.mem_range.1 member
    omega
  have span := Nat.mul_le_mul_right stride before
  rw [greatestId_eq] at inside
  exact Int64.toInt_ofInt_of_le (by omega) (by omega)

/-- Ids are spread if neither the distances nor the farthest id overflow. -/
theorem spreadIds_eq_ok_iff
    {fromLast : Bool} {stride rows : Nat} {reported : Int64}
    {ids : List Int64} :
    spreadIds fromLast stride reported rows = .ok ids ↔
      let span := (rows - 1) * stride
      let farthest : Int :=
        if fromLast then reported.toInt - span else reported.toInt + span
      stride ≤ greatestId ∧ rows - 1 ≤ greatestId ∧ span ≤ greatestId ∧
        isId farthest = true ∧
        ids =
          idsFrom (if fromLast then farthest else reported.toInt) stride
            (rows - 1 + 1) := by
  simp only [spreadIds]
  by_cases wide : greatestId < stride
  · rw [if_pos wide]
    simp only [reduceCtorEq, false_iff]
    intro possible
    exact absurd possible.1 (by omega)
  · rw [if_neg wide]
    by_cases many : greatestId < rows - 1
    · rw [if_pos many]
      simp only [reduceCtorEq, false_iff]
      intro possible
      exact absurd possible.2.1 (by omega)
    · rw [if_neg many]
      by_cases long : greatestId < (rows - 1) * stride
      · rw [if_pos (.inl long)]
        simp only [reduceCtorEq, false_iff]
        intro possible
        exact absurd possible.2.2.1 (by omega)
      · simp only [long, false_or, Nat.not_lt.1 wide, Nat.not_lt.1 many,
          Nat.not_lt.1 long, true_and]
        cases isId
            (if fromLast then reported.toInt - ((rows - 1) * stride : Nat)
            else reported.toInt + ((rows - 1) * stride : Nat)) with
        | false => simp
        | true => simp [eq_comm]

theorem isId_of_le {value : Nat} (small : value ≤ greatestId) :
    isId value = true := by
  rw [greatestId_eq] at small
  rw [isId_iff]
  omega

/-- Ids are rebuilt if a stride is known and an id other than zero reported. -/
theorem reconstructIds_of_stride
    {retrieval : IdRetrieval} {stride : Nat} {id : Int64}
    (known : retrieval.stride? = some stride) (nonzero : id ≠ 0)
    (rows : Nat) :
    reconstructIds retrieval (some id) rows =
      spreadIds retrieval.countsBack stride id rows := by
  have found : (some id).filter (· != 0) = some id := by
    simp [nonzero]
  cases retrieval with
  | none | outputTable column | returning column => cases known
  | firstStride distance | lastStride distance =>
      cases known
      simp only [reconstructIds, found]
      rfl

/--
The ids of `rows` rows from the row number `row` on, of which the backend
reports one.
-/
theorem reconstructIds_eq_ok
    {retrieval : IdRetrieval} {first stride row rows : Nat} {id : Int64}
    (known : retrieval.stride? = some stride) (apart : 1 ≤ stride)
    (narrow : stride ≤ greatestId) (positive : 1 ≤ first) (nonempty : 1 ≤ rows)
    (inside : first + (row + (rows - 1)) * stride ≤ greatestId)
    (reported :
      id.toInt =
        ((first + retrieval.reportedRow row rows * stride : Nat) : Int)) :
    reconstructIds retrieval (some id) rows =
      .ok (idsFrom ((first + row * stride : Nat) : Int) stride rows) := by
  have nonzero : id ≠ 0 := by
    rintro rfl
    have zero : (0 : Int64).toInt = 0 := rfl
    omega
  have steps : rows - 1 ≤ (rows - 1) * stride := Nat.le_mul_of_pos_right _ apart
  have again : rows - 1 + 1 = rows := Nat.sub_add_cancel nonempty
  rw [Nat.add_mul] at inside
  rw [reconstructIds_of_stride known nonzero, spreadIds_eq_ok_iff, again]
  cases retrieval with
  | none | outputTable column | returning column => cases known
  | firstStride distance =>
      cases known
      have forth : (IdRetrieval.firstStride stride).countsBack = false := rfl
      have farthest :
          id.toInt + ((rows - 1) * stride : Nat) =
            ((first + (row * stride + (rows - 1) * stride) : Nat) : Int) := by
        rw [reported]
        simp only [IdRetrieval.reportedRow]
        omega
      rw [forth]
      refine ⟨narrow, by omega, by omega, ?_, ?_⟩
      · rw [if_neg Bool.false_ne_true, farthest]
        exact isId_of_le inside
      · rw [if_neg Bool.false_ne_true, reported]
        rfl
  | lastStride distance =>
      cases known
      have back : (IdRetrieval.lastStride stride).countsBack = true := rfl
      have farthest :
          id.toInt - ((rows - 1) * stride : Nat) =
            ((first + row * stride : Nat) : Int) := by
        rw [reported]
        simp only [IdRetrieval.reportedRow, Nat.add_mul]
        omega
      rw [back]
      refine ⟨narrow, by omega, by omega, ?_, ?_⟩
      · rw [if_pos rfl, farthest]
        exact isId_of_le (by omega)
      · rw [if_pos rfl, if_pos rfl, farthest]

end Insertion

end Sqlwright
