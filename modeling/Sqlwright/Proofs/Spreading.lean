import Sqlwright.Proofs.Ids

/-!
# Ids spread from the reported one

The id of each row is the sum of the first id and a multiple of the stride.
Taken in 64 bits, neither the multiple nor the sum is checked row by row, and
`Spread` says that there is no need to: none of them wraps.  Ids are never given
unless they are spread in this sense, with the reported id at its place.

They are refused if the farthest id lies outside of 64 bits, and that is the
case exactly if any of them does.  But they are refused as well if the way from
the reported id to the farthest one, taken by itself, has no place in 64 bits.
From an id on the other side of zero such a way can lead to an id that is in
range.  The second main theorem says for which strides and numbers of rows this
happens.
-/

namespace Sqlwright

/-- The id at a distance of some rows from the row whose id is reported. -/
def IdRetrieval.idAt
    (retrieval : IdRetrieval) (reported : Int64) (stride distance : Nat) :
    Int :=
  if retrieval.countsBack then reported.toInt - (distance * stride : Nat)
  else reported.toInt + (distance * stride : Nat)

namespace Insertion

/-! ## Products and sums in 64 bits -/

theorem isId_toInt (id : Int64) : isId id.toInt = true := by
  have least := id.le_toInt
  have greatest := id.toInt_lt
  rw [isId_iff]
  omega

theorem toInt_ofInt_of_isId
    {value : Int} (inside : isId value = true) :
    (Int64.ofInt value).toInt = value := by
  rw [isId_iff] at inside
  exact Int64.toInt_ofInt_of_le (by omega) (by omega)

/-- What lies between two ids is an id. -/
theorem isId_of_between
    {least value greatest : Int}
    (lower : isId least = true) (upper : isId greatest = true)
    (above : least ≤ value) (below : value ≤ greatest) :
    isId value = true := by
  rw [isId_iff] at lower upper ⊢
  omega

/--
The ids of some rows from `first` on.  In 64 bits the id of a row is computed
by one product and one sum, and both are exact.
-/
structure Spread
    (first : Int64) (stride rows : Nat) (ids : List Int64) : Prop where
  length_eq : ids.length = rows
  increasing : ids.Pairwise (· < ·)
  getElem?_eq :
    ∀ row < rows,
      ids[row]? = some (first + Int64.ofNat row * Int64.ofNat stride)
  product :
    ∀ row < rows,
      (Int64.ofNat row * Int64.ofNat stride).toInt = (row * stride : Nat)
  sum :
    ∀ row < rows,
      (first + Int64.ofNat row * Int64.ofNat stride).toInt =
        first.toInt + (row * stride : Nat)

/-- The product and the sum of a row give its id, or what 64 bits leave of it. -/
theorem ofInt_row (first : Int) (stride row : Nat) :
    Int64.ofInt (first + (row * stride : Nat)) =
      Int64.ofInt first + Int64.ofNat row * Int64.ofNat stride := by
  rw [Int64.ofInt_add, Int.natCast_mul, Int64.ofInt_mul,
    Int64.ofInt_eq_ofNat, Int64.ofInt_eq_ofNat]

/-- The two ends and the way between them bound all products and sums. -/
theorem spread_idsFrom
    {first : Int} {stride rows : Nat}
    (apart : 1 ≤ stride) (span : (rows - 1) * stride ≤ greatestId)
    (start : isId first = true)
    (finish : isId (first + ((rows - 1) * stride : Nat)) = true) :
    Spread (.ofInt first) stride rows (idsFrom first stride rows) := by
  have way {row : Nat} (before : row < rows) :
      row * stride ≤ (rows - 1) * stride :=
    Nat.mul_le_mul_right stride (by omega)
  have product {row : Nat} (before : row < rows) :
      (Int64.ofInt (row * stride : Nat)).toInt = (row * stride : Nat) :=
    toInt_ofInt_of_isId (isId_of_le (Nat.le_trans (way before) span))
  have sum {row : Nat} (before : row < rows) :
      (Int64.ofInt (first + (row * stride : Nat))).toInt =
        first + (row * stride : Nat) := by
    have nearer := way before
    exact
      toInt_ofInt_of_isId (isId_of_between start finish (by omega) (by omega))
  refine ⟨?_, ?_, ?_, ?_, ?_⟩
  · rw [idsFrom, List.length_map, List.length_range]
  · rw [idsFrom, List.pairwise_map]
    refine List.pairwise_lt_range.imp_of_mem ?_
    intro row later member laterMember ordered
    have longer : row * stride < later * stride :=
      Nat.mul_lt_mul_of_pos_right ordered apart
    rw [Int64.lt_iff_toInt_lt, sum (List.mem_range.1 member),
      sum (List.mem_range.1 laterMember)]
    omega
  · intro row before
    rw [idsFrom, List.getElem?_map, List.getElem?_range before,
      Option.map_some, ofInt_row]
  · intro row before
    have exact := product before
    rwa [Int.natCast_mul, Int64.ofInt_mul, Int64.ofInt_eq_ofNat,
      Int64.ofInt_eq_ofNat, ← Int.natCast_mul] at exact
  · intro row before
    rw [← ofInt_row, sum before, toInt_ofInt_of_isId start]

theorem Spread.toInt_getElem?
    {first : Int64} {stride rows row : Nat} {ids : List Int64}
    (spread : Spread first stride rows ids) (before : row < rows) :
    ids[row]?.map Int64.toInt =
      some (first.toInt + (row * stride : Nat)) := by
  rw [spread.getElem?_eq row before, Option.map_some, spread.sum row before]

/-! ## Given ids -/

/-- Without a stride or an id that is not zero there is nothing to rebuild. -/
theorem reconstructIds_of_silent
    {retrieval : IdRetrieval} {reported : Option Int64}
    (silent :
      retrieval.stride? = none ∨ reported = none ∨ reported = some 0)
    (rows : Nat) :
    reconstructIds retrieval reported rows = .ok [] := by
  rcases silent with unknown | rfl | rfl
  · rw [reconstructIds]
    cases retrieval with
    | none | outputTable column | returning column =>
        cases reported.filter (· != 0) <;> rfl
    | firstStride stride | lastStride stride => cases unknown
  · rfl
  · rfl

/-- Ids are given if the way to the farthest id and that id itself fit. -/
theorem reconstructIds_eq_ok_iff
    {retrieval : IdRetrieval} {stride rows : Nat} {id : Int64}
    {ids : List Int64}
    (known : retrieval.stride? = some stride) (nonzero : id ≠ 0)
    (nonempty : 1 ≤ rows) :
    reconstructIds retrieval (some id) rows = .ok ids ↔
      stride ≤ greatestId ∧ rows - 1 ≤ greatestId ∧
        (rows - 1) * stride ≤ greatestId ∧
        isId (retrieval.idAt id stride (rows - 1)) = true ∧
        ids =
          idsFrom
            (if retrieval.countsBack then retrieval.idAt id stride (rows - 1)
            else id.toInt)
            stride rows := by
  rw [reconstructIds_of_stride known nonzero, spreadIds_eq_ok_iff,
    Nat.sub_add_cancel nonempty]
  rfl

/--
Ids that are given are spread from the first one, and they are at exact
distances of the reported one, whichever row that belongs to.  If no id is
reported, or zero, or if the retrieval knows no stride, the answer is that
there are no ids.
-/
theorem reconstructIds_exact
    (retrieval : IdRetrieval) (reported : Option Int64) (rows : Nat) :
    (∀ (stride : Nat) (id : Int64) (ids : List Int64),
      retrieval.stride? = some stride → 1 ≤ stride → 1 ≤ rows →
        reported = some id → id ≠ 0 →
          reconstructIds retrieval reported rows = .ok ids →
            (∃ first, Spread first stride rows ids) ∧
              (retrieval = .firstStride stride →
                ∀ row < rows,
                  ids[row]?.map Int64.toInt =
                    some (id.toInt + (row * stride : Nat))) ∧
              (retrieval = .lastStride stride →
                ∀ row < rows,
                  ids[row]?.map Int64.toInt =
                    some (id.toInt - ((rows - 1 - row) * stride : Nat)))) ∧
      ((retrieval.stride? = none ∨ reported = none ∨ reported = some 0) →
        reconstructIds retrieval reported rows = .ok []) := by
  refine ⟨?_, fun silent => reconstructIds_of_silent silent rows⟩
  rintro stride id ids known apart nonempty rfl nonzero given
  rw [reconstructIds_eq_ok_iff known nonzero nonempty] at given
  rcases given with ⟨-, -, span, inside, rfl⟩
  cases retrieval with
  | none | outputTable column | returning column => cases known
  | firstStride distance =>
      have spread := spread_idsFrom apart span (isId_toInt id) inside
      refine ⟨⟨_, spread⟩, fun _ row before => ?_, nofun⟩
      rw [Int64.ofInt_toInt] at spread
      exact spread.toInt_getElem? before
  | lastStride distance =>
      have start :
          isId (id.toInt - ((rows - 1) * stride : Nat)) = true := inside
      have finish := isId_toInt id
      rw [← Int.sub_add_cancel id.toInt ((rows - 1) * stride : Nat)] at finish
      have spread := spread_idsFrom apart span start finish
      refine ⟨⟨_, spread⟩, nofun, fun _ row before => ?_⟩
      have way :
          row * stride + (rows - 1 - row) * stride = (rows - 1) * stride := by
        rw [← Nat.add_mul, Nat.add_sub_of_le (Nat.le_sub_one_of_lt before)]
      refine (spread.toInt_getElem? before).trans (congrArg some ?_)
      rw [toInt_ofInt_of_isId start]
      omega

/-- The least id of all at the greatest stride, counted back from minus one. -/
theorem reconstructIds_exact_leastId :
    reconstructIds (.lastStride greatestId) (some (-1)) 2 =
        .ok [Int64.minValue, -1] ∧
      (∃ first, Spread first greatestId 2 [Int64.minValue, -1]) ∧
      reconstructIds .none (some (-1)) 2 = .ok [] := by
  have given :
      reconstructIds (.lastStride greatestId) (some (-1)) 2 =
        .ok [Int64.minValue, -1] := rfl
  have exact :=
    (reconstructIds_exact (.lastStride greatestId) (some (-1)) 2).1 greatestId
      (-1) [Int64.minValue, -1] rfl (by decide) (by decide) rfl (by decide)
      given
  have silent :=
    (reconstructIds_exact .none (some (-1)) 2).2 (.inl rfl)
  exact ⟨given, exact.1, silent⟩

/-! ## Refused ids -/

/-- The ids of all rows have a place in 64 bits. -/
def InRange
    (retrieval : IdRetrieval) (id : Int64) (stride rows : Nat) : Prop :=
  ∀ distance < rows, isId (retrieval.idAt id stride distance) = true

/-- The ids are in range if the farthest one is. -/
theorem inRange_iff
    {retrieval : IdRetrieval} {id : Int64} {stride rows : Nat}
    (nonempty : 1 ≤ rows) :
    InRange retrieval id stride rows ↔
      isId (retrieval.idAt id stride (rows - 1)) = true := by
  constructor
  · exact fun inRange => inRange (rows - 1) (Nat.sub_one_lt_of_lt nonempty)
  · intro farthest distance before
    have way : distance * stride ≤ (rows - 1) * stride :=
      Nat.mul_le_mul_right stride (Nat.le_sub_one_of_lt before)
    have reported := isId_toInt id
    rw [IdRetrieval.idAt] at farthest ⊢
    split at farthest
    · rename_i back
      rw [if_pos back]
      exact isId_of_between farthest reported (by omega) (by omega)
    · rename_i forth
      rw [if_neg forth]
      exact isId_of_between reported farthest (by omega) (by omega)

/-- The rule: ids are refused if one of them is out of range, and only then. -/
def Ruled
    (retrieval : IdRetrieval) (id : Int64) (stride rows : Nat) : Prop :=
  (reconstructIds retrieval (some id) rows =
      .error (.result (.idsOverflow rows id stride)) ↔
    ¬ InRange retrieval id stride rows) ∧
    ((∃ ids, reconstructIds retrieval (some id) rows = .ok ids) ↔
      InRange retrieval id stride rows)

variable
    {retrieval : IdRetrieval} {stride rows : Nat}

theorem reconstructIds_eq_error_iff
    {id : Int64}
    (known : retrieval.stride? = some stride)
    (narrow : stride ≤ greatestId) (nonempty : 1 ≤ rows)
    (few : rows ≤ greatestId) (nonzero : id ≠ 0) :
    reconstructIds retrieval (some id) rows =
        .error (.result (.idsOverflow rows id stride)) ↔
      ¬ InRange retrieval id stride rows ∨ greatestId < (rows - 1) * stride := by
  rw [reconstructIds_of_stride known nonzero, inRange_iff nonempty, spreadIds,
    if_neg (Nat.not_lt.2 narrow), if_neg (by omega), Bool.not_eq_true]
  by_cases refused :
      greatestId < (rows - 1) * stride ∨
        isId (retrieval.idAt id stride (rows - 1)) = false
  · exact iff_of_true (if_pos refused) refused.symm
  · refine iff_of_false ?_ fun either => refused either.symm
    intro same
    cases (if_neg refused).symm.trans same

theorem exists_reconstructIds_iff
    {id : Int64}
    (known : retrieval.stride? = some stride)
    (narrow : stride ≤ greatestId) (nonempty : 1 ≤ rows)
    (few : rows ≤ greatestId) (nonzero : id ≠ 0) :
    (∃ ids, reconstructIds retrieval (some id) rows = .ok ids) ↔
      InRange retrieval id stride rows ∧ (rows - 1) * stride ≤ greatestId := by
  simp only [reconstructIds_eq_ok_iff known nonzero nonempty,
    inRange_iff nonempty]
  constructor
  · rintro ⟨ids, -, -, span, inside, -⟩
    exact ⟨inside, span⟩
  · rintro ⟨inside, span⟩
    exact ⟨_, narrow, by omega, span, inside, rfl⟩

/-- No two ids are as far apart as a way that is too long for every id. -/
theorem not_inRange_of_far
    {id : Int64} (nonempty : 1 ≤ rows)
    (far : 2 * greatestId + 1 < (rows - 1) * stride) :
    ¬ InRange retrieval id stride rows := by
  have reported := isId_toInt id
  rw [inRange_iff nonempty]
  intro farthest
  rw [isId_iff] at reported farthest
  rw [greatestId_eq] at far
  rw [IdRetrieval.idAt] at farthest
  split at farthest <;> omega

/-- The id from which the way to the farthest id is the longest one. -/
def outermost (retrieval : IdRetrieval) : Int64 :=
  if retrieval.countsBack then Int64.maxValue else Int64.minValue

theorem outermost_ne_zero (retrieval : IdRetrieval) :
    outermost retrieval ≠ 0 := by
  rw [outermost]
  split <;> decide

theorem inRange_outermost
    (nonempty : 1 ≤ rows)
    (near : (rows - 1) * stride ≤ 2 * greatestId + 1) :
    InRange retrieval (outermost retrieval) stride rows := by
  rw [greatestId_eq] at near
  rw [inRange_iff nonempty, IdRetrieval.idAt, outermost, isId_iff]
  split
  · rw [Int64.toInt_maxValue]
    omega
  · rw [Int64.toInt_minValue]
    omega

/--
A batch is refused if one of its ids is out of range, and also if the way to the
farthest id is, taken by itself.  So the rule holds of all ids that can be
reported exactly if the way is short enough not to be refused, or so long that
it leads out of 64 bits from everywhere.
-/
theorem reconstructIds_refuses_iff
    (known : retrieval.stride? = some stride)
    (narrow : stride ≤ greatestId) (nonempty : 1 ≤ rows)
    (few : rows ≤ greatestId) :
    (∀ id : Int64, id ≠ 0 →
      (reconstructIds retrieval (some id) rows =
          .error (.result (.idsOverflow rows id stride)) ↔
        ¬ InRange retrieval id stride rows ∨
          greatestId < (rows - 1) * stride) ∧
        ((∃ ids, reconstructIds retrieval (some id) rows = .ok ids) ↔
          InRange retrieval id stride rows ∧
            (rows - 1) * stride ≤ greatestId)) ∧
      ((∀ id : Int64, id ≠ 0 → Ruled retrieval id stride rows) ↔
        (rows - 1) * stride ≤ greatestId ∨
          2 * greatestId + 1 < (rows - 1) * stride) := by
  have refused {id : Int64} (nonzero : id ≠ 0) :=
    reconstructIds_eq_error_iff known narrow nonempty few nonzero
  have given {id : Int64} (nonzero : id ≠ 0) :=
    exists_reconstructIds_iff known narrow nonempty few nonzero
  refine ⟨fun id nonzero => ⟨refused nonzero, given nonzero⟩, ?_, ?_⟩
  · intro ruled
    have nonzero := outermost_ne_zero retrieval
    rcases Nat.lt_or_ge greatestId ((rows - 1) * stride) with long | short
    · rcases Nat.lt_or_ge (2 * greatestId + 1) ((rows - 1) * stride) with
        far | near
      · exact .inr far
      · exact
          absurd (inRange_outermost nonempty near)
            ((ruled _ nonzero).1.1 ((refused nonzero).2 (.inr long)))
    · exact .inl short
  · intro short id nonzero
    rw [Ruled, refused nonzero, given nonzero]
    rcases short with short | far
    · simp [short, Nat.not_lt.2 short]
    · simp [not_inRange_of_far nonempty far]

/-- Two rows at the greatest distance, from an id below zero and one above. -/
theorem reconstructIds_refuses_iff_greatestStride :
    (∀ id : Int64, id ≠ 0 → Ruled (.firstStride greatestId) id greatestId 2) ∧
      reconstructIds (.firstStride greatestId) (some (-1)) 2 =
        .ok [-1, 9223372036854775806] ∧
      reconstructIds (.firstStride greatestId) (some 1) 2 =
        .error (.result (.idsOverflow 2 1 greatestId)) := by
  have rule :=
    @reconstructIds_refuses_iff (.firstStride greatestId) greatestId 2 rfl
      (Nat.le_refl greatestId) (by decide) (by decide)
  exact ⟨rule.2.2 (.inl (by decide)), rfl, rfl⟩

/-- All ids are in range, but not the way to the last of them. -/
theorem inRange_refusedWay :
    InRange (.firstStride 4611686018427387904) (-1) 4611686018427387904 3 ∧
      reconstructIds (.firstStride 4611686018427387904) (some (-1)) 3 =
        .error (.result (.idsOverflow 3 (-1) 4611686018427387904)) := by
  refine ⟨?_, rfl⟩
  rw [inRange_iff (by decide)]
  decide

end Insertion

end Sqlwright
