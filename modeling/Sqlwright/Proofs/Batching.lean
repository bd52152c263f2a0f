import Mathlib.Algebra.Order.Ring.Nat
import Sqlwright.Insertion.Batch

/-!
# Batches within limits

`Fits` says when a number of rows keeps within both limits of a backend.  The
batch size is the greatest such number, and no division of the rows into
consecutive groups that fit has fewer groups than the partition.
-/

namespace Sqlwright.Insertion

/-- A number of rows that both limits allow, where zero is no limit. -/
structure Fits (columns maxParams maxRows rows : Nat) : Prop where
  params_le : 0 < maxParams → rows * columns ≤ maxParams
  rows_le : 0 < maxRows → rows ≤ maxRows

/-! ## The batch size -/

theorem le_limited_iff (limit value count : Nat) :
    count ≤ limited limit value ↔
      (0 < limit → count ≤ limit) ∧ count ≤ value := by
  unfold limited
  split <;> omega

theorem batchSize_eq_ok_iff
    (columns rows maxParams maxRows size : Nat) :
    batchSize columns rows maxParams maxRows = .ok size ↔
      0 < columns ∧ ¬(0 < maxParams ∧ maxParams < columns) ∧
        limited (maxParams / columns) (limited maxRows (max rows 1)) =
          size := by
  unfold batchSize
  split
  · rename_i empty
    simp [empty]
  · rename_i nonempty
    have positive : 0 < columns := by omega
    split
    · rename_i wide
      simp only [reduceCtorEq, false_iff]
      exact fun allowed => allowed.2.1 wide
    · rename_i narrow
      simp only [Except.ok.injEq]
      exact ⟨fun same => ⟨positive, narrow, same⟩, fun parts => parts.2.2⟩

/-- With columns, only a row that is too wide has no batch size. -/
theorem batchSize_eq_error_of_wide
    {columns rows maxParams maxRows : Nat}
    (limit : 0 < maxParams) (wide : maxParams < columns) :
    batchSize columns rows maxParams maxRows =
      .error (.argument (.rowTooWide columns maxParams)) := by
  have nonempty : columns ≠ 0 := by omega
  simp [batchSize, nonempty, limit, wide]

/-- The batch size is the greatest number of rows that fits. -/
theorem le_batchSize_iff
    {columns rows maxParams maxRows size : Nat}
    (found : batchSize columns rows maxParams maxRows = .ok size)
    (count : Nat) :
    count ≤ size ↔
      Fits columns maxParams maxRows count ∧ count ≤ max rows 1 := by
  rcases (batchSize_eq_ok_iff _ _ _ _ _).1 found with ⟨positive, narrow, rfl⟩
  have quotient :
      (0 < maxParams / columns → count ≤ maxParams / columns) ↔
        (0 < maxParams → count * columns ≤ maxParams) := by
    rw [Nat.le_div_iff_mul_le positive, Nat.div_pos_iff]
    constructor
    · intro bounded limit
      exact bounded ⟨positive, by omega⟩
    · intro bounded wide
      exact bounded (by omega)
  rw [le_limited_iff, le_limited_iff, quotient]
  constructor
  · rintro ⟨params, bounded, within⟩
    exact ⟨⟨params, bounded⟩, within⟩
  · rintro ⟨fits, within⟩
    exact ⟨fits.params_le, fits.rows_le, within⟩

theorem batchSize_pos
    {columns rows maxParams maxRows size : Nat}
    (found : batchSize columns rows maxParams maxRows = .ok size) :
    0 < size := by
  have narrow := ((batchSize_eq_ok_iff _ _ _ _ _).1 found).2.1
  apply (le_batchSize_iff found 1).2
  refine ⟨⟨?_, ?_⟩, Nat.le_max_right rows 1⟩ <;> omega

/-! ## The partition -/

variable {Item Other : Type}

theorem length_of_mem_partition
    {size : Nat} {items group : List Item}
    (member : group ∈ partition size items) :
    0 < group.length ∧ group.length ≤ max size 1 := by
  fun_induction partition size items with
  | case1 => simp at member
  | case2 first rest induction =>
      rcases List.mem_cons.1 member with rfl | later
      · simp only [List.length_take, List.length_cons]
        omega
      · exact induction later

theorem length_partition_mul_lt
    (size : Nat) (items : List Item) :
    (partition size items).length * max size 1 <
      items.length + max size 1 := by
  fun_induction partition size items with
  | case1 =>
      simp only [List.length_nil]
      omega
  | case2 first rest induction =>
      simp only [List.length_drop, List.length_cons, Nat.add_mul] at *
      -- a group of the greatest size is only cut off while items are left
      rcases Nat.lt_or_ge (rest.length + 1) (max size 1) with short | long
      · have emptied :
            partition size ((first :: rest).drop (max size 1)) = [] := by
          rw [List.drop_eq_nil_of_le
            (by simp only [List.length_cons]; omega)]
          exact partition_nil size
        rw [emptied]
        simp only [List.length_nil]
        omega
      · omega

theorem length_flatten_le
    {size : Nat} {groups : List (List Item)}
    (bounded : ∀ group ∈ groups, group.length ≤ size) :
    groups.flatten.length ≤ groups.length * size := by
  induction groups with
  | nil => simp
  | cons group rest induction =>
      simp only [List.forall_mem_cons] at bounded
      have others := induction bounded.2
      simp only [List.flatten_cons, List.length_append, List.length_cons,
        Nat.add_mul]
      omega

theorem length_flatten_of_forall
    {size : Nat} {groups : List (List Item)}
    (equal : ∀ group ∈ groups, group.length = size) :
    groups.flatten.length = groups.length * size := by
  induction groups with
  | nil => simp
  | cons group rest induction =>
      simp only [List.forall_mem_cons] at equal
      rw [List.flatten_cons, List.length_append, equal.1, induction equal.2,
        List.length_cons, Nat.add_mul, Nat.one_mul, Nat.add_comm]

/-- No division into groups of the given size has fewer groups. -/
theorem length_partition_le
    {size : Nat} (positive : 0 < size) {items : List Item}
    {groups : List (List Other)}
    (divided : groups.flatten.length = items.length)
    (bounded : ∀ group ∈ groups, group.length ≤ size) :
    (partition size items).length ≤ groups.length := by
  have needed := length_partition_mul_lt size items
  have covered := length_flatten_le bounded
  rw [Nat.max_eq_left positive] at needed
  have less :
      (partition size items).length * size < (groups.length + 1) * size := by
    rw [Nat.add_mul]
    omega
  exact Nat.le_of_lt_succ (Nat.lt_of_mul_lt_mul_right less)

theorem sum_length_partition (size : Nat) (items : List Item) :
    ((partition size items).map List.length).sum = items.length := by
  rw [← List.length_flatten, flatten_partition]

end Sqlwright.Insertion
