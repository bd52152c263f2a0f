import Sqlwright.Change
import Sqlwright.Proofs.Decoding
import Sqlwright.Proofs.Planning
import Sqlwright.Proofs.Request

/-!
# Texts do not depend on values

What is written for a filter, an update or an insertion is compared with what
is written for another one of the same shape, with other values in it.  Both
fail in the same way, or both succeed with the same text, and each has its own
values at the same places.

Where a column is compared with a single value, and in a list of patterns, a
null is not just another value, so filters of the same shape have their nulls
at the same places.  `Filter.slots` says which values get a placeholder: all
but the nulls for which a column is tested for absence.  Nothing is asked of
the values that an update sets or that an insertion inserts.
-/

namespace Sqlwright

open Sqlwright.Success

/-! ## Two runs -/

/-- Two runs fail in the same way, or succeed with related results. -/
inductive Parallel {Fault First Second : Type}
    (related : First → Second → Prop) :
    Except Fault First → Except Fault Second → Prop where
  | error (fault : Fault) : Parallel related (.error fault) (.error fault)
  | ok {first : First} {second : Second} :
      related first second → Parallel related (.ok first) (.ok second)

namespace Parallel

variable {Fault First Second Third Fourth : Type}
  {related : First → Second → Prop} {next : Third → Fourth → Prop}

/-- A run beside itself. -/
theorem same (run : Except Fault First) : Parallel Eq run run := by
  cases run with
  | error fault => exact .error fault
  | ok result => exact .ok rfl

theorem bind
    {left : Except Fault First} {right : Except Fault Second}
    {leftNext : First → Except Fault Third}
    {rightNext : Second → Except Fault Fourth}
    (start : Parallel related left right)
    (step :
      ∀ first second, related first second →
        Parallel next (leftNext first) (rightNext second)) :
    Parallel next (left >>= leftNext) (right >>= rightNext) := by
  cases start with
  | error fault => exact .error fault
  | ok pair => exact step _ _ pair

/-- A run that both sides begin with. -/
theorem bind_same
    (run : Except Fault First)
    {leftNext : First → Except Fault Third}
    {rightNext : First → Except Fault Fourth}
    (step : ∀ result, Parallel next (leftNext result) (rightNext result)) :
    Parallel next (run >>= leftNext) (run >>= rightNext) := by
  apply (same run).bind
  rintro result _ rfl
  exact step result

theorem mapM
    {Left Right : Type} {given : Left → Right → Prop}
    {leftStep : Left → Except Fault First}
    {rightStep : Right → Except Fault Second}
    {lefts : List Left} {rights : List Right}
    (pairs : List.Forall₂ given lefts rights)
    (step :
      ∀ left right, given left right →
        Parallel related (leftStep left) (rightStep right)) :
    Parallel (List.Forall₂ related) (lefts.mapM leftStep)
      (rights.mapM rightStep) := by
  induction pairs with
  | nil => exact .ok .nil
  | cons pair others induction =>
      rw [List.mapM_cons, List.mapM_cons]
      apply (step _ _ pair).bind
      intro first second head
      apply induction.bind
      intro firsts seconds tail
      exact .ok (.cons head tail)

/-- A run succeeds if the one beside it does. -/
theorem exists_ok
    {first : First} {right : Except Fault Second}
    (runs : Parallel related (.ok first) right) :
    ∃ second, right = .ok second ∧ related first second := by
  cases runs with
  | ok pair => exact ⟨_, rfl, pair⟩

/-- What each run gives may be said of the results as well. -/
theorem imp
    {left : Except Fault First} {right : Except Fault Second}
    {stronger : First → Second → Prop} (runs : Parallel related left right)
    (each :
      ∀ first second, left = .ok first → right = .ok second →
        related first second → stronger first second) :
    Parallel stronger left right := by
  cases runs with
  | error fault => exact .error fault
  | ok pair => exact .ok (each _ _ rfl rfl pair)

end Parallel

/-! ## Shapes of filters -/

/-- Operands of one kind and length, with nulls at the same places. -/
inductive Operand.SameShape : Operand → Operand → Prop where
  | value {left right : Value} :
      left.isNull = right.isNull → SameShape (.value left) (.value right)
  | list {lefts rights : List Value} :
      lefts.map Value.isNull = rights.map Value.isNull →
        SameShape (.list lefts) (.list rights)

/-- Conditions of one kind with the same operators, but for their values. -/
inductive Condition.SameShape : Condition → Condition → Prop where
  | value {left right : Value} :
      left.isNull = right.isNull → SameShape (.value left) (.value right)
  | oneOf {lefts rights : List Value} :
      lefts.map Value.isNull = rights.map Value.isNull →
        SameShape (.oneOf lefts) (.oneOf rights)
  | all {lefts rights : List (Operator × Operand)} :
      List.Forall₂
          (fun left right => left.1 = right.1 ∧ left.2.SameShape right.2)
          lefts rights →
        SameShape (.all lefts) (.all rights)

/-- Filters with the same columns and the same conditions, but for values. -/
def Filter.SameShape (left right : Filter) : Prop :=
  List.Forall₂ (fun first second => first.1 = second.1 ∧
    first.2.SameShape second.2) left.entries right.entries

/-- The columns of two rows, or of two lists of changes, are the same. -/
def SameColumns (left right : Assignments) : Prop :=
  left.map Prod.fst = right.map Prod.fst

/-! ## Texts of conditions -/

/-- Tests with the same text behind their columns. -/
abbrev SameTexts (lefts rights : List Test) : Prop :=
  List.Forall₂ (fun left right => left.sql = right.sql) lefts rights

theorem Value.eq_null_of_isNull
    {value : Value} (absent : value.isNull = true) : value = .null := by
  cases value with
  | null => rfl
  | int _ | float _ | text _ | bool _ | timestamp _ | json _ | binary _ =>
      cases absent

theorem Operator.testValue_of_present
    (operator : Operator) {value : Value} (present : value.isNull = false) :
    operator.testValue value = .compare operator value := by
  cases value with
  | null => cases present
  | int _ | float _ | text _ | bool _ | timestamp _ | json _ | binary _ =>
      cases operator <;> rfl

theorem Operator.sql_testValue
    (operator : Operator) {left right : Value}
    (nulls : left.isNull = right.isNull) :
    (operator.testValue left).sql = (operator.testValue right).sql := by
  cases absent : left.isNull with
  | true =>
      have other : right.isNull = true := nulls.symm.trans absent
      rw [Value.eq_null_of_isNull absent, Value.eq_null_of_isNull other]
  | false =>
      have other : right.isNull = false := nulls.symm.trans absent
      rw [operator.testValue_of_present absent,
        operator.testValue_of_present other]
      rfl

theorem isEmpty_eq_of_forall₂
    {Left Right : Type} {related : Left → Right → Prop}
    {lefts : List Left} {rights : List Right}
    (pairs : List.Forall₂ related lefts rights) :
    lefts.isEmpty = rights.isEmpty := by
  cases pairs with
  | nil => rfl
  | cons pair others => rfl

theorem forall₂_isNull
    {lefts rights : List Value}
    (nulls : lefts.map Value.isNull = rights.map Value.isNull) :
    List.Forall₂ (fun left right => left.isNull = right.isNull)
      lefts rights := by
  rw [← List.forall₂_eq_eq_eq, List.forall₂_map_left_iff,
    List.forall₂_map_right_iff] at nulls
  exact nulls

theorem Operator.parallel_testPattern
    (column : String) (operator : Operator) {left right : Value}
    (nulls : left.isNull = right.isNull) :
    Parallel (fun first second => first.sql = second.sql)
      (operator.testPattern column left)
      (operator.testPattern column right) := by
  unfold Operator.testPattern
  rw [nulls]
  split
  · exact .error _
  · exact .ok rfl

theorem Operator.parallel_testList
    (column : String) (operator : Operator) {lefts rights : List Value}
    (nulls : lefts.map Value.isNull = rights.map Value.isNull) :
    Parallel SameTexts (operator.testList column lefts)
      (operator.testList column rights) := by
  have pairs := forall₂_isNull nulls
  have width : lefts.length = rights.length := pairs.length_eq
  have patterns :
      Parallel SameTexts (lefts.mapM (operator.testPattern column))
        (rights.mapM (operator.testPattern column)) :=
    .mapM pairs fun left right => operator.parallel_testPattern column
  unfold Operator.testList
  rw [isEmpty_eq_of_forall₂ pairs]
  split
  · exact .error _
  · cases operator with
    | equal | notEqual =>
        apply Parallel.ok
        refine .cons ?_ .nil
        simp only [Test.sql, width]
    | like | notLike => exact patterns
    | greaterOrEqual | greater | lessOrEqual | less => exact .error _

theorem Operand.parallel_tests
    (column : String) (operator : Operator) {left right : Operand}
    (shape : left.SameShape right) :
    Parallel SameTexts (left.tests column operator)
      (right.tests column operator) := by
  cases shape with
  | value nulls =>
      simp only [Operand.tests]
      rw [nulls]
      split
      · exact .error _
      · exact .ok (.cons (operator.sql_testValue nulls) .nil)
  | list nulls => exact operator.parallel_testList column nulls

/-- Conditions of the same shape have tests of the same texts. -/
theorem Condition.parallel_tests
    (column : String) {left right : Condition}
    (shape : left.SameShape right) :
    Parallel SameTexts (left.tests column) (right.tests column) := by
  cases shape with
  | value nulls => exact .ok (.cons (Operator.equal.sql_testValue nulls) .nil)
  | oneOf nulls => exact Operator.equal.parallel_testList column nulls
  | @all lefts rights pairs =>
      simp only [Condition.tests]
      rw [isEmpty_eq_of_forall₂ pairs]
      split
      · exact .error _
      · have groups :
            Parallel (List.Forall₂ SameTexts)
              (lefts.mapM fun part => part.2.tests column part.1)
              (rights.mapM fun part => part.2.tests column part.1) := by
          refine .mapM pairs ?_
          rintro ⟨operator, operand⟩ ⟨other, otherOperand⟩ ⟨rfl, same⟩
          exact Operand.parallel_tests column operator same
        apply groups.bind
        intro first second texts
        exact .ok (List.rel_flatten texts)

/-! ## Values of conditions -/

/-- A value of a filter, and whether it gets a placeholder. -/
structure Slot where
  value : Value
  isBound : Bool

/-- A value that always gets a placeholder. -/
def Slot.ofValue (value : Value) : Slot :=
  ⟨value, true⟩

/-- The values that get a placeholder, in order. -/
def boundValues (slots : List Slot) : List Value :=
  (slots.filter Slot.isBound).map Slot.value

@[simp]
theorem boundValues_append (front back : List Slot) :
    boundValues (front ++ back) = boundValues front ++ boundValues back := by
  simp [boundValues]

@[simp]
theorem boundValues_ofValue (values : List Value) :
    boundValues (values.map Slot.ofValue) = values := by
  induction values with
  | nil => rfl
  | cons value rest induction =>
      show value :: boundValues (rest.map Slot.ofValue) = value :: rest
      rw [induction]

theorem boundValues_flatMap
    {Item : Type} (items : List Item) (slots : Item → List Slot) :
    boundValues (items.flatMap slots) =
      items.flatMap fun item => boundValues (slots item) := by
  induction items with
  | nil => rfl
  | cons item rest induction =>
      rw [List.flatMap_cons, List.flatMap_cons, boundValues_append, induction]

/-- Whether a comparison with a single value has a placeholder for it. -/
def Operator.binds (operator : Operator) (value : Value) : Bool :=
  !(value.isNull && (operator == .equal || operator == .notEqual))

/-- The values of an operand. -/
def Operand.slots (operator : Operator) : Operand → List Slot
  | .value single => [⟨single, operator.binds single⟩]
  | .list several => several.map Slot.ofValue

/-- The values of a condition. -/
def Condition.slots : Condition → List Slot
  | .value single => [⟨single, Operator.equal.binds single⟩]
  | .oneOf values => values.map Slot.ofValue
  | .all comparisons => comparisons.flatMap fun part => part.2.slots part.1

/-- All values of a filter in order. -/
def Filter.slots (filter : Filter) : List Slot :=
  filter.entries.flatMap fun entry => entry.2.slots

theorem Operator.params_testValue (operator : Operator) (value : Value) :
    (operator.testValue value).params =
      boundValues [⟨value, operator.binds value⟩] := by
  cases value with
  | null => cases operator <;> rfl
  | int _ | float _ | text _ | bool _ | timestamp _ | json _ | binary _ =>
      cases operator <;> rfl

/-- What is demanded of a column has the values of the operand. -/
theorem Operand.params_demands (operator : Operator) (operand : Operand) :
    (operand.demands operator).flatMap Test.params =
      boundValues (operand.slots operator) := by
  cases operand with
  | value single =>
      rw [operator.demands_value, List.flatMap_singleton,
        operator.params_testValue]
      rfl
  | list several =>
      have values :
          (Operand.demands operator (.list several)).flatMap Test.params =
            several := by
        cases operator with
        | equal | notEqual => exact List.append_nil several
        | like | notLike | greaterOrEqual | greater | lessOrEqual | less =>
            exact
              (List.flatMap_map _ _ _).trans (List.flatMap_singleton' several)
      rw [values]
      exact (boundValues_ofValue several).symm

theorem Condition.params_demands (condition : Condition) :
    condition.demands.flatMap Test.params = boundValues condition.slots := by
  cases condition with
  | value single => exact Operand.params_demands .equal (.value single)
  | oneOf values => exact Operand.params_demands .equal (.list values)
  | all comparisons =>
      rw [demands, List.flatMap_assoc, slots, boundValues_flatMap]
      simp only [Operand.params_demands]

/-! ## Filters -/

namespace Filter

/-- The parameters of a filter are its values, each at its place. -/
theorem params_of_toWhere
    {options : Options} {filter : Filter} {query : Query}
    (written : filter.toWhere options = .ok query) :
    query.params = boundValues filter.slots := by
  rcases toWhere_eq_ok written with ⟨comparisons, compared, rfl⟩
  rw [params_join, comparisons_eq_ok compared, demands, List.flatMap_assoc,
    slots, boundValues_flatMap]
  simp only [List.flatMap_map, Condition.params_demands]

end Filter

/-! ## Shapes and places -/

theorem Operator.binds_eq (operator : Operator) {left right : Value}
    (nulls : left.isNull = right.isNull) :
    operator.binds left = operator.binds right := by
  unfold Operator.binds
  rw [nulls]

theorem isBound_ofValue {lefts rights : List Value}
    (width : lefts.length = rights.length) :
    (lefts.map Slot.ofValue).map Slot.isBound =
      (rights.map Slot.ofValue).map Slot.isBound := by
  rw [List.map_map, List.map_map]
  show lefts.map (fun _ => true) = rights.map fun _ => true
  rw [List.map_const', List.map_const', width]

theorem Operand.SameShape.isBound_slots
    {left right : Operand} (shape : left.SameShape right)
    (operator : Operator) :
    (left.slots operator).map Slot.isBound =
      (right.slots operator).map Slot.isBound := by
  cases shape with
  | @value left right nulls =>
      show [operator.binds left] = [operator.binds right]
      rw [operator.binds_eq nulls]
  | list nulls => exact isBound_ofValue (forall₂_isNull nulls).length_eq

theorem isBound_flatMap
    {Left Right : Type} {related : Left → Right → Prop}
    {lefts : List Left} {rights : List Right}
    {leftSlots : Left → List Slot} {rightSlots : Right → List Slot}
    (pairs : List.Forall₂ related lefts rights)
    (each :
      ∀ left right, related left right →
        (leftSlots left).map Slot.isBound =
          (rightSlots right).map Slot.isBound) :
    (lefts.flatMap leftSlots).map Slot.isBound =
      (rights.flatMap rightSlots).map Slot.isBound := by
  induction pairs with
  | nil => rfl
  | cons pair others induction =>
      rw [List.flatMap_cons, List.flatMap_cons, List.map_append,
        List.map_append, each _ _ pair, induction]

theorem Condition.SameShape.isBound_slots
    {left right : Condition} (shape : left.SameShape right) :
    left.slots.map Slot.isBound = right.slots.map Slot.isBound := by
  cases shape with
  | @value left right nulls =>
      show [Operator.equal.binds left] = [Operator.equal.binds right]
      rw [Operator.equal.binds_eq nulls]
  | oneOf nulls => exact isBound_ofValue (forall₂_isNull nulls).length_eq
  | all pairs =>
      apply isBound_flatMap pairs
      rintro ⟨operator, operand⟩ ⟨_, other⟩ ⟨rfl, shape⟩
      exact shape.isBound_slots operator

/-- Filters of the same shape have placeholders at the same places. -/
theorem Filter.SameShape.isBound_slots
    {left right : Filter} (shape : left.SameShape right) :
    left.slots.map Slot.isBound = right.slots.map Slot.isBound :=
  isBound_flatMap shape fun _ _ same => same.2.isBound_slots

/-! ## Queries -/

/--
Two queries with the same text, of which each has its own values as its
parameters.
-/
structure Twins (leftValues rightValues : List Value)
    (left right : Query) : Prop where
  sql_eq : left.sql = right.sql
  left_params : left.params = leftValues
  right_params : right.params = rightValues

theorem Filter.parallel_entryClauses
    (options : Options) (column : String) {left right : Condition}
    (shape : left.SameShape right) :
    Parallel (List.Forall₂ fun first second => first.sql = second.sql)
      (entryClauses options column left)
      (entryClauses options column right) := by
  apply Parallel.bind_same
  intro quoted
  apply (Condition.parallel_tests column shape).bind
  intro first second texts
  apply Parallel.ok
  rw [List.forall₂_map_left_iff, List.forall₂_map_right_iff]
  refine texts.imp ?_
  intro one other same
  show quoted ++ one.sql = quoted ++ other.sql
  rw [same]

/-- Filters of the same shape have the same text. -/
theorem Filter.parallel_toWhere
    (options : Options) {left right : Filter} (shape : left.SameShape right) :
    Parallel (Twins (boundValues left.slots) (boundValues right.slots))
      (left.toWhere options) (right.toWhere options) := by
  have texts :
      Parallel (fun first second => first.sql = second.sql)
        (left.toWhere options) (right.toWhere options) := by
    have groups :
        Parallel
          (List.Forall₂
            (List.Forall₂ fun first second => first.sql = second.sql))
          (left.entries.mapM fun entry =>
            entryClauses options entry.1 entry.2)
          (right.entries.mapM fun entry =>
            entryClauses options entry.1 entry.2) := by
      refine .mapM shape ?_
      rintro ⟨column, condition⟩ ⟨_, other⟩ ⟨rfl, same⟩
      exact parallel_entryClauses options column same
    apply (groups.bind fun _ _ pairs => .ok (List.rel_flatten pairs)).bind
    intro first second clauses
    apply Parallel.ok
    show " AND ".intercalate _ = " AND ".intercalate _
    rw [map_eq_map_of_forall₂ clauses fun _ _ same => same.symm]
  exact texts.imp fun _ _ leftWritten rightWritten same =>
    ⟨same, params_of_toWhere leftWritten, params_of_toWhere rightWritten⟩

theorem writeAssignments_eq
    (options : Options) {left right : Assignments}
    (same : SameColumns left right) :
    writeAssignments options left = writeAssignments options right := by
  have columns (assignments : Assignments) :
      (assignments.mapM fun entry => writeAssignment options entry.1) =
        (assignments.map Prod.fst).mapM (writeAssignment options) := by
    rw [List.mapM_map]
    rfl
  unfold writeAssignments
  rw [columns left, columns right, same]

/-- Updates of the same columns under filters of the same shape. -/
theorem Dialect.parallel_update
    (dialect : Dialect) (table : String) {left right : Assignments}
    {leftFilter rightFilter : Filter} (same : SameColumns left right)
    (shape : leftFilter.SameShape rightFilter) :
    Parallel
      (Twins (left.map Prod.snd ++ boundValues leftFilter.slots)
        (right.map Prod.snd ++ boundValues rightFilter.slots))
      (dialect.update table left leftFilter)
      (dialect.update table right rightFilter) := by
  have assigned : left.isEmpty = right.isEmpty := by
    rw [← List.isEmpty_map (f := Prod.fst), same, List.isEmpty_map]
  have filtered : leftFilter.isEmpty = rightFilter.isEmpty :=
    isEmpty_eq_of_forall₂ shape
  apply Parallel.bind_same
  intro _
  rw [assigned, filtered, writeAssignments_eq dialect.options same]
  split
  · exact .error _
  · split
    · exact .error _
    · apply Parallel.bind_same
      intro changes
      apply (Filter.parallel_toWhere dialect.options shape).bind
      intro first second twins
      apply Parallel.ok
      exact
        ⟨by rw [twins.sql_eq], by rw [twins.left_params],
          by rw [twins.right_params]⟩

/-! ## Insertions -/

/-- The values of a row in the order of given columns. -/
def rowValues (columns : List String) (row : Assignments) : List Value :=
  columns.filterMap fun column => row.lookup column

/-- The values of rows, each row in the order of the columns of the first. -/
def rowsValues (rows : List Assignments) : List Value :=
  rows.flatMap (rowValues ((rows.head?.getD []).map Prod.fst))

/-- The parameters of all batches, in order. -/
def InsertPlan.params (plan : InsertPlan) : List Value :=
  plan.batches.flatMap fun batch => batch.query.params

/-- Two batches with the same text for as many values. -/
structure TwinBatches (left right : Batch) : Prop where
  sql_eq : left.query.sql = right.query.sql
  rowCount_eq : left.rowCount = right.rowCount
  length_params_eq : left.query.params.length = right.query.params.length

/--
Two plans with the same texts, batch by batch, of which each has its own values
as its parameters.
-/
structure TwinPlans (leftValues rightValues : List Value)
    (left right : InsertPlan) : Prop where
  batches : List.Forall₂ TwinBatches left.batches right.batches
  retrieval_eq : left.retrieval = right.retrieval
  left_params : left.params = leftValues
  right_params : right.params = rightValues

namespace Insertion

/-- Rows of values of the same widths. -/
abbrev SameWidths (lefts rights : List (List Value)) : Prop :=
  List.Forall₂ (fun left right => left.length = right.length) lefts rights

theorem isSome_lookup_eq
    {left right : Assignments} (same : SameColumns left right)
    (column : String) :
    (left.lookup column).isSome = (right.lookup column).isSome := by
  induction left generalizing right with
  | nil =>
      cases List.map_eq_nil_iff.1 same.symm
      rfl
  | cons entry rest induction =>
      rcases List.map_eq_cons_iff.1 same.symm with
        ⟨other, others, rfl, name, remaining⟩
      rw [List.lookup_cons, List.lookup_cons, name]
      cases column == entry.1 with
      | true => rfl
      | false => exact induction remaining.symm

theorem isSome_mapM
    {First Item : Type} (find : Item → Option First) (items : List Item) :
    (items.mapM find).isSome = items.all fun item => (find item).isSome := by
  induction items with
  | nil => rfl
  | cons item rest induction =>
      rw [List.mapM_cons, List.all_cons, ← induction]
      cases find item with
      | none => rfl
      | some value => cases rest.mapM find <;> rfl

theorem isSome_alignRow?_eq
    (columns : List String) {left right : Assignments}
    (same : SameColumns left right) :
    (alignRow? columns left).isSome = (alignRow? columns right).isSome := by
  have width : left.length = right.length := by
    rw [← List.length_map (f := Prod.fst), same, List.length_map]
  unfold alignRow?
  rw [width]
  split
  · rw [isSome_mapM, isSome_mapM]
    simp only [isSome_lookup_eq same]
  · rfl

theorem length_of_alignRow?
    {columns : List String} {row : Assignments} {values : List Value}
    (found : alignRow? columns row = some values) :
    values.length = columns.length := by
  unfold alignRow? at found
  split at found
  · exact (forall₂_of_mapM_eq_some found).length_eq.symm
  · cases found

theorem parallel_alignRows
    (columns : List String) (index : Nat) {lefts rights : List Assignments}
    (same : List.Forall₂ SameColumns lefts rights) :
    Parallel SameWidths (alignRows columns index lefts)
      (alignRows columns index rights) := by
  induction same generalizing index with
  | nil => exact .ok .nil
  | @cons left right _ _ pair others induction =>
      have head := isSome_alignRow?_eq columns pair
      unfold alignRows
      cases first : alignRow? columns left with
      | none =>
          cases second : alignRow? columns right with
          | none => exact .error _
          | some values =>
              rw [first, second] at head
              cases head
      | some values =>
          cases second : alignRow? columns right with
          | none =>
              rw [first, second] at head
              cases head
          | some otherValues =>
              apply (induction (index + 1)).bind
              intro remaining otherRemaining widths
              refine .ok (.cons ?_ widths)
              rw [length_of_alignRow? first, length_of_alignRow? second]

theorem forall₂_partition
    {Left Right : Type} {related : Left → Right → Prop} (size : Nat)
    {lefts : List Left} {rights : List Right}
    (pairs : List.Forall₂ related lefts rights) :
    List.Forall₂ (List.Forall₂ related) (partition size lefts)
      (partition size rights) := by
  fun_induction partition size lefts generalizing rights with
  | case1 =>
      cases pairs
      rw [partition_nil]
      exact .nil
  | case2 first rest induction =>
      cases pairs with
      | cons pair others =>
          rw [partition_cons]
          have whole := List.Forall₂.cons pair others
          exact
            .cons (List.forall₂_take _ whole)
              (induction (List.forall₂_drop _ whole))

theorem parallel_writeInsert
    (style : QuoteStyle) (table : String) (quoted : List String)
    (retrieval : IdRetrieval) {lefts rights : List (List Value)}
    (width : lefts.length = rights.length) :
    Parallel (Twins lefts.flatten rights.flatten)
      (writeInsert style table quoted lefts retrieval)
      (writeInsert style table quoted rights retrieval) := by
  unfold writeInsert
  rw [width]
  cases retrieval with
  | none | firstStride stride | lastStride stride => exact .ok ⟨rfl, rfl, rfl⟩
  | outputTable column | returning column =>
      apply Parallel.bind_same
      intro id
      exact .ok ⟨rfl, rfl, rfl⟩

theorem parallel_writeBatch
    (style : QuoteStyle) (table : String) (quoted : List String)
    (retrieval : IdRetrieval) {lefts rights : List (List Value)}
    (widths : SameWidths lefts rights) :
    Parallel TwinBatches (writeBatch style table quoted retrieval lefts)
      (writeBatch style table quoted retrieval rights) := by
  apply
    (parallel_writeInsert style table quoted retrieval widths.length_eq).bind
  intro left right twins
  refine .ok ⟨twins.sql_eq, widths.length_eq, ?_⟩
  rw [twins.left_params, twins.right_params, List.length_flatten,
    List.length_flatten, map_eq_map_of_forall₂ widths fun _ _ => Eq.symm]

/-- The values with which a row is aligned are its own. -/
theorem eq_rowValues_of_alignRow?
    {columns : List String} {row : Assignments} {values : List Value}
    (found : alignRow? columns row = some values) :
    values = rowValues columns row := by
  unfold alignRow? at found
  split at found
  · rename_i width
    have lookups := forall₂_of_mapM_eq_some found
    clear found width
    induction lookups with
    | nil => rfl
    | cons lookup others induction =>
        rw [induction]
        exact
          (List.filterMap_cons_some
            (f := fun column => row.lookup column) lookup).symm
  · cases found

end Insertion

open Insertion

theorem PlanSteps.params_eq
    {dialect : Dialect} {table : String} {first : Assignments}
    {rest : List Assignments} (steps : PlanSteps dialect table first rest) :
    InsertPlan.params ⟨steps.batches, steps.retrieval⟩ =
      rowsValues (first :: rest) := by
  have own :
      steps.aligned =
        (first :: rest).map (rowValues (first.map Prod.fst)) := by
    rw [← List.map_id steps.aligned]
    exact
      map_eq_map_of_forall₂ (forall₂_of_alignRows steps.rows_aligned)
        fun _ _ found => eq_rowValues_of_alignRow? found
  have flattened := steps.flatten_params
  rw [own] at flattened
  exact flattened

/-- The parameters of a plan are the values of its rows. -/
theorem params_of_planInsert
    {dialect : Dialect} {table : String} {rows : List Assignments}
    {plan : InsertPlan} (planned : dialect.planInsert table rows = .ok plan) :
    plan.params = rowsValues rows := by
  cases rows with
  | nil =>
      cases planned
      rfl
  | cons first rest =>
      rcases planInsert_eq_ok_iff.1 planned with ⟨steps, rfl⟩
      exact steps.params_eq

/-- Insertions of rows with the same columns. -/
theorem Dialect.parallel_planInsert
    (dialect : Dialect) (table : String) {lefts rights : List Assignments}
    (same : List.Forall₂ SameColumns lefts rights) :
    Parallel (TwinPlans (rowsValues lefts) (rowsValues rights))
      (dialect.planInsert table lefts) (dialect.planInsert table rights) := by
  have texts :
      Parallel
        (fun left right =>
          List.Forall₂ TwinBatches left.batches right.batches ∧
            left.retrieval = right.retrieval)
        (dialect.planInsert table lefts)
        (dialect.planInsert table rights) := by
    cases same with
    | nil => exact .ok ⟨.nil, rfl⟩
    | @cons left right leftRest rightRest pair others =>
        have count : (left :: leftRest).length = (right :: rightRest).length :=
          (List.Forall₂.cons pair others).length_eq
        simp only [Dialect.planInsert]
        rw [count, show left.map Prod.fst = right.map Prod.fst from pair]
        apply Parallel.bind_same
        intro _
        apply Parallel.bind_same
        intro retrieval
        split
        · exact .error _
        · apply (parallel_alignRows _ 0 (.cons pair others)).bind
          intro leftAligned rightAligned widths
          apply Parallel.bind_same
          intro quoted
          apply Parallel.bind_same
          intro size
          apply (Parallel.mapM (forall₂_partition size widths) ?_).bind
          · intro leftBatches rightBatches batches
            exact .ok ⟨batches, rfl⟩
          · intro leftGroup rightGroup group
            exact parallel_writeBatch _ table quoted retrieval group
  exact texts.imp fun _ _ leftPlanned rightPlanned twins =>
    ⟨twins.1, twins.2, params_of_planInsert leftPlanned,
      params_of_planInsert rightPlanned⟩

/-! ## Values do not matter to texts -/

/--
What a dialect writes does not depend on values.  Filters of the same shape
have placeholders for values at the same places, and for two of them, for two
updates of the same columns under two of them, and for two insertions of rows
of the same columns either the same failure is reported, or the same texts are
written, batch by batch, each with its own values as the parameters.
-/
theorem texts_independent_of_values (dialect : Dialect) :
    (∀ left right : Filter, left.SameShape right →
      left.slots.map Slot.isBound = right.slots.map Slot.isBound ∧
        Parallel (Twins (boundValues left.slots) (boundValues right.slots))
          (left.toWhere dialect.options) (right.toWhere dialect.options)) ∧
    (∀ (table : String) (left right : Assignments)
        (leftFilter rightFilter : Filter),
      SameColumns left right → leftFilter.SameShape rightFilter →
        Parallel
          (Twins (left.map Prod.snd ++ boundValues leftFilter.slots)
            (right.map Prod.snd ++ boundValues rightFilter.slots))
          (dialect.update table left leftFilter)
          (dialect.update table right rightFilter)) ∧
    (∀ (table : String) (lefts rights : List Assignments),
      List.Forall₂ SameColumns lefts rights →
        Parallel (TwinPlans (rowsValues lefts) (rowsValues rights))
          (dialect.planInsert table lefts)
          (dialect.planInsert table rights)) := by
  refine ⟨?_, ?_, ?_⟩
  · intro left right shape
    exact
      ⟨shape.isBound_slots, Filter.parallel_toWhere dialect.options shape⟩
  · intro table left right leftFilter rightFilter same shape
    exact dialect.parallel_update table same shape
  · intro table lefts rights same
    exact dialect.parallel_planInsert table same

/-- A value that would end a quotation and a statement, were it in a text. -/
def intruder : Value :=
  .text "x' OR 1 = 1; DROP TABLE t; --"

/-- Rows with a name, of which no end is known. -/
def unendedNamed (name : Value) : Filter :=
  (Filter.empty.equals "name" name).equals "end" .null

/-- Three rows of two columns, as in `twoColumnRows`, with other values. -/
def intrudingRows : List Assignments :=
  [[("a", intruder), ("b", .null)],
    [("b", .bool true), ("a", intruder)],
    [("a", .null), ("b", intruder)]]

/-- The intruder gets into no text that is written for an innocent value. -/
theorem texts_independent_of_values_intruder :
    (∃ query,
      (unendedNamed intruder).toWhere (limitedTo 4 .none).options = .ok query ∧
        query.sql = "\"name\" = ? AND \"end\" IS NULL" ∧
        query.params = [intruder]) ∧
    (∃ query,
      (limitedTo 4 .none).update "t" [("a", intruder), ("b", .null)]
          (unendedNamed intruder) = .ok query ∧
        query.sql =
          "UPDATE t SET \"a\" = ?, \"b\" = ? WHERE " ++
            "\"name\" = ? AND \"end\" IS NULL" ∧
        query.params = [intruder, .null, intruder]) ∧
    (∃ plan,
      (limitedTo 4 .none).planInsert "t" intrudingRows = .ok plan ∧
        plan.batches.map (fun batch => batch.query.sql) =
          ["INSERT INTO t (\"a\", \"b\") VALUES (?,?),(?,?)",
            "INSERT INTO t (\"a\", \"b\") VALUES (?,?)"] ∧
        plan.params =
          [intruder, .null, intruder, .bool true, .null, intruder]) := by
  rcases texts_independent_of_values (limitedTo 4 .none) with
    ⟨filters, updates, insertions⟩
  have shape :
      (unendedNamed (.text "Ann")).SameShape (unendedNamed intruder) :=
    .cons ⟨rfl, .value rfl⟩ (.cons ⟨rfl, .value rfl⟩ .nil)
  refine ⟨?_, ?_, ?_⟩
  · have innocent :
        (unendedNamed (.text "Ann")).toWhere (limitedTo 4 .none).options =
          .ok ⟨"\"name\" = ? AND \"end\" IS NULL", [.text "Ann"]⟩ := rfl
    have runs := (filters _ _ shape).2
    rw [innocent] at runs
    rcases runs.exists_ok with ⟨query, written, twins⟩
    exact ⟨query, written, twins.sql_eq.symm, twins.right_params⟩
  · have innocent :
        (limitedTo 4 .none).update "t" [("a", .int 1), ("b", .int 2)]
            (unendedNamed (.text "Ann")) =
          .ok
            ⟨"UPDATE t SET \"a\" = ?, \"b\" = ? WHERE " ++
                "\"name\" = ? AND \"end\" IS NULL",
              [.int 1, .int 2, .text "Ann"]⟩ := rfl
    have runs :=
      updates "t" [("a", .int 1), ("b", .int 2)]
        [("a", intruder), ("b", .null)] _ _ rfl shape
    rw [innocent] at runs
    rcases runs.exists_ok with ⟨query, written, twins⟩
    exact ⟨query, written, twins.sql_eq.symm, twins.right_params⟩
  · have size : batchSize 2 3 4 Options.generic.maxInsertRows = .ok 2 := rfl
    have innocent :
        (limitedTo 4 .none).planInsert "t" twoColumnRows =
          .ok ⟨twoBatches "", .none⟩ :=
      planInsert_twoColumnRows rfl size partition_twoColumnRows rfl
    have runs :=
      insertions "t" twoColumnRows intrudingRows
        (.cons rfl (.cons rfl (.cons rfl .nil)))
    rw [innocent] at runs
    rcases runs.exists_ok with ⟨plan, planned, twins⟩
    refine ⟨plan, planned, ?_, twins.right_params⟩
    rw [map_eq_map_of_forall₂ twins.batches fun _ _ same => same.sql_eq.symm]
    rfl

end Sqlwright
