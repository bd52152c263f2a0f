import Sqlwright.Filter.Reader
import Sqlwright.Proofs.Replaying
import Sqlwright.Proofs.Success

/-!
# Filters written as documents

A filter document is an object with a condition in each field: a scalar, an
array of scalars, or an object of operators with a scalar or an array of scalars
for each.  `Json.WritesFilter` is this grammar.

Each field of a filter document stands for calls on its column, and so the
document for the calls of its fields in order.  If no column is written twice,
a document is read exactly if it is a filter document, and what is read is the
filter that its calls build.
-/

namespace Sqlwright

open Sqlwright.Success

/-! ## The grammar -/

namespace Json

/-- Whether a document has no parts. -/
def isScalar : Json → Bool
  | .array _ | .object _ => false
  | _ => true

/-- A scalar, or an array of scalars. -/
def WritesOperand : Json → Prop
  | .array items => ∀ item ∈ items, item.isScalar = true
  | document => document.isScalar = true

/-- An operand, or an object of operands under the tags of operators. -/
def WritesCondition : Json → Prop
  | .object fields =>
      ∀ field ∈ fields,
        field.1 ∈ Operator.all.map Operator.tag ∧ field.2.WritesOperand
  | document => document.WritesOperand

/-- An object of conditions under the names of columns. -/
def WritesFilter : Json → Prop
  | .object fields => ∀ field ∈ fields, field.2.WritesCondition
  | _ => False

instance decidableWritesOperand :
    (document : Json) → Decidable document.WritesOperand
  | .array items =>
      inferInstanceAs (Decidable (∀ item ∈ items, item.isScalar = true))
  | .null | .bool _ | .number _ | .string _ => .isTrue rfl
  | .object _ => .isFalse nofun

instance decidableWritesCondition :
    (document : Json) → Decidable document.WritesCondition
  | .object fields =>
      inferInstanceAs
        (Decidable
          (∀ field ∈ fields,
            field.1 ∈ Operator.all.map Operator.tag ∧
              field.2.WritesOperand))
  | .array items => decidableWritesOperand (.array items)
  | .null | .bool _ | .number _ | .string _ => .isTrue rfl

instance decidableWritesFilter :
    (document : Json) → Decidable document.WritesFilter
  | .object fields =>
      inferInstanceAs (Decidable (∀ field ∈ fields, field.2.WritesCondition))
  | .array _ | .null | .bool _ | .number _ | .string _ => .isFalse nofun

end Json

/-! ## What a document stands for -/

/-- The operand that a document stands for. -/
def Operand.ofDocument : Json → Operand
  | .array items => .list (items.map Value.ofJson)
  | scalar => .value (Value.ofJson scalar)

/-- The operator of a field, with what it compares with. -/
def Condition.comparison? (field : String × Json) :
    Option (Operator × Operand) :=
  (Operator.ofTag? field.1).map (·, Operand.ofDocument field.2)

/-- The condition that a document stands for. -/
def Condition.ofDocument : Json → Condition
  | .array items => .oneOf (items.map Value.ofJson)
  | .object fields => .all (fields.filterMap comparison?)
  | scalar => .value (Value.ofJson scalar)

namespace Filter

namespace Call

/-- Calls for several comparisons of a column, in order. -/
def compareAll (column : String) (comparisons : List (Operator × Operand)) :
    List Call :=
  comparisons.map fun comparison =>
    .compare column comparison.1 comparison.2

/-- The calls that a column and the document of its condition stand for. -/
def ofField (field : String × Json) : List Call :=
  match field.2 with
  | .array items => [.oneOf field.1 (items.map Value.ofJson)]
  | .object [] => [.condition field.1 (.all [])]
  | .object operators =>
      compareAll field.1 (operators.filterMap Condition.comparison?)
  | scalar => [.equals field.1 (Value.ofJson scalar)]

/-- The calls that a filter document stands for. -/
def ofDocument : Json → List Call
  | .object fields => fields.flatMap ofField
  | _ => []

end Call

/-! ## Reading the parts of a document -/

theorem readScalar_eq_ok_iff
    (column : String) (document : Json) (value : Value) :
    readScalar column document = .ok value ↔
      document.isScalar = true ∧ value = Value.ofJson document := by
  cases document <;> simp [readScalar, Json.isScalar, eq_comm]

theorem readScalars_eq_ok_iff
    (column : String) (items : List Json) (values : List Value) :
    readScalars column items = .ok values ↔
      (∀ item ∈ items, item.isScalar = true) ∧
        values = items.map Value.ofJson :=
  mapM_eq_ok_iff (readScalar_eq_ok_iff column)

theorem readOperand_eq_ok_iff
    (column : String) (document : Json) (operand : Operand) :
    readOperand column document = .ok operand ↔
      document.WritesOperand ∧ operand = Operand.ofDocument document := by
  cases document with
  | array items =>
      exact
        bind_pure_eq_ok_iff (readScalars_eq_ok_iff column items) .list operand
  | null | bool | number | string | object =>
      exact
        bind_pure_eq_ok_iff (readScalar_eq_ok_iff column _) .value operand

theorem ofTag_eq_ok_iff (tag : String) (operator : Operator) :
    Operator.ofTag tag = .ok operator ↔
      Operator.ofTag? tag = some operator := by
  unfold Operator.ofTag
  split
  · rename_i known found
    rw [found, Except.ok.injEq, Option.some.injEq]
  · rename_i unknown
    rw [unknown]
    exact ⟨nofun, nofun⟩

/-- A field has a comparison exactly if its name is the tag of an operator. -/
theorem exists_comparison?_iff (field : String × Json) :
    (∃ comparison, Condition.comparison? field = some comparison) ↔
      field.1 ∈ Operator.all.map Operator.tag := by
  simp only [Condition.comparison?, Option.map_eq_some_iff, List.mem_map]
  constructor
  · rintro ⟨comparison, operator, found, -⟩
    exact ⟨operator, operator.mem_all, Operator.tag_of_ofTag? found⟩
  · rintro ⟨operator, -, tagged⟩
    rw [← tagged, Operator.ofTag?_tag]
    exact ⟨_, operator, rfl, rfl⟩

theorem readComparison_eq_ok_iff
    (column : String) (field : String × Json)
    (comparison : Operator × Operand) :
    readComparison column field = .ok comparison ↔
      field.2.WritesOperand ∧
        Condition.comparison? field = some comparison := by
  rcases comparison with ⟨operator, operand⟩
  simp only [readComparison, bind_eq_ok, pure_eq_ok, ofTag_eq_ok_iff,
    readOperand_eq_ok_iff, Condition.comparison?, Option.map_eq_some_iff,
    Prod.mk.injEq]
  constructor
  · rintro ⟨_, found, _, ⟨written, rfl⟩, rfl, rfl⟩
    exact ⟨written, _, found, rfl, rfl⟩
  · rintro ⟨written, _, found, rfl, rfl⟩
    exact ⟨_, found, _, ⟨written, rfl⟩, rfl, rfl⟩

/-- Exactly known tags with operands are read, and none of them is lost. -/
theorem readComparisons_eq_ok_iff
    (column : String) (fields : List (String × Json))
    (comparisons : List (Operator × Operand)) :
    fields.mapM (readComparison column) = .ok comparisons ↔
      (Json.object fields).WritesCondition ∧
        comparisons = fields.filterMap Condition.comparison? := by
  simp only [Json.WritesCondition, ← exists_comparison?_iff]
  induction fields generalizing comparisons with
  | nil =>
      rw [List.mapM_nil, pure_eq_ok]
      simp [eq_comm]
  | cons field rest step =>
      rw [List.mapM_cons]
      simp only [bind_eq_ok, pure_eq_ok, readComparison_eq_ok_iff, step,
        List.forall_mem_cons]
      constructor
      · rintro ⟨first, ⟨written, found⟩, _, ⟨others, rfl⟩, rfl⟩
        exact ⟨⟨⟨⟨first, found⟩, written⟩, others⟩,
          (List.filterMap_cons_some found).symm⟩
      · rintro ⟨⟨⟨⟨first, found⟩, written⟩, others⟩, rfl⟩
        exact ⟨first, ⟨written, found⟩, _, ⟨others, rfl⟩,
          (List.filterMap_cons_some found).symm⟩

theorem readCondition_eq_ok_iff
    (column : String) (document : Json) (condition : Condition) :
    readCondition column document = .ok condition ↔
      document.WritesCondition ∧
        condition = Condition.ofDocument document := by
  cases document with
  | array items =>
      exact
        bind_pure_eq_ok_iff (readScalars_eq_ok_iff column items) .oneOf
          condition
  | object fields =>
      exact
        bind_pure_eq_ok_iff (readComparisons_eq_ok_iff column fields) .all
          condition
  | null | bool | number | string =>
      exact
        bind_pure_eq_ok_iff (readScalar_eq_ok_iff column _) .value condition

/-! ## Calls for one field -/

/-- Of two conditions for one column the later one stays. -/
theorem place_place
    (column : String) (earlier later : Condition)
    (entries : List (String × Condition)) :
    place column later (place column earlier entries) =
      place column later entries := by
  induction entries with
  | nil => simp [place]
  | cons entry rest step =>
      by_cases same : entry.1 = column
      · simp [place, same]
      · simp [place, same, step]

theorem condition_condition
    (filter : Filter) (column : String) (earlier later : Condition) :
    (filter.condition column earlier).condition column later =
      filter.condition column later := by
  simp only [condition, place_place]

theorem condition?_condition
    (filter : Filter) (column : String) (demanded : Condition) :
    (filter.condition column demanded).condition? column = some demanded := by
  rw [condition?, condition, lookup_place, if_pos rfl]

/-- Comparisons join those that a column has. -/
theorem foldl_compareAll_behind
    (filter : Filter) (column : String)
    (before comparisons : List (Operator × Operand)) :
    (Call.compareAll column comparisons).foldl Call.apply
        (filter.condition column (.all before)) =
      filter.condition column (.all (before ++ comparisons)) := by
  induction comparisons generalizing before with
  | nil => simp [Call.compareAll]
  | cons comparison rest step =>
      have joined :
          (Call.compare column comparison.1 comparison.2).apply
              (filter.condition column (.all before)) =
            filter.condition column (.all (before ++ [comparison])) := by
        simp only [Call.apply, compare, condition?_condition,
          condition_condition]
      have calls := step (before ++ [comparison])
      rw [List.append_assoc, List.singleton_append] at calls
      rw [Call.compareAll, List.map_cons, List.foldl_cons, joined]
      exact calls

/-- The first comparison of a column without a condition starts a list. -/
theorem foldl_compareAll
    {filter : Filter} {column : String}
    (unconditioned : filter.condition? column = none)
    {comparisons : List (Operator × Operand)} (nonempty : comparisons ≠ []) :
    (Call.compareAll column comparisons).foldl Call.apply filter =
      filter.condition column (.all comparisons) := by
  cases comparisons with
  | nil => exact absurd rfl nonempty
  | cons comparison rest =>
      have started :
          (Call.compare column comparison.1 comparison.2).apply filter =
            filter.condition column (.all [comparison]) := by
        simp only [Call.apply, compare, unconditioned]
      rw [Call.compareAll, List.map_cons, List.foldl_cons, started]
      exact foldl_compareAll_behind filter column [comparison] rest

/-- The calls for a new column place the condition that its document writes. -/
theorem foldl_ofField
    {filter : Filter} {field : String × Json}
    (unconditioned : filter.condition? field.1 = none)
    (written : field.2.WritesCondition) :
    (Call.ofField field).foldl Call.apply filter =
      filter.condition field.1 (Condition.ofDocument field.2) := by
  rcases field with ⟨column, document⟩
  cases document with
  | null | bool | number | string | array => rfl
  | object fields =>
      cases fields with
      | nil => rfl
      | cons first rest =>
          rcases (exists_comparison?_iff first).2
              (written first List.mem_cons_self).1 with ⟨comparison, found⟩
          have nonempty :
              (first :: rest).filterMap Condition.comparison? ≠ [] := by
            rw [List.filterMap_cons_some found]
            exact List.cons_ne_nil _ _
          exact foldl_compareAll unconditioned nonempty

/-! ## Whole documents -/

/-- Reading fields for new columns is making the calls that they stand for. -/
theorem foldlM_readCondition_eq_ok_iff
    {fields : List (String × Json)} (distinct : (fields.map Prod.fst).Nodup)
    {filter : Filter} (fresh : ∀ field ∈ fields, field.1 ∉ filter.columns)
    {result : Filter} :
    fields.foldlM
          (fun filter field => do
            pure
              (filter.condition field.1 (← readCondition field.1 field.2)))
          filter =
        .ok result ↔
      (∀ field ∈ fields, field.2.WritesCondition) ∧
        result = (fields.flatMap Call.ofField).foldl Call.apply filter := by
  induction fields generalizing filter result with
  | nil =>
      rw [List.foldlM_nil, pure_eq_ok]
      simp [eq_comm]
  | cons field rest step =>
      rw [List.map_cons, List.nodup_cons] at distinct
      rw [List.forall_mem_cons] at fresh
      have unconditioned : filter.condition? field.1 = none :=
        lookup_eq_none_of_not_mem fresh.1
      have read :=
        bind_pure_eq_ok_iff (readCondition_eq_ok_iff field.1 field.2)
          (filter.condition field.1)
      -- the other columns are still new behind the condition of this one
      have freshBehind (demanded : Condition) :
          ∀ other ∈ rest,
            other.1 ∉ (filter.condition field.1 demanded).columns := by
        intro other member listed
        rcases (mem_place_columns field.1 demanded filter.entries other.1).1
            listed with same | earlier
        · exact distinct.1 (same ▸ List.mem_map_of_mem member)
        · exact fresh.2 other member earlier
      rw [List.foldlM_cons, bind_eq_ok, List.forall_mem_cons,
        List.flatMap_cons, List.foldl_append]
      constructor
      · rintro ⟨next, done, others⟩
        rcases (read next).1 done with ⟨written, rfl⟩
        rcases (step distinct.2 (freshBehind _)).1 others with ⟨valid, rfl⟩
        rw [foldl_ofField unconditioned written]
        exact ⟨⟨written, valid⟩, rfl⟩
      · rintro ⟨⟨written, valid⟩, rfl⟩
        rw [foldl_ofField unconditioned written]
        exact
          ⟨_, (read _).2 ⟨written, rfl⟩,
            (step distinct.2 (freshBehind _)).2 ⟨valid, rfl⟩⟩

/--
A document in which no column is written twice is read exactly if it is a filter
document, and the filter that is read is the one that its calls build.
-/
theorem ofJson_eq_ok_iff
    {document : Json}
    (distinct :
      ∀ fields, document = .object fields → (fields.map Prod.fst).Nodup)
    (filter : Filter) :
    ofJson document = .ok filter ↔
      document.WritesFilter ∧ filter = ofCalls (Call.ofDocument document) := by
  cases document with
  | object fields =>
      exact
        foldlM_readCondition_eq_ok_iff (distinct fields rfl)
          fun field _ => List.not_mem_nil
  | null | bool | number | string | array =>
      simp [ofJson, Json.WritesFilter]

/-- A filter document with a field of each form. -/
def everyForm : Json :=
  .object
    [("age",
        .object
          [("ge", .number (.integer 18)), ("lt", .number (.integer 65))]),
      ("role", .array [.string "admin", .null]),
      ("deleted", .bool false),
      ("name", .object [])]

theorem ofJson_eq_ok_iff_everyForm :
    (∀ fields, everyForm = .object fields → (fields.map Prod.fst).Nodup) ∧
      everyForm.WritesFilter ∧
        ofJson everyForm =
          .ok
            (ofCalls
              [.compare "age" .greaterOrEqual (.value (.int 18)),
                .compare "age" .less (.value (.int 65)),
                .oneOf "role" [.text "admin", .null],
                .equals "deleted" (.bool false),
                .condition "name" (.all [])]) := by
  have distinct :
      ∀ fields, everyForm = .object fields →
        (fields.map Prod.fst).Nodup := by
    intro fields same
    cases same
    decide
  have written : everyForm.WritesFilter := by decide
  exact ⟨distinct, written, (ofJson_eq_ok_iff distinct _).2 ⟨written, rfl⟩⟩

end Filter

end Sqlwright
