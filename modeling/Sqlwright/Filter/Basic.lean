import Sqlwright.Failure

/-!
# Filters

A `Filter` says which rows a statement is about: one condition for each of some
columns, all of which have to hold.  Columns stand in the order in which they
were first mentioned, and none is mentioned twice; `Filter.nodup_columns` keeps
that through every change.
-/

namespace Sqlwright

/-- What an operator compares a column with. -/
inductive Operand where
  | value (value : Value)
  | list (values : List Value)

/-- What has to hold of a column. -/
inductive Condition where
  /-- Equality, or absence for the value null. -/
  | value (value : Value)
  /-- Equality with one of several values. -/
  | oneOf (values : List Value)
  /-- Several comparisons in order. -/
  | all (comparisons : List (Operator × Operand))

/-- One condition for each of some distinct columns, in order. -/
structure Filter where
  entries : List (String × Condition)
  nodup_columns : (entries.map Prod.fst).Nodup

namespace Filter

/-- Put a condition in place of that of a column, or behind all others. -/
def place (column : String) (condition : Condition) :
    List (String × Condition) → List (String × Condition)
  | [] => [(column, condition)]
  | entry :: rest =>
      if entry.1 = column then (column, condition) :: rest
      else entry :: place column condition rest

theorem mem_place_columns
    (column : String) (condition : Condition)
    (entries : List (String × Condition)) (name : String) :
    name ∈ (place column condition entries).map Prod.fst ↔
      name = column ∨ name ∈ entries.map Prod.fst := by
  induction entries with
  | nil => simp [place]
  | cons entry rest step =>
      by_cases same : entry.1 = column
      · simp [place, same]
      · simp only [place, same, if_false, List.map_cons, List.mem_cons, step]
        constructor <;> rintro (h | h | h) <;> simp [h]

theorem nodup_place
    (column : String) (condition : Condition)
    (entries : List (String × Condition))
    (distinct : (entries.map Prod.fst).Nodup) :
    ((place column condition entries).map Prod.fst).Nodup := by
  induction entries with
  | nil => simp [place]
  | cons entry rest step =>
      by_cases same : entry.1 = column
      · simpa [place, same] using distinct
      · simp only [List.map_cons, List.nodup_cons] at distinct
        simp only [place, same, if_false, List.map_cons, List.nodup_cons]
        refine ⟨?_, step distinct.2⟩
        intro member
        rcases (mem_place_columns column condition rest entry.1).1 member with
          found | found
        · exact same found
        · exact distinct.1 found

/-- The filter that every row passes. -/
def empty : Filter :=
  ⟨[], by simp⟩

/-- Whether a filter has no columns, and so demands nothing. -/
def isEmpty (filter : Filter) : Bool :=
  filter.entries.isEmpty

/-- The condition of a column, if the filter has the column. -/
def condition? (filter : Filter) (column : String) : Option Condition :=
  filter.entries.lookup column

/-- The filter with a condition for a column, in place of any earlier one. -/
def condition (filter : Filter) (column : String) (condition : Condition) :
    Filter :=
  ⟨place column condition filter.entries,
    nodup_place column condition filter.entries filter.nodup_columns⟩

/-- The filter that also demands one value of a column. -/
def equals (filter : Filter) (column : String) (value : Value) : Filter :=
  filter.condition column (.value value)

/-- Demand that a column equals one of several values. -/
def oneOf (filter : Filter) (column : String) (values : List Value) : Filter :=
  filter.condition column (.oneOf values)

/--
Demand one more comparison of a column.  It joins the comparisons that are
there, and takes the place of a condition of another kind.
-/
def compare (filter : Filter) (column : String) (operator : Operator)
    (operand : Operand) : Filter :=
  match filter.condition? column with
  | some (.all comparisons) =>
      filter.condition column (.all (comparisons ++ [(operator, operand)]))
  | _ => filter.condition column (.all [(operator, operand)])

end Filter

end Sqlwright
