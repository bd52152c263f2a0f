import Mathlib.Data.List.Basic
import Mathlib.Data.List.Induction
import Sqlwright.Proofs.Lookup
import Sqlwright.Row

/-!
# Rows with repeated names

`Row.named` lists the values that stand under one name in a row.  A lookup by
name takes the first of them, and the row as a map the last, because a later
value under a name takes the place of an earlier one.

So both find nothing under the same names, and on one row they agree about a
name whose first and last value are the same.  They agree on every row of some
columns exactly if no name is repeated among the columns that have a value.
-/

namespace Sqlwright

namespace Row

/-- The values under a name, in the order of their columns. -/
def named (row : Row) (name : String) : List Value :=
  ((row.columns.zip row.values).filter fun pair => pair.1 = name).map Prod.snd

theorem named_cons
    (column : String) (columns : List String) (value : Value)
    (values : List Value) (name : String) :
    named ⟨column :: columns, value :: values⟩ name =
      if column = name then value :: named ⟨columns, values⟩ name
      else named ⟨columns, values⟩ name := by
  simp only [named, List.zip_cons_cons, List.filter_cons]
  by_cases same : column = name
  · simp [same]
  · simp [same]

theorem mem_of_mem_named
    {row : Row} {name : String} {value : Value}
    (member : value ∈ row.named name) :
    value ∈ row.values := by
  rcases List.mem_map.1 member with ⟨pair, kept, rfl⟩
  exact (List.of_mem_zip (List.mem_filter.1 kept).1).2

/-- Names are without values unless a column with a value has them. -/
theorem named_eq_nil_iff (row : Row) (name : String) :
    row.named name = [] ↔ name ∉ row.columns.take row.values.length := by
  rcases row with ⟨columns, values⟩
  induction columns generalizing values with
  | nil => simp [named]
  | cons column columns step =>
      cases values with
      | nil => simp [named]
      | cons value values =>
          rw [named_cons, List.length_cons, List.take_succ_cons,
            List.mem_cons, not_or, ← step values]
          by_cases same : column = name
          · simp [same]
          · simp [same, Ne.symm same]

/-! ## The first value under a name -/

theorem get?_cons
    (column : String) (columns : List String) (value : Value)
    (values : List Value) (name : String) :
    get? ⟨column :: columns, value :: values⟩ name =
      if column = name then some value else get? ⟨columns, values⟩ name := by
  simp only [get?, index?, List.findIdx?_cons, beq_iff_eq]
  split
  · rfl
  · cases columns.findIdx? (· == name) <;> rfl

/-- A name is looked up under its first column. -/
theorem get?_eq_head? (row : Row) (name : String) :
    row.get? name = (row.named name).head? := by
  rcases row with ⟨columns, values⟩
  induction columns generalizing values with
  | nil => rfl
  | cons column columns step =>
      cases values with
      | nil =>
          rw [get?, named, List.zip_nil_right]
          exact Option.bind_eq_none_iff.2 fun _ _ => rfl
      | cons value values =>
          rw [get?_cons, named_cons, step]
          split
          · rfl
          · rfl

/-! ## The last value under a name -/

theorem lookup_insertEntry
    (entries : List (String × Value)) (column : String) (value : Value)
    (name : String) :
    (insertEntry entries column value).lookup name =
      if name = column then some value else entries.lookup name := by
  induction entries with
  | nil => exact lookup_cons_eq_ite [] name (column, value)
  | cons entry rest step =>
      rw [insertEntry, lookup_cons_eq_ite]
      by_cases found : entry.1 = column
      · rw [if_pos (beq_iff_eq.2 found), lookup_cons_eq_ite, found]
        split
        · rfl
        · rfl
      · rw [if_neg (mt beq_iff_eq.1 found), lookup_cons_eq_ite, step]
        by_cases same : name = column
        · rw [if_neg fun equal => found (equal.symm.trans same), if_pos same,
            if_pos same]
        · rw [if_neg same, if_neg same]

/-- In the row as a map the last column of a name decides. -/
theorem lookup?_eq_getLast? (row : Row) (name : String) :
    row.lookup? name = (row.named name).getLast? := by
  rw [lookup?, entries, named]
  generalize row.columns.zip row.values = pairs
  induction pairs using List.reverseRecOn with
  | nil => rfl
  | append_singleton pairs pair step =>
      rw [List.foldl_append, List.foldl_cons, List.foldl_nil,
        lookup_insertEntry, step, List.filter_append, List.filter_singleton]
      by_cases same : pair.1 = name
      · simp [same]
      · simp [same, Ne.symm same]

/-! ## Columns without repeated names -/

/-- Where a name is repeated, some row has two values under it. -/
theorem not_mem_of_agree
    {column : String} {columns : List String} {count : Nat}
    (agree : ∀ values : List Value, values.length = count + 1 →
      (named ⟨column :: columns, values⟩ column).getLast? =
        (named ⟨column :: columns, values⟩ column).head?) :
    column ∉ columns.take count := by
  let others : List Value := List.replicate count (.bool true)
  have width : others.length = count := List.length_replicate
  intro repeated
  have nonempty : named ⟨columns, others⟩ column ≠ [] := by
    rw [Ne, named_eq_nil_iff, not_not, width]
    exact repeated
  have last := agree (.null :: others) (congrArg (· + 1) width)
  rw [named_cons, if_pos rfl, List.getLast?_cons_of_ne_nil nonempty] at last
  have among : Value.null ∈ others :=
    mem_of_mem_named (List.mem_of_getLast? last)
  cases (List.mem_replicate.1 among).2

theorem agree_iff_nodup (columns : List String) (count : Nat) :
    (∀ values : List Value, values.length = count →
        ∀ name,
          (named ⟨columns, values⟩ name).getLast? =
            (named ⟨columns, values⟩ name).head?) ↔
      (columns.take count).Nodup := by
  induction columns generalizing count with
  | nil => simp [named]
  | cons column columns step =>
      cases count with
      | zero => simp [named]
      | succ count =>
          rw [List.take_succ_cons, List.nodup_cons, ← step count]
          have alone {values : List Value} (width : values.length = count)
              (fresh : column ∉ columns.take count) :
              named ⟨columns, values⟩ column = [] :=
            (named_eq_nil_iff ⟨columns, values⟩ column).2 (width ▸ fresh)
          constructor
          · intro agree
            have fresh : column ∉ columns.take count :=
              not_mem_of_agree fun values width => agree values width column
            refine ⟨fresh, fun values width name => ?_⟩
            have behind :=
              agree (.null :: values) (congrArg (· + 1) width) name
            rw [named_cons] at behind
            by_cases same : column = name
            · rw [← same, alone width fresh]
              rfl
            · rwa [if_neg same] at behind
          · rintro ⟨fresh, agree⟩ values width name
            rcases values with _ | ⟨value, values⟩
            · cases width
            · have remaining : values.length = count :=
                Nat.succ.inj width
              rw [named_cons]
              by_cases same : column = name
              · rw [if_pos same, ← same, alone remaining fresh]
                rfl
              · rw [if_neg same]
                exact agree values remaining name

/--
In rows of any columns, a lookup by name and the row as a map find something
under the same names, namely those of the columns that have a value, but the
first value under the name in one case and the last in the other.  For a given
number of values they agree on every row exactly if no name is repeated among
the columns that have a value.
-/
theorem lookup?_eq_get?_iff (columns : List String) (count : Nat) :
    (∀ (values : List Value) (name : String),
      get? ⟨columns, values⟩ name = (named ⟨columns, values⟩ name).head? ∧
        lookup? ⟨columns, values⟩ name =
          (named ⟨columns, values⟩ name).getLast? ∧
        (named ⟨columns, values⟩ name = [] ↔
          name ∉ columns.take values.length)) ∧
      ((∀ values : List Value, values.length = count →
          ∀ name : String,
            lookup? ⟨columns, values⟩ name = get? ⟨columns, values⟩ name) ↔
        (columns.take count).Nodup) := by
  refine ⟨fun values name => ?_, ?_⟩
  · exact
      ⟨get?_eq_head? ⟨columns, values⟩ name,
        lookup?_eq_getLast? ⟨columns, values⟩ name,
        named_eq_nil_iff ⟨columns, values⟩ name⟩
  · simp only [lookup?_eq_getLast?, get?_eq_head?]
    exact agree_iff_nodup columns count

/-- Two tables are joined that both have a column of this name. -/
theorem lookup?_ne_get?_repeatedColumn :
    get? ⟨["a", "a"], [.int 1, .int 2]⟩ "a" = some (.int 1) ∧
      lookup? ⟨["a", "a"], [.int 1, .int 2]⟩ "a" = some (.int 2) ∧
      lookup? ⟨["a", "a"], [.int 1, .int 2]⟩ "a" ≠
        get? ⟨["a", "a"], [.int 1, .int 2]⟩ "a" := by
  refine ⟨rfl, rfl, fun same => ?_⟩
  have numbers : Value.int 2 = .int 1 := Option.some.inj same
  exact absurd (Value.int.inj numbers) (by decide)

end Row

end Sqlwright
