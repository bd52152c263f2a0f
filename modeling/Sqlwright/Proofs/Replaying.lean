import Mathlib.Data.List.Basic
import Mathlib.Data.List.Induction
import Sqlwright.Proofs.Lookup
import Sqlwright.Proofs.Request

/-!
# Filters built by calls

A filter is built by calls, each of which is about one column.  `Call.change`
says what a call makes of the condition of its column, and `Call.replay` what
several calls on one column leave behind.

However the calls on different columns are interleaved, a filter has for each
column what the calls on that column leave behind.  Its columns stand in the
order in which they were first mentioned, and without the calls on some columns
the filter is the same but for the conditions of these columns.
-/

namespace Sqlwright

/-- Names are listed once, in the order in which they were first mentioned. -/
structure FirstMentions (mentions names : List String) : Prop where
  mem_iff : ∀ name, name ∈ names ↔ name ∈ mentions
  ordered :
    names.Pairwise fun earlier later =>
      mentions.idxOf earlier < mentions.idxOf later

namespace FirstMentions

variable {mentions names : List String}

theorem nil : FirstMentions [] [] where
  mem_iff := fun _ => Iff.rfl
  ordered := .nil

theorem nodup (listed : FirstMentions mentions names) : names.Nodup := by
  apply listed.ordered.imp
  intro earlier later before same
  exact Nat.ne_of_lt before (congrArg mentions.idxOf same)

/-- Later mentions do not move what was mentioned before them. -/
theorem ordered_concat
    (listed : FirstMentions mentions names) (name : String) :
    names.Pairwise fun earlier later =>
      (mentions ++ [name]).idxOf earlier <
        (mentions ++ [name]).idxOf later := by
  apply listed.ordered.imp_of_mem
  intro earlier later earlierListed laterListed before
  rw [List.idxOf_append_of_mem ((listed.mem_iff earlier).1 earlierListed),
    List.idxOf_append_of_mem ((listed.mem_iff later).1 laterListed)]
  exact before

theorem concat_of_mem
    (listed : FirstMentions mentions names) {name : String}
    (known : name ∈ names) :
    FirstMentions (mentions ++ [name]) names where
  mem_iff := by
    intro other
    rw [listed.mem_iff, List.mem_append, List.mem_singleton]
    constructor
    · exact .inl
    · rintro (mentioned | rfl)
      · exact mentioned
      · exact (listed.mem_iff other).1 known
  ordered := listed.ordered_concat name

theorem concat_of_not_mem
    (listed : FirstMentions mentions names) {name : String}
    (unknown : name ∉ names) :
    FirstMentions (mentions ++ [name]) (names ++ [name]) where
  mem_iff := by
    intro other
    rw [List.mem_append, List.mem_append, listed.mem_iff]
  ordered := by
    have unmentioned : name ∉ mentions :=
      fun mentioned => unknown ((listed.mem_iff name).2 mentioned)
    rw [List.pairwise_append]
    refine
      ⟨listed.ordered_concat name, List.pairwise_singleton _ _, ?_⟩
    intro earlier earlierListed later laterListed
    rcases List.mem_singleton.1 laterListed with rfl
    have mentioned := (listed.mem_iff earlier).1 earlierListed
    rw [List.idxOf_append_of_mem mentioned,
      List.idxOf_append_of_notMem unmentioned]
    exact Nat.lt_add_right _ (List.idxOf_lt_length_iff.2 mentioned)

end FirstMentions

namespace Filter

/-! ## Placed conditions -/

section Place

variable (column : String) (condition : Condition)
  (entries : List (String × Condition))

/-- A condition goes to the place of its column, or behind all others. -/
theorem columns_place :
    (place column condition entries).map Prod.fst =
      if column ∈ entries.map Prod.fst then
        entries.map Prod.fst
      else
        entries.map Prod.fst ++ [column] := by
  induction entries with
  | nil => simp [place]
  | cons entry rest step =>
      by_cases same : entry.1 = column
      · simp [place, same]
      · have other : column ≠ entry.1 := fun equal => same equal.symm
        simp only [place, same, if_false, List.map_cons, step,
          List.mem_cons, other, false_or]
        split
        · rfl
        · rfl

theorem lookup_place (name : String) :
    (place column condition entries).lookup name =
      if name = column then some condition else entries.lookup name := by
  induction entries with
  | nil => exact lookup_cons_eq_ite [] name (column, condition)
  | cons entry rest step =>
      by_cases same : entry.1 = column
      · simp only [place, same, if_true, lookup_cons_eq_ite]
        split
        · rfl
        · rfl
      · simp only [place, same, if_false, lookup_cons_eq_ite, step]
        by_cases found : name = column
        · have other : name ≠ entry.1 :=
            fun equal => same (equal.symm.trans found)
          rw [if_neg other, if_pos found, if_pos found]
        · rw [if_neg found, if_neg found]

variable (kept : String → Bool)

/-- Leaving out some columns leaves out what is placed under them. -/
theorem filter_place :
    (place column condition entries).filter (fun entry => kept entry.1) =
      if kept column then
        place column condition (entries.filter fun entry => kept entry.1)
      else
        entries.filter fun entry => kept entry.1 := by
  induction entries with
  | nil =>
      by_cases isKept : kept column = true
      · simp [place, isKept]
      · simp [place, isKept]
  | cons entry rest step =>
      by_cases same : entry.1 = column
      · by_cases isKept : kept column = true
        · simp [place, same, isKept]
        · simp [place, same, isKept]
      · by_cases entryKept : kept entry.1 = true
        · simp only [place, same, if_false, List.filter_cons, entryKept,
            if_true, step]
          split
          · rfl
          · rfl
        · simp only [place, same, if_false, List.filter_cons, entryKept, step,
            Bool.false_eq_true]

end Place

/-! ## Calls -/

/-- A call that adds to a filter. -/
inductive Call where
  | condition (column : String) (condition : Condition)
  | equals (column : String) (value : Value)
  | oneOf (column : String) (values : List Value)
  | compare (column : String) (operator : Operator) (operand : Operand)

namespace Call

/-- The column that a call is about. -/
def column : Call → String
  | condition column _ | equals column _ | oneOf column _
  | compare column _ _ => column

/-- The filter after a call. -/
def apply (filter : Filter) : Call → Filter
  | condition column demanded => filter.condition column demanded
  | equals column value => filter.equals column value
  | oneOf column values => filter.oneOf column values
  | compare column operator operand => filter.compare column operator operand

/-- The condition that a call makes of the condition of its column. -/
def change (before : Option Condition) : Call → Condition
  | condition _ demanded => demanded
  | equals _ value => .value value
  | oneOf _ values => .oneOf values
  | compare _ operator operand =>
      match before with
      | some (.all comparisons) => .all (comparisons ++ [(operator, operand)])
      | _ => .all [(operator, operand)]

/-- The condition that calls on one column leave behind. -/
def replay (calls : List Call) : Option Condition :=
  calls.foldl (fun found call => some (call.change found)) none

@[simp]
theorem replay_concat (calls : List Call) (call : Call) :
    replay (calls ++ [call]) = some (call.change (replay calls)) := by
  simp [replay]

/-- A call places a condition for its column and does nothing else. -/
theorem entries_apply (filter : Filter) (call : Call) :
    (call.apply filter).entries =
      place call.column (call.change (filter.condition? call.column))
        filter.entries := by
  cases call with
  | condition column demanded | equals column value | oneOf column values =>
      rfl
  | compare column operator operand =>
      simp only [apply, Filter.compare, change, Call.column]
      cases filter.condition? column with
      | none => rfl
      | some before => cases before <;> rfl

end Call

/-- The filter that calls build, from one without columns. -/
def ofCalls (calls : List Call) : Filter :=
  calls.foldl Call.apply empty

theorem ofCalls_concat (calls : List Call) (call : Call) :
    ofCalls (calls ++ [call]) = call.apply (ofCalls calls) := by
  simp [ofCalls]

/-! ## The order of the columns -/

theorem columns_apply (filter : Filter) (call : Call) :
    (call.apply filter).columns =
      if call.column ∈ filter.columns then
        filter.columns
      else
        filter.columns ++ [call.column] := by
  rw [columns, Call.entries_apply]
  exact columns_place _ _ _

theorem firstMentions_ofCalls (calls : List Call) :
    FirstMentions (calls.map Call.column) (ofCalls calls).columns := by
  -- Call by call: the last call either finds its column or adds it behind.
  induction calls using List.reverseRecOn with
  | nil => exact .nil
  | append_singleton calls call step =>
      rw [ofCalls_concat, columns_apply, List.map_append, List.map_singleton]
      split
      · rename_i known
        exact step.concat_of_mem known
      · rename_i unknown
        exact step.concat_of_not_mem unknown

/-! ## The conditions of the columns -/

theorem condition?_apply (filter : Filter) (call : Call) (column : String) :
    (call.apply filter).condition? column =
      if column = call.column then
        some (call.change (filter.condition? call.column))
      else
        filter.condition? column := by
  rw [condition?, Call.entries_apply]
  exact lookup_place _ _ _ _

/-- A column has the condition that the calls on it leave behind. -/
theorem condition?_ofCalls (calls : List Call) (column : String) :
    (ofCalls calls).condition? column =
      Call.replay (calls.filter fun call => call.column = column) := by
  induction calls using List.reverseRecOn with
  | nil => rfl
  | append_singleton calls call step =>
      rw [ofCalls_concat, condition?_apply, List.filter_append]
      by_cases about : call.column = column
      · rw [if_pos about.symm, about, step]
        simp [about]
      · rw [if_neg fun same => about same.symm, step]
        simp [about]

/-- Without the calls on some columns, their entries are missing. -/
theorem entries_ofCalls_filter (kept : String → Bool) (calls : List Call) :
    (ofCalls (calls.filter fun call => kept call.column)).entries =
      (ofCalls calls).entries.filter fun entry => kept entry.1 := by
  induction calls using List.reverseRecOn with
  | nil => rfl
  | append_singleton calls call step =>
      rw [ofCalls_concat, Call.entries_apply, filter_place, List.filter_append,
        List.filter_singleton]
      by_cases isKept : kept call.column = true
      -- A call looks at the condition of its column only, so it makes the same
      -- change to what is left of the filter as to the whole of it.
      · have same :
            (ofCalls (calls.filter fun call => kept call.column)).condition?
                call.column =
              (ofCalls calls).condition? call.column := by
          rw [condition?, step]
          exact lookup_filter _ isKept
        rw [if_pos isKept, isKept, cond_true, ofCalls_concat,
          Call.entries_apply, same, step]
      · rw [if_neg isKept, Bool.eq_false_iff.2 isKept, cond_false,
          List.append_nil, step]

/--
Calls act column by column, in whatever order they come.  The columns of a
filter are those of its calls, each once and in the order in which they were
first mentioned; a column has the condition that the calls on it leave behind
when nothing else is called; and the calls on any set of columns build the same
entries in the same order by themselves as they do among all others.
-/
theorem ofCalls_by_column (calls : List Call) :
    (ofCalls calls).columns.Nodup ∧
      FirstMentions (calls.map Call.column) (ofCalls calls).columns ∧
      (∀ column,
        (ofCalls calls).condition? column =
          Call.replay (calls.filter fun call => call.column = column)) ∧
      ∀ kept : String → Bool,
        (ofCalls calls).entries.filter (fun entry => kept entry.1) =
          (ofCalls (calls.filter fun call => kept call.column)).entries := by
  have listed := firstMentions_ofCalls calls
  refine ⟨listed.nodup, listed, condition?_ofCalls calls, ?_⟩
  intro kept
  exact (entries_ofCalls_filter kept calls).symm

/-- A comparison starts anew behind another condition, and keeps the place. -/
example :
    (ofCalls
        [.equals "a" .null, .compare "b" .less (.value (.int 9)),
          .compare "a" .greater (.value (.int 1)),
          .compare "b" .greater (.value (.int 3)),
          .compare "a" .less (.value (.int 5))]).entries =
      [("a",
          .all
            [(.greater, .value (.int 1)), (.less, .value (.int 5))]),
        ("b",
          .all
            [(.less, .value (.int 9)), (.greater, .value (.int 3))])] :=
  rfl

end Filter

end Sqlwright
