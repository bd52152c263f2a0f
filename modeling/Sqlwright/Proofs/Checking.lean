import Sqlwright.Dialect
import Sqlwright.Proofs.Quoting
import Sqlwright.Proofs.Success

/-!
# Checks in order

What an input has to fulfil is said by a list of `Check`s, each with the
failure that stands for its refusal.  A computation is decided by checks if it
fails with the failure of the first check that is not passed, and succeeds if
all are.  Decided computations follow each other as their checks do, and steps
for the items of a list are decided by the checks of all items in order.

`Nameable` says which columns a statement may name, and the checks of a column
are its allow-list and the two rules of quoting.
-/

namespace Sqlwright

open Sqlwright.Success
open Sqlwright.Text

/-- A condition on an input, and the failure if it is not fulfilled. -/
structure Check where
  passed : Bool
  failure : Failure

/-- The failure of a computation that has no result. -/
def failure? {Result : Type} : Except Failure Result → Option Failure
  | .ok _ => none
  | .error failure => some failure

theorem failure?_eq_some_iff
    {Result : Type} {run : Except Failure Result} {failure : Failure} :
    failure? run = some failure ↔ run = .error failure := by
  cases run with
  | error other => simp [failure?]
  | ok result => simp [failure?]

theorem failure?_eq_none_iff
    {Result : Type} {run : Except Failure Result} :
    failure? run = none ↔ ∃ result, run = .ok result := by
  cases run with
  | error failure => simp [failure?]
  | ok result => simp [failure?]

namespace Check

variable {First Second Item : Type}

/-- The failure of the first check that is not passed. -/
def first? (checks : List Check) : Option Failure :=
  (checks.find? fun check => !check.passed).map Check.failure

@[simp]
theorem first?_nil : first? [] = none := rfl

theorem first?_cons (check : Check) (rest : List Check) :
    first? (check :: rest) =
      if check.passed then first? rest else some check.failure := by
  by_cases passed : check.passed = true
  · simp [first?, passed]
  · simp [first?, passed]

theorem first?_append (front back : List Check) :
    first? (front ++ back) = (first? front).or (first? back) := by
  rw [first?, List.find?_append, Option.map_or, ← first?, ← first?]

theorem first?_eq_none_iff (checks : List Check) :
    first? checks = none ↔ ∀ check ∈ checks, check.passed = true := by
  simp [first?]

theorem first?_flatMap (checks : Item → List Check) (items : List Item) :
    first? (items.flatMap checks) =
      items.findSome? fun item => first? (checks item) := by
  induction items with
  | nil => rfl
  | cons item rest step =>
      rw [List.flatMap_cons, first?_append, step, List.findSome?_cons]
      cases first? (checks item) with
      | none => rfl
      | some failure => rfl

/-- The first check not passed is the first one of the first item with one. -/
theorem first?_flatMap_eq_some_iff
    {checks : Item → List Check} {items : List Item} {failure : Failure} :
    first? (items.flatMap checks) = some failure ↔
      ∃ front item back, items = front ++ item :: back ∧
        (∀ earlier ∈ front, ∀ check ∈ checks earlier, check.passed = true) ∧
        first? (checks item) = some failure := by
  rw [first?_flatMap, List.findSome?_eq_some_iff]
  simp only [first?_eq_none_iff]
  constructor
  · rintro ⟨front, item, back, split, found, passed⟩
    exact ⟨front, item, back, split, passed, found⟩
  · rintro ⟨front, item, back, split, passed, found⟩
    exact ⟨front, item, back, split, found, passed⟩

/-- A computation fails with the first check not passed, and only then. -/
def Decide (checks : List Check) (run : Except Failure First) : Prop :=
  failure? run = first? checks

theorem Decide.ok (result : First) : Decide [] (.ok result) := rfl

/-- A computation that fails if a condition does not hold, and goes on else. -/
theorem Decide.ite
    {holds : Bool} {failure : Failure} {run : Except Failure First}
    {checks : List Check}
    (rest : holds = true → Decide checks run) :
    Decide (⟨holds, failure⟩ :: checks)
      (if holds then run else .error failure) := by
  rw [Decide, first?_cons]
  cases holds with
  | false => rfl
  | true => exact rest rfl

/-- A computation that fails if a fault is found, and goes on else. -/
theorem Decide.unless
    {fault : Bool} {failure : Failure} {run : Except Failure First}
    {checks : List Check}
    (rest : fault = false → Decide checks run) :
    Decide (⟨!fault, failure⟩ :: checks)
      (if fault then .error failure else run) := by
  rw [Decide, first?_cons]
  cases fault with
  | false => exact rest rfl
  | true => rfl

/-- Checks that are passed in any case. -/
theorem Decide.of_passed
    {checks : List Check}
    (passed : ∀ check ∈ checks, check.passed = true) (result : First) :
    Decide checks (.ok result) :=
  ((first?_eq_none_iff checks).2 passed).symm

theorem Decide.bind
    {first : Except Failure First} {next : First → Except Failure Second}
    {checks others : List Check}
    (start : Decide checks first)
    (step : ∀ result, first = .ok result → Decide others (next result)) :
    Decide (checks ++ others) (first >>= next) := by
  rw [Decide, first?_append, ← start]
  cases first with
  | error failure => rfl
  | ok result => exact step result rfl

/-- What is done with the result always succeeds. -/
theorem Decide.before
    {first : Except Failure First} {next : First → Except Failure Second}
    {checks : List Check}
    (start : Decide checks first)
    (step : ∀ result, first = .ok result → Decide [] (next result)) :
    Decide checks (first >>= next) := by
  have whole := start.bind step
  rw [List.append_nil] at whole
  exact whole

theorem Decide.mapM
    {step : Item → Except Failure Second} {checks : Item → List Check}
    {items : List Item}
    (each : ∀ item ∈ items, Decide (checks item) (step item)) :
    Decide (items.flatMap checks) (items.mapM step) := by
  induction items with
  | nil => exact .ok []
  | cons item rest induction =>
      rw [List.forall_mem_cons] at each
      rw [List.mapM_cons, List.flatMap_cons]
      apply each.1.bind
      intro result _
      apply (induction each.2).before
      intro results _
      exact .ok (result :: results)

theorem Decide.exists_iff
    {checks : List Check} {run : Except Failure First}
    (decided : Decide checks run) :
    (∃ result, run = .ok result) ↔
      ∀ check ∈ checks, check.passed = true := by
  rw [← failure?_eq_none_iff, decided, first?_eq_none_iff]

theorem Decide.error_iff
    {checks : List Check} {run : Except Failure First}
    (decided : Decide checks run) (failure : Failure) :
    run = .error failure ↔ first? checks = some failure := by
  rw [← failure?_eq_some_iff, decided]

end Check

/-! ## Tables and columns -/

theorem validateTable_eq_ok_iff (table : String) (done : Unit) :
    validateTable table = .ok done ↔ isBlank table = false := by
  unfold validateTable
  split
  · rename_i blank
    simp [blank]
  · rename_i named
    simp [named]

/-- A column that is allowed, and that has a name in every place. -/
structure Nameable (options : Options) (column : String) : Prop where
  allowed : options.columns = [] ∨ column ∈ options.columns
  quotable : ¬ Identifier.Refused column

theorem Identifier.quote_eq_ok_iff_not_refused
    (style : QuoteStyle) (identifier quoted : String) :
    quote style identifier = .ok quoted ↔
      ¬ Refused identifier ∧ quoted = quoteAll style identifier := by
  rw [quote_eq_ok_iff, fault?_eq_none_iff, eq_comm]

namespace Options

variable (options : Options)

theorem allows_eq_true_iff (column : String) :
    options.allows column = true ↔
      options.columns = [] ∨ column ∈ options.columns := by
  rw [allows, Bool.or_eq_true, List.isEmpty_iff, List.contains_iff_mem]

/-- The checks of a column: the allow-list, and the rules of quoting. -/
def columnChecks (column : String) : List Check :=
  [⟨options.allows column, .column column⟩,
    ⟨!isBlank column, .argument .blankIdentifier⟩,
    ⟨!(Identifier.segments column).any List.isEmpty,
      .argument (.emptySegment column)⟩]

theorem decide_quoteColumn (column : String) :
    Check.Decide (options.columnChecks column)
      (options.quoteColumn column) := by
  have listed :
      Check.Decide [⟨options.allows column, .column column⟩]
        (options.validateColumn column) :=
    .ite fun _ => .ok ()
  apply listed.bind
  intro _ _
  rw [Check.Decide, Check.first?_cons, Check.first?_cons, Identifier.quote,
    Identifier.fault?]
  by_cases blank : isBlank column = true
  · simp [blank, failure?]
  · by_cases gap : (Identifier.segments column).any List.isEmpty = true
    · simp [blank, gap, failure?]
    · simp [blank, gap, failure?]

theorem validateColumn_eq_ok_iff (column : String) (done : Unit) :
    options.validateColumn column = .ok done ↔
      options.columns = [] ∨ column ∈ options.columns := by
  rw [← allows_eq_true_iff, validateColumn]
  split
  · rename_i allowed
    simp [allowed]
  · rename_i absent
    simp [absent]

/-- A column is quoted if statements may name it. -/
theorem quoteColumn_eq_ok_iff_nameable (column quoted : String) :
    options.quoteColumn column = .ok quoted ↔
      Nameable options column ∧
        quoted = Identifier.quoteAll options.quoteStyle column := by
  simp only [quoteColumn, bind_eq_ok, validateColumn_eq_ok_iff,
    Identifier.quote_eq_ok_iff_not_refused]
  constructor
  · rintro ⟨-, allowed, quotable, rfl⟩
    exact ⟨⟨allowed, quotable⟩, rfl⟩
  · rintro ⟨⟨allowed, quotable⟩, rfl⟩
    exact ⟨(), allowed, quotable, rfl⟩

/-- A column passes its checks if statements may name it. -/
theorem forall_columnChecks_iff (column : String) :
    (∀ check ∈ options.columnChecks column, check.passed = true) ↔
      Nameable options column := by
  rw [← (options.decide_quoteColumn column).exists_iff]
  simp only [quoteColumn_eq_ok_iff_nameable]
  constructor
  · rintro ⟨quoted, nameable, -⟩
    exact nameable
  · intro nameable
    exact ⟨_, nameable, rfl⟩

theorem quoteColumns_eq_ok_iff (columns quoted : List String) :
    options.quoteColumns columns = .ok quoted ↔
      (∀ column ∈ columns, Nameable options column) ∧
        quoted = columns.map (Identifier.quoteAll options.quoteStyle) :=
  mapM_eq_ok_iff options.quoteColumn_eq_ok_iff_nameable

end Options

end Sqlwright
