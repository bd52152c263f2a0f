import Mathlib.Data.List.Forall2

/-!
# Successful computations

A computation that may fail succeeds exactly when each of its steps does.
These lemmas open a successful chain of steps, and a successful step for each
item of a list, into the results of the steps.
-/

namespace Sqlwright.Success

variable {Fault First Second Item : Type}

theorem bind_eq_ok
    {first : Except Fault First} {next : First → Except Fault Second}
    {result : Second} :
    (first >>= next) = .ok result ↔
      ∃ value, first = .ok value ∧ next value = .ok result := by
  cases first <;> simp [bind, Except.bind]

theorem pure_eq_ok {value result : First} :
    (pure value : Except Fault First) = .ok result ↔ value = result := by
  simp [pure, Except.pure]

theorem map_eq_ok
    {first : Except Fault First} {change : First → Second} {result : Second} :
    first.map change = .ok result ↔
      ∃ value, first = .ok value ∧ change value = result := by
  cases first <;> simp [Except.map]

/-- A computation that succeeds by a rule still does if its result is changed. -/
theorem bind_pure_eq_ok_iff
    {first : Except Fault First} {valid : Prop} {outcome : First}
    (rule : ∀ value, first = .ok value ↔ valid ∧ value = outcome)
    (change : First → Second) (result : Second) :
    (first >>= fun value => pure (change value)) = .ok result ↔
      valid ∧ result = change outcome := by
  simp only [bind_eq_ok, pure_eq_ok, rule]
  constructor
  · rintro ⟨value, ⟨holds, rfl⟩, rfl⟩
    exact ⟨holds, rfl⟩
  · rintro ⟨holds, rfl⟩
    exact ⟨outcome, ⟨holds, rfl⟩, rfl⟩

/-- A step for each item succeeds if it does so item by item. -/
theorem mapM_eq_ok
    {step : Item → Except Fault Second} {items : List Item}
    {results : List Second} :
    items.mapM step = .ok results ↔
      List.Forall₂ (fun item result => step item = .ok result)
        items results := by
  induction items generalizing results with
  | nil => cases results <;> simp [pure_eq_ok]
  | cons item rest induction =>
      rw [List.mapM_cons]
      simp only [bind_eq_ok, pure_eq_ok, induction]
      constructor
      · rintro ⟨value, done, values, others, rfl⟩
        exact .cons done others
      · intro steps
        cases steps with
        | cons done others => exact ⟨_, done, _, others, rfl⟩

/-- A step that succeeds by a rule, with a result by a rule, for each item. -/
theorem mapM_eq_ok_iff
    {step : Item → Except Fault Second} {valid : Item → Prop}
    {outcome : Item → Second}
    (each :
      ∀ item found,
        step item = .ok found ↔ valid item ∧ found = outcome item)
    {items : List Item} {results : List Second} :
    items.mapM step = .ok results ↔
      (∀ item ∈ items, valid item) ∧ results = items.map outcome := by
  induction items generalizing results with
  | nil =>
      rw [List.mapM_nil, pure_eq_ok]
      simp [eq_comm]
  | cons item rest induction =>
      rw [List.mapM_cons]
      simp only [bind_eq_ok, pure_eq_ok, each, induction, List.forall_mem_cons,
        List.map_cons]
      constructor
      · rintro ⟨found, ⟨holds, rfl⟩, others, ⟨hold, rfl⟩, rfl⟩
        exact ⟨⟨holds, hold⟩, rfl⟩
      · rintro ⟨⟨holds, hold⟩, rfl⟩
        exact ⟨_, ⟨holds, rfl⟩, _, ⟨hold, rfl⟩, rfl⟩

/-- Changing the result of each step changes each of the results. -/
theorem mapM_map
    {Third : Type} (step : Item → Except Fault Second)
    (change : Second → Third) (items : List Item) :
    (items.mapM fun item => (step item).map change) =
      (items.mapM step).map (List.map change) := by
  induction items with
  | nil => rfl
  | cons item rest induction =>
      rw [List.mapM_cons, List.mapM_cons, induction]
      cases step item with
      | error fault => rfl
      | ok result => cases rest.mapM step <;> rfl

/-- A step that succeeds for every item succeeds for the list. -/
theorem exists_mapM_eq_ok
    {step : Item → Except Fault Second} {items : List Item}
    (each : ∀ item ∈ items, ∃ result, step item = .ok result) :
    ∃ results, items.mapM step = .ok results := by
  induction items with
  | nil => exact ⟨[], rfl⟩
  | cons item rest induction =>
      simp only [List.forall_mem_cons] at each
      rcases each.1 with ⟨value, done⟩
      rcases induction each.2 with ⟨values, others⟩
      exact ⟨value :: values, mapM_eq_ok.2 (.cons done (mapM_eq_ok.1 others))⟩

theorem exists_of_mem_of_forall₂
    {related : Item → Second → Prop} {items : List Item}
    {results : List Second} (pairs : List.Forall₂ related items results)
    {item : Item} (member : item ∈ items) :
    ∃ result ∈ results, related item result := by
  induction pairs with
  | nil => cases member
  | cons pair others induction =>
      rcases List.mem_cons.1 member with rfl | inside
      · exact ⟨_, List.mem_cons_self, pair⟩
      · rcases induction inside with ⟨result, listed, done⟩
        exact ⟨result, List.mem_cons_of_mem _ listed, done⟩

/-- Each item has its result among the results. -/
theorem exists_of_mem_of_mapM_eq_ok
    {step : Item → Except Fault Second} {items : List Item}
    {results : List Second} (succeeded : items.mapM step = .ok results)
    {item : Item} (member : item ∈ items) :
    ∃ result ∈ results, step item = .ok result :=
  exists_of_mem_of_forall₂ (mapM_eq_ok.1 succeeded) member

/-- What every related pair implies of its right item holds of all of them. -/
theorem forall_right_of_forall₂
    {related : Item → Second → Prop} {items : List Item}
    {results : List Second} {property : Second → Prop}
    (pairs : List.Forall₂ related items results)
    (each : ∀ item ∈ items, ∀ result, related item result → property result) :
    ∀ result ∈ results, property result := by
  induction pairs with
  | nil => simp
  | cons pair others induction =>
      simp only [List.forall_mem_cons] at each ⊢
      exact ⟨each.1 _ pair, induction each.2⟩

/--
If each result comes from a result of another step, the other step succeeds for
all items, and the results come from its results.
-/
theorem exists_mapM_of_mapM_eq_ok
    {Third : Type} {step : Item → Except Fault Second}
    {items : List Item} {results : List Second}
    (other : Item → Except Fault Third) (change : Third → Second)
    (succeeded : items.mapM step = .ok results)
    (each :
      ∀ item result, step item = .ok result →
        ∃ source, other item = .ok source ∧ change source = result) :
    ∃ sources, items.mapM other = .ok sources ∧
      sources.map change = results := by
  have pairs := mapM_eq_ok.1 succeeded
  clear succeeded
  induction pairs with
  | nil => exact ⟨[], rfl, rfl⟩
  | cons pair others induction =>
      rcases each _ _ pair with ⟨source, done, rfl⟩
      rcases induction with ⟨sources, rest, rfl⟩
      exact
        ⟨source :: sources, mapM_eq_ok.2 (.cons done (mapM_eq_ok.1 rest)), rfl⟩

theorem map_eq_map_of_forall₂
    {related : Item → Second → Prop} {items : List Item}
    {results : List Second} {Seen : Type} {before : Item → Seen}
    {after : Second → Seen}
    (pairs : List.Forall₂ related items results)
    (same : ∀ item result, related item result → after result = before item) :
    results.map after = items.map before := by
  induction pairs with
  | nil => rfl
  | cons pair others induction =>
      rw [List.map_cons, List.map_cons, same _ _ pair, induction]

/-- What holds of the result of every step holds of all results. -/
theorem forall_of_mapM_eq_ok
    {step : Item → Except Fault Second} {items : List Item}
    {results : List Second} {property : Second → Prop}
    (succeeded : items.mapM step = .ok results)
    (each :
      ∀ item ∈ items, ∀ result, step item = .ok result → property result) :
    ∀ result ∈ results, property result :=
  forall_right_of_forall₂ (mapM_eq_ok.1 succeeded) each

end Sqlwright.Success
