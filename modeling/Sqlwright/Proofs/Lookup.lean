import Mathlib.Data.List.Basic

/-!
# Lookups by name

Filters, rows to insert and rows read as maps are lists of entries, each a name
with its content.  These are the facts about looking a name up in such a list
that they have in common.
-/

namespace Sqlwright

variable {Content : Type}

theorem lookup_cons_eq_ite
    (entries : List (String × Content)) (name : String)
    (entry : String × Content) :
    (entry :: entries).lookup name =
      if name = entry.1 then some entry.2 else entries.lookup name := by
  by_cases found : name = entry.1
  · rw [List.lookup_cons, found, beq_self_eq_true, if_pos rfl]
  · rw [List.lookup_cons, beq_false_of_ne found, if_neg found]

theorem mem_of_lookup_eq_some
    {entries : List (String × Content)} {name : String} {content : Content}
    (found : entries.lookup name = some content) :
    (name, content) ∈ entries := by
  rcases List.lookup_eq_some_iff.1 found with ⟨front, back, rfl, _⟩
  exact List.mem_append_right front List.mem_cons_self

/-- Under distinct names every entry is found. -/
theorem lookup_eq_some_of_mem
    {entries : List (String × Content)}
    (distinct : (entries.map Prod.fst).Nodup)
    {name : String} {content : Content} (member : (name, content) ∈ entries) :
    entries.lookup name = some content := by
  induction entries with
  | nil => cases member
  | cons entry rest step =>
      rw [List.map_cons, List.nodup_cons] at distinct
      rw [lookup_cons_eq_ite]
      rcases List.mem_cons.1 member with rfl | inside
      · exact if_pos rfl
      · have other : name ≠ entry.1 := by
          rintro rfl
          exact distinct.1 (List.mem_map.2 ⟨_, inside, rfl⟩)
        rw [if_neg other]
        exact step distinct.2 inside

theorem lookup_eq_none_of_not_mem
    {entries : List (String × Content)} {name : String}
    (unlisted : name ∉ entries.map Prod.fst) :
    entries.lookup name = none := by
  rw [List.lookup_eq_none_iff]
  intro entry listed
  have other : name ≠ entry.1 := by
    rintro rfl
    exact unlisted (List.mem_map_of_mem listed)
  exact bne_iff_ne.2 other

/-- Entries under other names make no difference. -/
theorem lookup_filter
    {kept : String → Bool} (entries : List (String × Content))
    {name : String} (isKept : kept name = true) :
    (entries.filter fun entry => kept entry.1).lookup name =
      entries.lookup name := by
  induction entries with
  | nil => rfl
  | cons entry rest step =>
      by_cases entryKept : kept entry.1 = true
      · simp only [List.filter_cons, entryKept, if_true, lookup_cons_eq_ite,
          step]
      · have other : name ≠ entry.1 :=
          fun same => entryKept (same ▸ isKept)
        simp only [List.filter_cons, entryKept, Bool.false_eq_true, if_false,
          lookup_cons_eq_ite, other, step]

end Sqlwright
