import Sqlwright.Change
import Sqlwright.Proofs.Decoding
import Sqlwright.Proofs.Request

/-!
# Filters restrict what is written for them

A select or a delete has no `WHERE` when the body of its condition is empty, so
a filter that was written as nothing would reach every row.  This cannot
happen: whatever a filter demands of a column is at least one test, or it is
refused.  So the body of a filter has a clause for each of its columns, and
only a filter without columns has an empty body.
-/

namespace Sqlwright

open Sqlwright.Success

/-! ## The body of a filter -/

namespace Filter

/-- Every column of a filter is compared with something. -/
theorem exists_comparison
    {filter : Filter} {comparisons : List Comparison}
    (compared : filter.comparisons = .ok comparisons) :
    ∀ column ∈ filter.columns,
      ∃ comparison ∈ comparisons, comparison.column = column := by
  intro column member
  rcases List.mem_map.1 member with ⟨⟨name, condition⟩, listed, rfl⟩
  simp only [Filter.comparisons, bind_eq_ok, pure_eq_ok] at compared
  rcases compared with ⟨groups, written, rfl⟩
  rcases exists_of_mem_of_mapM_eq_ok written listed with
    ⟨group, inside, groupWritten⟩
  simp only [bind_eq_ok, pure_eq_ok] at groupWritten
  rcases groupWritten with ⟨tests, tested, rfl⟩
  rcases
      List.exists_mem_of_ne_nil tests (Condition.tests_eq_ok tested).2 with
    ⟨test, present⟩
  exact
    ⟨⟨name, test⟩, List.mem_flatten.2 ⟨_, inside, List.mem_map_of_mem present⟩,
      rfl⟩

/--
A text is the body of a filter: it is written from the clauses of comparisons,
at least one of each column, and shows something if there is a column.
-/
structure Restricts (options : Options) (filter : Filter)
    (body : Query) : Prop where
  written : filter.toWhere options = .ok body
  covers :
    ∃ comparisons : List Comparison,
      body =
          Clause.join
            (comparisons.map (Comparison.clause options.quoteStyle)) ∧
        ∀ column ∈ filter.columns,
          ∃ comparison ∈ comparisons, comparison.column = column
  visible : filter.isEmpty = false → body.sql.isEmpty = false

theorem restricts_of_toWhere
    {options : Options} {filter : Filter} {body : Query}
    (written : filter.toWhere options = .ok body) :
    filter.Restricts options body := by
  rcases toWhere_eq_ok written with ⟨comparisons, compared, same⟩
  have covers := exists_comparison compared
  refine ⟨written, ⟨comparisons, same, covers⟩, ?_⟩
  intro nonempty
  cases comparisons with
  | nil =>
      cases entries : filter.entries with
      | nil =>
          rw [Filter.isEmpty, entries] at nonempty
          cases nonempty
      | cons entry rest =>
          have first : entry.1 ∈ filter.columns := by
            rw [Filter.columns, entries]
            exact List.mem_cons_self
          rcases covers entry.1 first with ⟨comparison, member, -⟩
          cases member
  | cons first rest =>
      rw [same, ← Bool.not_eq_true, String.isEmpty_iff, ← String.toList_inj]
      exact Comparison.join_ne_empty options.quoteStyle first rest

end Filter

/-! ## Statements -/

theorem optionalPart_of_visible
    {keyword body : String} (visible : body.isEmpty = false) :
    optionalPart keyword body = keyword ++ body := by
  rw [optionalPart, visible]
  rfl

theorem restricts_of_update
    {dialect : Dialect} {table : String} {assignments : Assignments}
    {filter : Filter} {query : Query}
    (done : dialect.update table assignments filter = .ok query) :
    assignments.isEmpty = false ∧ filter.isEmpty = false ∧
      ∃ changes body, filter.Restricts dialect.options body ∧
        query.sql =
          "UPDATE " ++ table ++ " SET " ++ changes ++ " WHERE " ++
            body.sql := by
  simp only [Dialect.update, bind_eq_ok] at done
  rcases done with ⟨-, -, done⟩
  split at done
  · cases done
  · rename_i someSet
    split at done
    · cases done
    · rename_i someColumn
      simp only [bind_eq_ok, pure_eq_ok] at done
      rcases done with ⟨changes, -, body, written, rfl⟩
      exact
        ⟨Bool.eq_false_iff.2 someSet, Bool.eq_false_iff.2 someColumn, changes,
          body, Filter.restricts_of_toWhere written, rfl⟩

theorem restricts_of_delete
    {dialect : Dialect} {table : String} {filter : Filter} {query : Query}
    (nonempty : filter.isEmpty = false)
    (done : dialect.delete table filter = .ok query) :
    ∃ body, filter.Restricts dialect.options body ∧
      query.sql = "DELETE FROM " ++ table ++ " WHERE " ++ body.sql := by
  simp only [Dialect.delete, bind_eq_ok, pure_eq_ok] at done
  rcases done with ⟨-, -, body, written, rfl⟩
  have restricts := Filter.restricts_of_toWhere written
  refine ⟨body, restricts, ?_⟩
  rw [optionalPart_of_visible (restricts.visible nonempty)]
  simp only [String.append_assoc]

theorem restricts_of_select
    {dialect : Dialect} {selection : Selection} {query : Query}
    (nonempty : selection.filter.isEmpty = false)
    (done : dialect.select selection = .ok query) :
    ∃ head body order tail,
      selection.source.write dialect.options = .ok head ∧
        writeOrder dialect.options selection.order = .ok order ∧
          dialect.pageTail order selection.page = .ok tail ∧
            selection.filter.Restricts dialect.options body ∧
              query.sql =
                head ++ " WHERE " ++ body.sql ++
                  optionalPart " ORDER BY " order ++ tail := by
  simp only [Dialect.select, bind_eq_ok, pure_eq_ok] at done
  rcases done with
    ⟨head, headWritten, body, written, order, orderWritten, tail,
      tailWritten, rfl⟩
  have restricts := Filter.restricts_of_toWhere written
  refine
    ⟨head, body, order, tail, headWritten, orderWritten, tailWritten,
      restricts, ?_⟩
  rw [optionalPart_of_visible (restricts.visible nonempty)]
  simp only [String.append_assoc]

theorem restricts_of_selectFrom
    {dialect : Dialect} {sql : String} {filter : Filter} {query : Query}
    (nonempty : filter.isEmpty = false)
    (done : dialect.selectFrom sql filter = .ok query) :
    ∃ body, filter.Restricts dialect.options body ∧
      query.sql = sql ++ " WHERE " ++ body.sql := by
  have selected :
      dialect.select ⟨.query sql, filter, [], none⟩ = .ok query := done
  rcases restricts_of_select nonempty selected with
    ⟨head, body, order, tail, headWritten, orderWritten, tailWritten,
      restricts, same⟩
  refine ⟨body, restricts, ?_⟩
  simp only [Source.write] at headWritten
  split at headWritten
  · cases headWritten
  · cases headWritten
    cases orderWritten
    cases tailWritten
    simpa [optionalPart] using same

/--
A filter with columns never disappears.  What is written for it has a clause
for each of its columns; an update has such a condition behind its `WHERE` in
any case and is refused without one, or without columns to set; and a delete or
a select has one right behind its head if its filter has columns.
-/
theorem filter_restricts_statements (dialect : Dialect) :
    (∀ (filter : Filter) (body : Query),
        filter.toWhere dialect.options = .ok body →
          filter.Restricts dialect.options body) ∧
      (∀ (table : String) (assignments : Assignments) (filter : Filter)
        (query : Query),
        dialect.update table assignments filter = .ok query →
          assignments.isEmpty = false ∧ filter.isEmpty = false ∧
            ∃ changes body, filter.Restricts dialect.options body ∧
              query.sql =
                "UPDATE " ++ table ++ " SET " ++ changes ++ " WHERE " ++
                  body.sql) ∧
      (∀ (table : String) (filter : Filter) (query : Query),
        filter.isEmpty = false → dialect.delete table filter = .ok query →
          ∃ body, filter.Restricts dialect.options body ∧
            query.sql = "DELETE FROM " ++ table ++ " WHERE " ++ body.sql) ∧
      (∀ (selection : Selection) (query : Query),
        selection.filter.isEmpty = false →
          dialect.select selection = .ok query →
            ∃ head body tail,
              selection.source.write dialect.options = .ok head ∧
                selection.filter.Restricts dialect.options body ∧
                  query.sql = head ++ " WHERE " ++ body.sql ++ tail) ∧
      (∀ (sql : String) (filter : Filter) (query : Query),
        filter.isEmpty = false → dialect.selectFrom sql filter = .ok query →
          ∃ body, filter.Restricts dialect.options body ∧
            query.sql = sql ++ " WHERE " ++ body.sql) := by
  refine ⟨?_, ?_, ?_, ?_, ?_⟩
  · intro filter body written
    exact Filter.restricts_of_toWhere written
  · intro table assignments filter query done
    exact restricts_of_update done
  · intro table filter query nonempty done
    exact restricts_of_delete nonempty done
  · intro selection query nonempty done
    rcases restricts_of_select nonempty done with
      ⟨head, body, order, tail, headWritten, -, -, restricts, same⟩
    refine
      ⟨head, body, optionalPart " ORDER BY " order ++ tail, headWritten,
        restricts, ?_⟩
    rw [same]
    simp only [String.append_assoc]
  · intro sql filter query nonempty done
    exact restricts_of_selectFrom nonempty done

/-- Two patterns that a column must not match, and a list with a null. -/
def patternFilter : Filter :=
  (Filter.empty.compare "a" .notLike (.list [.text "x%", .text "y%"])).oneOf
    "b" [.null]

theorem filter_restricts_statements_patterns :
    patternFilter.isEmpty = false ∧
      (Dialect.ofBackend .mysql).delete "t" patternFilter =
        .ok ⟨"DELETE FROM t WHERE \x60a\x60 NOT LIKE ? AND " ++
            "\x60a\x60 NOT LIKE ? AND \x60b\x60 IN(?)",
          [.text "x%", .text "y%", .null]⟩ ∧
      ∃ body, patternFilter.Restricts Options.mysql body ∧
        "DELETE FROM t WHERE \x60a\x60 NOT LIKE ? AND " ++
            "\x60a\x60 NOT LIKE ? AND \x60b\x60 IN(?)" =
          "DELETE FROM " ++ "t" ++ " WHERE " ++ body.sql := by
  have nonempty : patternFilter.isEmpty = false := rfl
  have deleted :
      (Dialect.ofBackend .mysql).delete "t" patternFilter =
        .ok ⟨"DELETE FROM t WHERE \x60a\x60 NOT LIKE ? AND " ++
            "\x60a\x60 NOT LIKE ? AND \x60b\x60 IN(?)",
          [.text "x%", .text "y%", .null]⟩ := rfl
  have restricts :=
    (filter_restricts_statements (Dialect.ofBackend .mysql)).2.2.1 "t"
      patternFilter _ nonempty deleted
  exact ⟨nonempty, deleted, restricts⟩

end Sqlwright
