import Sqlwright.Proofs.DecimalText
import Sqlwright.Proofs.Planning
import Sqlwright.Proofs.Request
import Sqlwright.Proofs.Success

/-!
# How statements are woven

Every statement that a dialect writes is woven from texts of the caller and
from quoted names, with glue between any two of them.  Glue consists of
neutral characters only: keywords, punctuation, numbers and placeholders.
Since glue never touches a quoted region or a comment, a reader of statements
is understood once it is understood on names, on texts of the caller, and on
glue.

`Woven` keeps count of the placeholders in the glue.  The main theorem
`woven_of_write` says that there are as many of them as the query has values.
-/

namespace Sqlwright.Weaving

open Sqlwright.Insertion
open Sqlwright.Success

/-! ## Glue -/

/-- Characters that neither begin nor end a quotation or a comment. -/
def isNeutral (character : Char) : Bool :=
  character ∉ ['\'', '"', '\x60', '[', ']', '-', '/', '*']

/-- A text of neutral characters with some number of placeholders. -/
structure Neutral (text : String) (holes : Nat) : Prop where
  characters : text.toList.all isNeutral = true
  count_eq : text.toList.count '?' = holes

/--
A neutral text that separates what stands around it.  It does not begin with
the dot that would go on with a quoted name.
-/
structure Glue (text : String) (holes : Nat) : Prop
    extends Neutral text holes where
  nonempty : text.toList ≠ []
  undotted : text.toList.head? ≠ some '.'

instance (text : String) (holes : Nat) : Decidable (Glue text holes) :=
  decidable_of_iff
    (text.toList.all isNeutral = true ∧ text.toList.count '?' = holes ∧
      text.toList ≠ [] ∧ text.toList.head? ≠ some '.')
    ⟨fun parts => ⟨⟨parts.1, parts.2.1⟩, parts.2.2.1, parts.2.2.2⟩,
      fun glue =>
        ⟨glue.characters, glue.count_eq, glue.nonempty, glue.undotted⟩⟩

theorem Neutral.empty : Neutral "" 0 :=
  ⟨rfl, rfl⟩

theorem Neutral.append
    {front back : String} {before behind : Nat}
    (first : Neutral front before) (second : Neutral back behind) :
    Neutral (front ++ back) (before + behind) := by
  constructor
  · rw [String.toList_append, List.all_append, first.characters,
      second.characters]
    rfl
  · rw [String.toList_append, List.count_append, first.count_eq,
      second.count_eq]

/-- Equal neutral texts with commas between them. -/
theorem Neutral.intercalate_replicate
    {text : String} {holes : Nat} (neutral : Neutral text holes)
    (count : Nat) :
    Neutral (",".intercalate (List.replicate count text)) (count * holes) := by
  have comma : Neutral "," 0 := ⟨by decide, by decide⟩
  induction count with
  | zero => simpa using Neutral.empty
  | succ count induction =>
      cases count with
      | zero => simpa using neutral
      | succ count =>
          rw [List.replicate_succ, List.replicate_succ,
            String.intercalate_cons_cons, ← List.replicate_succ]
          have joined := (neutral.append comma).append induction
          have total :
              holes + 0 + (count + 1) * holes = (count + 1 + 1) * holes := by
            simp only [Nat.add_mul]
            omega
          exact total ▸ joined

theorem neutral_toString (number : Nat) : Neutral (toString number) 0 := by
  have digits := List.all_eq_true.1 (Text.digits_toDigits number).each
  rw [← Text.toList_toString] at digits
  constructor
  · rw [List.all_eq_true]
    intro character member
    have digit := digits character member
    apply decide_eq_true
    intro special
    simp only [List.mem_cons, List.not_mem_nil, or_false] at special
    rcases special with rfl | rfl | rfl | rfl | rfl | rfl | rfl | rfl <;>
      exact absurd digit (by decide)
  · apply List.count_eq_zero_of_not_mem
    intro member
    exact absurd (digits '?' member) (by decide)

theorem Glue.append
    {front back : String} {before behind : Nat}
    (first : Glue front before) (second : Neutral back behind) :
    Glue (front ++ back) (before + behind) := by
  refine ⟨first.toNeutral.append second, ?_, ?_⟩
  · rw [String.toList_append]
    exact List.append_ne_nil_of_left_ne_nil first.nonempty _
  · rw [String.toList_append, List.head?_append_of_ne_nil _ first.nonempty]
    exact first.undotted

/-! ## Woven texts -/

/--
A text of quoted names, of which `named` holds, and of texts of the caller, of
which `given` holds, with glue between them; the glue has some number of
placeholders.
-/
inductive Woven (style : QuoteStyle) (named given : String → Prop) :
    String → Nat → Prop where
  | empty : Woven style named given "" 0
  /-- The mark for all columns of a table. -/
  | star : Woven style named given "*" 0
  | source {text : String} : given text → Woven style named given text 0
  | name {identifier quoted : String} :
      named identifier → Identifier.quote style identifier = .ok quoted →
        Woven style named given quoted 0
  | weave {left between right : String} {before inside behind : Nat} :
      Woven style named given left before → Glue between inside →
        Woven style named given right behind →
          Woven style named given (left ++ between ++ right)
            (before + inside + behind)

namespace Woven

variable {style : QuoteStyle} {named given : String → Prop}

theorem glue {text : String} {holes : Nat} (glued : Glue text holes) :
    Woven style named given text holes := by
  have woven :
      Woven style named given ("" ++ text ++ "") (0 + holes + 0) :=
    .weave .empty glued .empty
  simpa using woven

theorem behind
    {front text : String} {inside holes : Nat}
    (glued : Glue front inside) (woven : Woven style named given text holes) :
    Woven style named given (front ++ text) (inside + holes) := by
  simpa using weave .empty glued woven

theorem before
    {text back : String} {holes inside : Nat}
    (woven : Woven style named given text holes) (glued : Glue back inside) :
    Woven style named given (text ++ back) (holes + inside) := by
  simpa using weave woven glued .empty

/-- Woven items with glue between any two of them. -/
theorem intercalate
    {Item : Type} {separator : String} (glued : Glue separator 0)
    (text : Item → String) (holes : Item → Nat) (items : List Item)
    (each : ∀ item ∈ items, Woven style named given (text item) (holes item)) :
    Woven style named given (separator.intercalate (items.map text))
      (items.map holes).sum := by
  induction items with
  | nil => simpa using empty
  | cons item rest induction =>
      simp only [List.forall_mem_cons] at each
      cases rest with
      | nil => simpa using each.1
      | cons next rest =>
          rw [List.map_cons, List.map_cons, String.intercalate_cons_cons,
            ← List.map_cons, List.map_cons (f := holes), List.sum_cons]
          simpa using weave each.1 glued (induction each.2)

/-- Items without placeholders, with glue between any two of them. -/
theorem intercalate_names
    {separator : String} (glued : Glue separator 0) {items : List String}
    (each : ∀ item ∈ items, Woven style named given item 0) :
    Woven style named given (separator.intercalate items) 0 := by
  simpa using intercalate glued id (fun _ => 0) items each

/-- Without text there is no glue, and so no placeholder. -/
theorem holes_eq_zero
    {text : String} {holes : Nat}
    (woven : Woven style named given text holes) (blank : text = "") :
    holes = 0 := by
  cases woven with
  | empty | star | source _ | name _ _ => rfl
  | weave left glued right =>
      have nothing := congrArg String.toList blank
      simp only [String.toList_append, String.toList_empty,
        List.append_eq_nil_iff] at nothing
      exact absurd nothing.1.2 glued.nonempty

/-- A part that is left out, with its keyword, when its body is empty. -/
theorem optional
    {front keyword body : String} {before inside : Nat}
    (woven : Woven style named given front before) (glued : Glue keyword 0)
    (part : Woven style named given body inside) :
    Woven style named given (front ++ optionalPart keyword body)
      (before + inside) := by
  unfold optionalPart
  split
  · rename_i nothing
    rw [String.isEmpty_iff] at nothing
    rw [part.holes_eq_zero nothing]
    simpa using woven
  · rw [← String.append_assoc]
    simpa using weave woven glued part

end Woven

/-! ## Filters -/

section Statements

variable {options : Options} {named given : String → Prop}

theorem quoteColumn_eq_ok_iff {column quoted : String} :
    options.quoteColumn column = .ok quoted ↔
      options.allows column = true ∧
        Identifier.quote options.quoteStyle column = .ok quoted := by
  simp only [Options.quoteColumn, Options.validateColumn, bind_eq_ok]
  by_cases allowed : options.allows column = true
  · simp [allowed]
  · simp [allowed]

theorem woven_of_quoteColumn
    {column quoted : String} (isNamed : named column)
    (done : options.quoteColumn column = .ok quoted) :
    Woven options.quoteStyle named given quoted 0 :=
  .name isNamed (quoteColumn_eq_ok_iff.1 done).2

theorem woven_of_quoteColumns
    {columns quoted : List String} (areNamed : ∀ column ∈ columns, named column)
    (done : options.quoteColumns columns = .ok quoted) :
    ∀ item ∈ quoted, Woven options.quoteStyle named given item 0 :=
  forall_of_mapM_eq_ok done fun column member _ quotedColumn =>
    woven_of_quoteColumn (areNamed column member) quotedColumn

/-- Behind its column a test is glue with a placeholder for each value. -/
theorem glue_of_test (test : Test) : Glue test.sql test.params.length := by
  have mark : Neutral "?" 1 := ⟨by decide, by decide⟩
  have close : Neutral ")" 0 := ⟨by decide, by decide⟩
  cases test with
  | compare operator value =>
      have glued : Glue (" " ++ operator.sql ++ " ?") 1 := by
        cases operator <;> decide
      exact glued
  | isNull | isNotNull => exact by decide
  | isIn values =>
      have opened : Glue " IN(" 0 := by decide
      simpa [Test.sql, Test.params, Test.placeholders] using
        (opened.append (mark.intercalate_replicate values.length)).append close
  | isNotIn values =>
      have opened : Glue " NOT IN(" 0 := by decide
      simpa [Test.sql, Test.params, Test.placeholders] using
        (opened.append (mark.intercalate_replicate values.length)).append close

theorem woven_of_entryClauses
    {column : String} {condition : Condition} {clauses : List Clause}
    (isNamed : named column)
    (done : Filter.entryClauses options column condition = .ok clauses) :
    ∀ clause ∈ clauses,
      Woven options.quoteStyle named given clause.sql clause.params.length := by
  simp only [Filter.entryClauses, bind_eq_ok, pure_eq_ok] at done
  rcases done with ⟨quoted, quotedColumn, tests, -, rfl⟩
  intro clause member
  rcases List.mem_map.1 member with ⟨test, -, rfl⟩
  simpa [Test.clause] using
    (woven_of_quoteColumn isNamed quotedColumn).before (glue_of_test test)

/-- The body of a `WHERE` has as many placeholders as it has values. -/
theorem woven_of_toWhere
    {filter : Filter} {query : Query}
    (areNamed : ∀ column ∈ filter.columns, named column)
    (done : filter.toWhere options = .ok query) :
    Woven options.quoteStyle named given query.sql query.params.length := by
  simp only [Filter.toWhere, Filter.clauses, bind_eq_ok, pure_eq_ok] at done
  rcases done with ⟨clauses, ⟨groups, written, rfl⟩, rfl⟩
  have each :
      ∀ clause ∈ groups.flatten,
        Woven options.quoteStyle named given clause.sql
          clause.params.length := by
    intro clause member
    rcases List.mem_flatten.1 member with ⟨group, inside, member⟩
    have groupWoven :
        ∀ group ∈ groups, ∀ clause ∈ group,
          Woven options.quoteStyle named given clause.sql
            clause.params.length :=
      forall_of_mapM_eq_ok written fun entry listed _ entryWritten =>
        woven_of_entryClauses
          (areNamed entry.1 (List.mem_map_of_mem listed)) entryWritten
    exact groupWoven group inside clause member
  have glued : Glue " AND " 0 := by decide
  simpa [Clause.join, List.length_flatMap] using
    Woven.intercalate glued Clause.sql (fun clause => clause.params.length)
      groups.flatten each

/-! ## Selects, updates and deletes -/

theorem woven_of_sortItem
    {item : SortItem} {written : String} (isNamed : named item.column)
    (done : item.write options = .ok written) :
    Woven options.quoteStyle named given written 0 := by
  simp only [SortItem.write, bind_eq_ok] at done
  rcases done with ⟨-, -, done⟩
  split at done
  · cases done
  · rename_i keyword known
    simp only [bind_eq_ok, pure_eq_ok] at done
    rcases done with ⟨quoted, quotedColumn, rfl⟩
    have glued : Glue (" " ++ keyword) 0 := by
      simp only [SortItem.keyword?] at known
      split at known
      · cases known
        decide
      · split at known
        · cases known
          decide
        · cases known
    rw [String.append_assoc]
    exact (Woven.name isNamed quotedColumn).before glued

theorem woven_of_writeOrder
    {items : List SortItem} {order : String}
    (areNamed : ∀ item ∈ items, named item.column)
    (done : writeOrder options items = .ok order) :
    Woven options.quoteStyle named given order 0 := by
  simp only [writeOrder, bind_eq_ok, pure_eq_ok] at done
  rcases done with ⟨written, each, rfl⟩
  have glued : Glue ", " 0 := by decide
  exact Woven.intercalate_names glued
    (forall_of_mapM_eq_ok each fun item member _ itemWritten =>
      woven_of_sortItem (areNamed item member) itemWritten)

theorem woven_of_source
    {source : Source} {head : String} (isGiven : given source.text)
    (areNamed : ∀ column ∈ source.columns, named column)
    (done : source.write options = .ok head) :
    Woven options.quoteStyle named given head 0 := by
  cases source with
  | table name columns =>
      simp only [Source.write, bind_eq_ok] at done
      rcases done with ⟨-, -, done⟩
      have select : Glue "SELECT " 0 := by decide
      have separate : Glue ", " 0 := by decide
      have origin : Glue " FROM " 0 := by decide
      split at done
      · cases done
        exact (Woven.star.behind select).weave origin (.source isGiven)
      · simp only [bind_eq_ok, pure_eq_ok] at done
        rcases done with ⟨quoted, quotedColumns, rfl⟩
        have columnsWoven :
            Woven options.quoteStyle named given (", ".intercalate quoted) 0 :=
          .intercalate_names separate
            (woven_of_quoteColumns areNamed quotedColumns)
        exact (columnsWoven.behind select).weave origin (.source isGiven)
  | query sql =>
      simp only [Source.write] at done
      split at done
      · cases done
      · cases done
        exact .source isGiven

theorem glue_of_pageTail
    {dialect : Dialect} {order : String} {page : Option Page} {tail : String}
    (done : dialect.pageTail order page = .ok tail) :
    tail = "" ∨ Glue tail 0 := by
  cases page with
  | none =>
      cases done
      exact .inl rfl
  | some page =>
      simp only [Dialect.pageTail] at done
      split at done
      · cases done
      · cases done
        refine .inr ?_
        have space : Glue " " 0 := by decide
        have limit := neutral_toString page.limit
        have offset := neutral_toString page.offset
        unfold Dialect.paginate
        split
        · have word : Neutral "OFFSET " 0 := ⟨by decide, by decide⟩
          have rows : Neutral " ROWS FETCH NEXT " 0 := ⟨by decide, by decide⟩
          have only : Neutral " ROWS ONLY" 0 := ⟨by decide, by decide⟩
          exact space.append
            ((((word.append offset).append rows).append limit).append only)
        · have word : Neutral "LIMIT " 0 := ⟨by decide, by decide⟩
          have skip : Neutral " OFFSET " 0 := ⟨by decide, by decide⟩
          exact space.append
            (((word.append limit).append skip).append offset)

theorem woven_of_select
    {dialect : Dialect} {selection : Selection} {query : Query}
    (isGiven : given selection.source.text)
    (areNamed :
      ∀ column ∈ selection.source.columns ++ selection.filter.columns ++
        selection.order.map SortItem.column, named column)
    (done : dialect.select selection = .ok query) :
    Woven dialect.options.quoteStyle named given query.sql
      query.params.length := by
  simp only [List.forall_mem_append, List.forall_mem_map] at areNamed
  simp only [Dialect.select, bind_eq_ok, pure_eq_ok] at done
  rcases done with
    ⟨head, headWritten, condition, conditionWritten, order, orderWritten, page,
     pageWritten, rfl⟩
  have headWoven := woven_of_source isGiven areNamed.1.1 headWritten
  have conditionWoven :
      Woven dialect.options.quoteStyle named given condition.sql
        condition.params.length :=
    woven_of_toWhere areNamed.1.2 conditionWritten
  have orderWoven : Woven dialect.options.quoteStyle named given order 0 :=
    woven_of_writeOrder areNamed.2 orderWritten
  have whereGlue : Glue " WHERE " 0 := by decide
  have orderGlue : Glue " ORDER BY " 0 := by decide
  have woven :=
    (headWoven.optional whereGlue conditionWoven).optional orderGlue orderWoven
  rcases glue_of_pageTail pageWritten with rfl | pageGlue
  · simpa using woven
  · simpa using woven.before pageGlue

theorem woven_of_writeAssignments
    {assignments : Assignments} {changes : String}
    (areNamed : ∀ entry ∈ assignments, named entry.1)
    (done : writeAssignments options assignments = .ok changes) :
    Woven options.quoteStyle named given changes assignments.length := by
  simp only [writeAssignments, bind_eq_ok, pure_eq_ok] at done
  rcases done with ⟨parts, each, rfl⟩
  have partsWoven :
      ∀ part ∈ parts, Woven options.quoteStyle named given part 1 := by
    refine forall_of_mapM_eq_ok each ?_
    intro entry member part written
    simp only [writeAssignment, bind_eq_ok, pure_eq_ok] at written
    rcases written with ⟨quoted, quotedColumn, rfl⟩
    have mark : Glue " = ?" 1 := by decide
    simpa using
      (woven_of_quoteColumn (areNamed entry member) quotedColumn).before mark
  have separate : Glue ", " 0 := by decide
  have width : parts.length = assignments.length :=
    (mapM_eq_ok.1 each).length_eq.symm
  simpa [width] using
    Woven.intercalate separate id (fun _ => 1) parts partsWoven

theorem woven_of_update
    {dialect : Dialect} {table : String} {assignments : Assignments}
    {filter : Filter} {query : Query} (isGiven : given table)
    (areNamed :
      ∀ column ∈ assignments.map Prod.fst ++ filter.columns, named column)
    (done : dialect.update table assignments filter = .ok query) :
    Woven dialect.options.quoteStyle named given query.sql
      query.params.length := by
  simp only [List.forall_mem_append, List.forall_mem_map] at areNamed
  simp only [Dialect.update, bind_eq_ok] at done
  rcases done with ⟨-, -, done⟩
  split at done
  · cases done
  · split at done
    · cases done
    · simp only [bind_eq_ok, pure_eq_ok] at done
      rcases done with
        ⟨changes, changesWritten, condition, conditionWritten, rfl⟩
      have conditionWoven :
          Woven dialect.options.quoteStyle named given condition.sql
            condition.params.length :=
        woven_of_toWhere areNamed.2 conditionWritten
      have changesWoven :
          Woven dialect.options.quoteStyle named given changes
            assignments.length :=
        woven_of_writeAssignments areNamed.1 changesWritten
      have update : Glue "UPDATE " 0 := by decide
      have set : Glue " SET " 0 := by decide
      have whereGlue : Glue " WHERE " 0 := by decide
      have woven :=
        (((Woven.source isGiven).behind update).weave set
          changesWoven).weave whereGlue conditionWoven
      simpa using woven

theorem woven_of_delete
    {dialect : Dialect} {table : String} {filter : Filter} {query : Query}
    (isGiven : given table)
    (areNamed : ∀ column ∈ filter.columns, named column)
    (done : dialect.delete table filter = .ok query) :
    Woven dialect.options.quoteStyle named given query.sql
      query.params.length := by
  simp only [Dialect.delete, bind_eq_ok, pure_eq_ok] at done
  rcases done with ⟨-, -, condition, conditionWritten, rfl⟩
  have delete : Glue "DELETE FROM " 0 := by decide
  have whereGlue : Glue " WHERE " 0 := by decide
  have woven :=
    ((Woven.source isGiven).behind delete).optional whereGlue
      (woven_of_toWhere areNamed conditionWritten)
  simpa using woven

/-! ## Insertions -/

theorem woven_of_insertHead
    {table : String} {quoted : List String} (isGiven : given table)
    (each : ∀ item ∈ quoted, Woven options.quoteStyle named given item 0) :
    Woven options.quoteStyle named given (insertHead table quoted) 0 := by
  have insert : Glue "INSERT INTO " 0 := by decide
  have opened : Glue " (" 0 := by decide
  have close : Glue ")" 0 := by decide
  have separate : Glue ", " 0 := by decide
  exact (((Woven.source isGiven).behind insert).weave opened
    (Woven.intercalate_names separate each)).before close

/-- The values of a batch are glue with a placeholder for each of them. -/
theorem glue_of_values (columns rows : Nat) :
    Glue ("VALUES " ++ placeholders columns rows) (rows * columns) := by
  have mark : Neutral "?" 1 := ⟨by decide, by decide⟩
  have opened : Neutral "(" 0 := ⟨by decide, by decide⟩
  have close : Neutral ")" 0 := ⟨by decide, by decide⟩
  have word : Glue "VALUES " 0 := by decide
  have row : Neutral (rowPlaceholders columns) columns := by
    simpa [rowPlaceholders] using
      (opened.append (mark.intercalate_replicate columns)).append close
  simpa [placeholders] using word.append (row.intercalate_replicate rows)

/-- An insertion whose ids are put into a table variable. -/
theorem woven_of_output
    {head values id column : String} {holes : Nat}
    (headWoven : Woven options.quoteStyle named given head 0)
    (valuesGlue : Glue values holes) (isNamed : named column)
    (quotedId : Identifier.quote options.quoteStyle column = .ok id) :
    Woven options.quoteStyle named given
      ("DECLARE @ids TABLE(RowID int); " ++ head ++ " OUTPUT inserted." ++ id ++
        " INTO @ids(RowID) " ++ values)
      holes := by
  have idWoven : Woven options.quoteStyle named given id 0 :=
    .name isNamed quotedId
  have declare : Glue "DECLARE @ids TABLE(RowID int); " 0 := by decide
  have output : Glue " OUTPUT inserted." 0 := by decide
  have into : Glue " INTO @ids(RowID) " 0 := by decide
  have inserted := (headWoven.behind declare).weave output idWoven
  have woven := inserted.weave into (.glue valuesGlue)
  simp only [Nat.add_zero, Nat.zero_add] at woven
  exact woven

theorem woven_of_insertText
    {head values id : String} {holes : Nat} {retrieval : IdRetrieval}
    (headWoven : Woven options.quoteStyle named given head 0)
    (valuesGlue : Glue values holes)
    (areNamed : ∀ column ∈ retrieval.columns, named column)
    (quotedId :
      ∀ column ∈ retrieval.columns,
        Identifier.quote options.quoteStyle column = .ok id) :
    Woven options.quoteStyle named given (insertText head values id retrieval)
      holes := by
  have space : Glue " " 0 := by decide
  have valuesWoven : Woven options.quoteStyle named given values holes :=
    .glue valuesGlue
  cases retrieval with
  | none | firstStride stride | lastStride stride =>
      have woven := headWoven.weave space valuesWoven
      rw [Nat.add_zero, Nat.zero_add] at woven
      exact woven
  | outputTable column =>
      simp only [IdRetrieval.columns, List.mem_singleton, forall_eq]
        at areNamed quotedId
      have select : Glue "; SELECT " 0 := by decide
      have source : Glue " FROM @ids;" 0 := by decide
      have read :
          "; SELECT " ++ ("*" ++ " FROM @ids;") = "; SELECT * FROM @ids;" := rfl
      have output := woven_of_output headWoven valuesGlue areNamed quotedId
      have woven := output.weave select (Woven.star.before source)
      rw [String.append_assoc, read] at woven
      simp only [Nat.add_zero] at woven
      exact woven
  | returning column =>
      simp only [IdRetrieval.columns, List.mem_singleton, forall_eq]
        at areNamed quotedId
      have idWoven : Woven options.quoteStyle named given id 0 :=
        .name areNamed quotedId
      have answer : Glue " RETURNING " 0 := by decide
      have woven := (headWoven.weave space valuesWoven).weave answer idWoven
      simp only [Nat.add_zero, Nat.zero_add] at woven
      exact woven

theorem woven_of_writeBatch
    {table : String} {quoted : List String} {retrieval : IdRetrieval}
    {rows : List (List Value)} {batch : Batch} (isGiven : given table)
    (areNamed : ∀ column ∈ retrieval.columns, named column)
    (each : ∀ item ∈ quoted, Woven options.quoteStyle named given item 0)
    (width : ∀ values ∈ rows, values.length = quoted.length)
    (done :
      writeBatch options.quoteStyle table quoted retrieval rows = .ok batch) :
    Woven options.quoteStyle named given batch.query.sql
      batch.query.params.length := by
  rcases writeInsert_eq_ok_iff.1 (writeBatch_eq_ok_iff.1 done).1 with
    ⟨id, quotedId, same⟩
  rw [same, length_flatten_of_forall width]
  exact woven_of_insertText (woven_of_insertHead isGiven each)
    (glue_of_values quoted.length rows.length) areNamed quotedId

theorem woven_of_planInsert
    {dialect : Dialect} {table : String} {rows : List Assignments}
    {plan : InsertPlan} (isGiven : given table)
    (areNamed :
      ∀ column ∈ (rows.head?.getD []).map Prod.fst ++ dialect.idColumns,
        named column)
    (done : dialect.planInsert table rows = .ok plan) :
    ∀ batch ∈ plan.batches,
      Woven dialect.options.quoteStyle named given batch.query.sql
        batch.query.params.length := by
  cases rows with
  | nil =>
      cases done
      simp
  | cons first rest =>
      rcases planInsert_eq_ok_iff.1 done with ⟨steps, rfl⟩
      have idColumns : dialect.idColumns = steps.retrieval.columns := by
        simp [Dialect.idColumns, steps.retrieval_found]
      simp only [List.forall_mem_append, idColumns, List.head?_cons,
        Option.getD_some] at areNamed
      have columnsWoven :
          ∀ item ∈ steps.quoted,
            Woven dialect.options.quoteStyle named given item 0 :=
        woven_of_quoteColumns areNamed.1 steps.columns_quoted
      have columnCount : steps.quoted.length = first.length := by
        have each := mapM_eq_ok.1 steps.columns_quoted
        simpa using each.length_eq.symm
      refine forall_of_mapM_eq_ok steps.batches_written ?_
      intro group member batch written
      have width := steps.width_of_mem_partition member
      rw [← columnCount] at width
      exact woven_of_writeBatch isGiven areNamed.2 columnsWoven width written

/-- Every statement is woven, with as many placeholders as it has values. -/
theorem woven_of_write
    {dialect : Dialect} {request : Request} {queries : List Query}
    (isGiven : ∀ text ∈ request.sources, given text)
    (areNamed : ∀ name ∈ request.names dialect, named name)
    (done : request.write dialect = .ok queries) :
    ∀ query ∈ queries,
      Woven dialect.options.quoteStyle named given query.sql
        query.params.length := by
  cases request with
  | condition filter =>
      rcases map_eq_ok.1 done with ⟨query, written, rfl⟩
      rw [List.forall_mem_singleton]
      exact woven_of_toWhere areNamed written
  | select selection =>
      rcases map_eq_ok.1 done with ⟨query, written, rfl⟩
      simp only [Request.sources, List.mem_singleton, forall_eq] at isGiven
      rw [List.forall_mem_singleton]
      exact woven_of_select isGiven areNamed written
  | selectFrom sql filter =>
      rcases map_eq_ok.1 done with ⟨query, written, rfl⟩
      simp only [Request.sources, List.mem_singleton, forall_eq] at isGiven
      rw [List.forall_mem_singleton]
      have selected :
          dialect.select ⟨.query sql, filter, [], none⟩ = .ok query := written
      refine woven_of_select ?_ ?_ selected
      · exact isGiven
      · simpa [Source.columns, Request.names] using areNamed
  | update table assignments filter =>
      rcases map_eq_ok.1 done with ⟨query, written, rfl⟩
      simp only [Request.sources, List.mem_singleton, forall_eq] at isGiven
      rw [List.forall_mem_singleton]
      exact woven_of_update isGiven areNamed written
  | delete table filter =>
      rcases map_eq_ok.1 done with ⟨query, written, rfl⟩
      simp only [Request.sources, List.mem_singleton, forall_eq] at isGiven
      rw [List.forall_mem_singleton]
      exact woven_of_delete isGiven areNamed written
  | insert table rows =>
      rcases map_eq_ok.1 done with ⟨plan, written, rfl⟩
      simp only [Request.sources, List.mem_singleton, forall_eq] at isGiven
      rw [List.forall_mem_map]
      exact woven_of_planInsert isGiven areNamed written

end Statements

end Sqlwright.Weaving
