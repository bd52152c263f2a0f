import Mathlib.Data.List.TakeWhile
import Sqlwright.Proofs.Decoding
import Sqlwright.Proofs.Request
import Sqlwright.Proofs.Wording

/-!
# Statements take the right way through a driver

A driver knows a statement by its words only.  The words of what a dialect
writes are its keywords, so a driver sees the verb that the statement begins
with, and no `OUTPUT` unless an insertion asks for its ids.

Selects begin with their verb, and an insertion that puts its ids into a table
variable ends with a select behind a semicolon.  Updates, deletes and the other
insertions are one statement each, in which only `glueWords` follow the verb.
Nothing is asked of the names of columns; the name of the table has to be a
quoted one, since it is written as it is given.
-/

namespace Sqlwright

open Sqlwright.Insertion (insertHead insertText rowPlaceholders
  writeBatch_eq_ok_iff writeInsert_eq_ok_iff)
open Sqlwright.Lexical
open Sqlwright.Success
open Sqlwright.Weaving

/-! ## Verdicts on a verb -/

/-- The keywords behind the verb of an update, a delete or a plain insertion. -/
def glueWords : List String :=
  ["AND", "FROM", "IN", "INTO", "IS", "LIKE", "NOT", "NULL", "RETURNING",
    "SET", "VALUES", "WHERE"]

/-- A statement behind whose verb there are keywords of the glue only. -/
def Opens (verb sql : String) : Prop :=
  ∃ text, sql = verb ++ " " ++ text ∧ Spoken glueWords (" " ++ text)

theorem Opens.weave
    {verb left between right : String} (opens : Opens verb left)
    (phrase : Phrase glueWords between) (spoken : Spoken glueWords right) :
    Opens verb (left ++ between ++ right) := by
  rcases opens with ⟨text, rfl, read⟩
  refine ⟨text ++ between ++ right, ?_, ?_⟩
  · simp only [String.append_assoc]
  · have woven := read.weave phrase spoken
    simpa only [String.append_assoc] using woven

theorem Opens.before
    {verb sql back : String} (opens : Opens verb sql)
    (phrase : Phrase glueWords back) :
    Opens verb (sql ++ back) := by
  simpa using opens.weave phrase Spoken.empty

/-- A part that is left out, with its keyword, when its body is empty. -/
theorem Opens.optional
    {verb front keyword body : String} (opens : Opens verb front)
    (phrase : Phrase glueWords keyword) (part : Spoken glueWords body) :
    Opens verb (front ++ optionalPart keyword body) := by
  unfold optionalPart
  split
  · simpa using opens
  · rw [← String.append_assoc]
    exact opens.weave phrase part

theorem insertsRows_of_keyword
    {keyword : String} (nonempty : keyword.toList ≠ [])
    (inWord : keyword.toList.all isWordChar = true)
    (upper : Text.upper keyword = keyword) (notWith : keyword ≠ "WITH")
    (text : String) :
    insertsRows (keyword ++ " " ++ text) =
      (keyword == "INSERT" || keyword == "REPLACE") := by
  rcases statementWords_of_keyword nonempty inWord text with
    ⟨words, statements, read⟩
  rw [insertsRows, read, upper]
  simp [mainVerb?, notWith]

theorem outputsToClient_of_absent
    {words : List Word} (absent : ∀ word ∈ words, word.text ≠ "OUTPUT") :
    outputsToClient words = false := by
  have passed : words.dropWhile (fun word => word.text != "OUTPUT") = [] := by
    rw [List.dropWhile_eq_nil_iff]
    intro word member
    exact bne_iff_ne.2 (absent word member)
  rw [outputsToClient, passed]

/-- A change without an `OUTPUT` is not answered, and only inserts add rows. -/
theorem verdicts_of_opens
    {verb sql : String} (changing : verb ∈ changingVerbs)
    (opens : Opens verb sql) :
    returnsRows sql = false ∧ insertsRows sql = (verb == "INSERT") := by
  have verbs :
      ∀ verb ∈ changingVerbs,
        verb.toList ≠ [] ∧ verb.toList.all isWordChar = true ∧
          Text.upper verb = verb ∧ verb ≠ "WITH" ∧ verb ≠ "OUTPUT" ∧
            verb ≠ "REPLACE" ∧ verb ∉ answeringVerbs := by
    decide
  rcases verbs verb changing with
    ⟨nonempty, inWord, upper, notWith, notOutput, notReplace, unanswered⟩
  rcases opens with ⟨text, rfl, spoken⟩
  constructor
  · rcases statementWords_of_spoken nonempty inWord spoken with
      ⟨words, read, inVocabulary⟩
    have silent : outputsToClient (⟨verb, 0⟩ :: words) = false := by
      apply outputsToClient_of_absent
      rw [List.forall_mem_cons]
      refine ⟨notOutput, ?_⟩
      intro word member output
      have known := inVocabulary word member
      rw [output] at known
      exact absurd known (by decide)
    rw [upper] at read
    rw [String.append_assoc, returnsRows, read]
    simp [answersRows, mainVerb?, notWith, silent, unanswered]
  · rw [insertsRows_of_keyword nonempty inWord upper notWith,
      beq_false_of_ne notReplace, Bool.or_false]

theorem verdicts_of_select (text : String) :
    returnsRows ("SELECT" ++ " " ++ text) = true ∧
      insertsRows ("SELECT" ++ " " ++ text) = false := by
  have nonempty : "SELECT".toList ≠ [] := by decide
  have inWord : "SELECT".toList.all isWordChar = true := by decide
  constructor
  · rcases statementWords_of_keyword nonempty inWord text with
      ⟨words, statements, read⟩
    rw [returnsRows, read, List.any_cons]
    rfl
  · rw [insertsRows_of_keyword nonempty inWord (by decide) (by decide)]
    rfl

/-- A select that a semicolon parts from a settled front is answered. -/
theorem returnsRows_of_select_behind
    {front : String} (plain : (Mode.plain.after front.toList).isPlain = true) :
    returnsRows (front ++ "; SELECT * FROM @ids;") = true := by
  have cut :
      front ++ "; SELECT * FROM @ids;" =
        front ++ ";" ++ " SELECT * FROM @ids;" := by
    rw [String.append_assoc]
    rfl
  have answered :
      (statementWords " SELECT * FROM @ids;").any answersRows = true := by
    decide
  rw [cut, returnsRows, statementWords_append plain, List.any_append,
    answered, Bool.or_true]

/-! ## Conditions and assignments -/

theorem worded_placeholders (count : Nat) :
    Worded glueWords (Test.placeholders count).toList := by
  have mark : Worded glueWords "?".toList := by decide
  exact mark.intercalate_replicate count

/-- Behind its column a test has only keywords of conditions. -/
theorem phrase_of_test (test : Test) : Phrase glueWords test.sql := by
  apply phrase_of_glue (glue_of_test test)
  have close : Worded glueWords ")".toList := by decide
  cases test with
  | compare operator value =>
      have listed :
          Worded glueWords (" " ++ operator.sql ++ " ?").toList := by
        cases operator <;> decide
      exact listed
  | isNull | isNotNull => exact by decide
  | isIn values =>
      have opened : Worded glueWords " IN(".toList := by decide
      simpa [Test.sql] using
        (opened.append (worded_placeholders values.length)).append close
  | isNotIn values =>
      have opened : Worded glueWords " NOT IN(".toList := by decide
      simpa [Test.sql] using
        (opened.append (worded_placeholders values.length)).append close

theorem spoken_of_toWhere
    {options : Options} {filter : Filter} {query : Query}
    (done : filter.toWhere options = .ok query) :
    Spoken glueWords query.sql := by
  rcases Filter.toWhere_eq_ok done with ⟨comparisons, -, rfl⟩
  have both : Phrase glueWords " AND " := by decide
  apply Spoken.intercalate both
  rw [List.map_map, List.forall_mem_map]
  intro comparison _
  exact
    (Spoken.of_quoteAll options.quoteStyle comparison.column).before
      (phrase_of_test comparison.test)

theorem spoken_of_quoteColumns
    {options : Options} {columns quoted : List String}
    (done : options.quoteColumns columns = .ok quoted) :
    Spoken glueWords (", ".intercalate quoted) := by
  have separate : Phrase glueWords ", " := by decide
  exact
    Spoken.intercalate separate
      (forall_of_mapM_eq_ok done fun _ _ _ quotedColumn =>
        .of_quote (quoteColumn_eq_ok_iff.1 quotedColumn).2)

theorem spoken_of_writeAssignments
    {options : Options} {assignments : Assignments} {changes : String}
    (done : writeAssignments options assignments = .ok changes) :
    Spoken glueWords changes := by
  simp only [writeAssignments, bind_eq_ok, pure_eq_ok] at done
  rcases done with ⟨parts, each, rfl⟩
  have separate : Phrase glueWords ", " := by decide
  have mark : Phrase glueWords " = ?" := by decide
  apply Spoken.intercalate separate
  refine forall_of_mapM_eq_ok each ?_
  intro entry _ part written
  simp only [writeAssignment, bind_eq_ok, pure_eq_ok] at written
  rcases written with ⟨quoted, quotedColumn, rfl⟩
  exact (Spoken.of_quote (quoteColumn_eq_ok_iff.1 quotedColumn).2).before mark

/-! ## Selects, updates and deletes -/

/-- A select on a table begins with its verb. -/
theorem begins_of_select
    {dialect : Dialect} {table : String} {columns : List String}
    {filter : Filter} {order : List SortItem} {page : Option Page}
    {query : Query}
    (done :
      dialect.select ⟨.table table columns, filter, order, page⟩ =
        .ok query) :
    ∃ text, query.sql = "SELECT" ++ " " ++ text := by
  simp only [Dialect.select, Source.write, bind_eq_ok, pure_eq_ok] at done
  rcases done with ⟨head, ⟨-, -, written⟩, body, -, sorted, -, tail, -, rfl⟩
  have begins : ∃ text, head = "SELECT" ++ " " ++ text := by
    split at written
    · cases written
      refine ⟨"* FROM " ++ table, ?_⟩
      rw [← String.append_assoc]
      rfl
    · simp only [bind_eq_ok, pure_eq_ok] at written
      rcases written with ⟨quoted, -, rfl⟩
      refine ⟨", ".intercalate quoted ++ " FROM " ++ table, ?_⟩
      simp only [← String.append_assoc]
      rfl
  rcases begins with ⟨text, rfl⟩
  refine
    ⟨text ++ optionalPart " WHERE " body.sql ++
      optionalPart " ORDER BY " sorted ++ tail, ?_⟩
  simp only [String.append_assoc]

theorem opens_of_update
    {dialect : Dialect} {table : String} {assignments : Assignments}
    {filter : Filter} {query : Query} (named : Spoken glueWords table)
    (done : dialect.update table assignments filter = .ok query) :
    Opens "UPDATE" query.sql := by
  simp only [Dialect.update, bind_eq_ok] at done
  rcases done with ⟨-, -, done⟩
  split at done
  · cases done
  · split at done
    · cases done
    · simp only [bind_eq_ok, pure_eq_ok] at done
      rcases done with ⟨changes, changesWritten, body, written, rfl⟩
      have space : Phrase glueWords " " := by decide
      have set : Phrase glueWords " SET " := by decide
      have condition : Phrase glueWords " WHERE " := by decide
      have update : Opens "UPDATE" ("UPDATE " ++ table) :=
        ⟨table, rfl, named.behind space⟩
      exact
        (update.weave set (spoken_of_writeAssignments changesWritten)).weave
          condition (spoken_of_toWhere written)

theorem opens_of_delete
    {dialect : Dialect} {table : String} {filter : Filter} {query : Query}
    (named : Spoken glueWords table)
    (done : dialect.delete table filter = .ok query) :
    Opens "DELETE" query.sql := by
  simp only [Dialect.delete, bind_eq_ok, pure_eq_ok] at done
  rcases done with ⟨-, -, body, written, rfl⟩
  have origin : Phrase glueWords " FROM " := by decide
  have condition : Phrase glueWords " WHERE " := by decide
  have delete : Opens "DELETE" ("DELETE FROM " ++ table) := by
    refine ⟨"FROM " ++ table, ?_, ?_⟩
    · rw [← String.append_assoc]
      rfl
    · rw [← String.append_assoc]
      exact named.behind origin
  exact delete.optional condition (spoken_of_toWhere written)

/-! ## Insertions -/

/-- Whether the ids are put into a table variable and selected from it. -/
def IdRetrieval.usesTable : IdRetrieval → Bool
  | outputTable _ => true
  | _ => false

theorem opens_of_insertHead
    {table : String} {quoted : List String}
    (named : Spoken glueWords table)
    (columns : Spoken glueWords (", ".intercalate quoted)) :
    Opens "INSERT" (insertHead table quoted) := by
  have into : Phrase glueWords " INTO " := by decide
  have opened : Phrase glueWords " (" := by decide
  have close : Phrase glueWords ")" := by decide
  have insert : Opens "INSERT" ("INSERT INTO " ++ table) := by
    refine ⟨"INTO " ++ table, ?_, ?_⟩
    · rw [← String.append_assoc]
      rfl
    · rw [← String.append_assoc]
      exact named.behind into
  exact (insert.weave opened columns).before close

theorem phrase_of_values (columns rows : Nat) :
    Phrase glueWords
      (" " ++ ("VALUES " ++ Insertion.placeholders columns rows)) := by
  have space : Glue " " 0 := by decide
  apply phrase_of_glue (space.append (glue_of_values columns rows).toNeutral)
  have word : Worded glueWords " VALUES ".toList := by decide
  have mark : Worded glueWords "?".toList := by decide
  have opened : Worded glueWords "(".toList := by decide
  have close : Worded glueWords ")".toList := by decide
  have row : Worded glueWords (rowPlaceholders columns).toList := by
    simpa [rowPlaceholders] using
      (opened.append (mark.intercalate_replicate columns)).append close
  simpa [Insertion.placeholders] using
    word.append (row.intercalate_replicate rows)

/-- An insertion without a table variable is one statement. -/
theorem opens_of_insertText
    {style : QuoteStyle} {head values id : String} {retrieval : IdRetrieval}
    (opens : Opens "INSERT" head) (phrase : Phrase glueWords (" " ++ values))
    (quotedId :
      ∀ column ∈ retrieval.columns, Identifier.quote style column = .ok id)
    (plain : retrieval.usesTable = false) :
    Opens "INSERT" (insertText head values id retrieval) := by
  have inserted : Opens "INSERT" (head ++ " " ++ values) := by
    rw [String.append_assoc]
    exact opens.before phrase
  cases retrieval with
  | none | firstStride stride | lastStride stride => exact inserted
  | outputTable column => cases plain
  | returning column =>
      have answer : Phrase glueWords " RETURNING " := by decide
      simp only [IdRetrieval.columns, List.mem_singleton, forall_eq] at quotedId
      exact inserted.weave answer (.of_quote quotedId)

/-- An insertion with a table variable ends with a select of the ids. -/
theorem returnsRows_of_insertText
    {options : Options} {identifier table values id : String}
    {columns quoted : List String} {holes : Nat} {retrieval : IdRetrieval}
    (tableQuoted : Identifier.quote options.quoteStyle identifier = .ok table)
    (columnsQuoted : options.quoteColumns columns = .ok quoted)
    (valuesGlue : Glue values holes)
    (quotedId :
      ∀ column ∈ retrieval.columns,
        Identifier.quote options.quoteStyle column = .ok id)
    (uses : retrieval.usesTable = true) :
    returnsRows (insertText (insertHead table quoted) values id retrieval) =
      true := by
  cases retrieval with
  | none | firstStride stride | lastStride stride => cases uses
  | returning column => cases uses
  | outputTable column =>
      simp only [IdRetrieval.columns, List.mem_singleton, forall_eq] at quotedId
      have head :
          Woven options.quoteStyle (fun _ => True) (· = table)
            (insertHead table quoted) 0 :=
        woven_of_insertHead rfl
          (woven_of_quoteColumns (fun _ _ => trivial) columnsQuoted)
      have front := woven_of_output head valuesGlue trivial quotedId
      have settled :=
        settled_of_woven front fun _ same =>
          same ▸ settled_of_quote tableQuoted
      exact returnsRows_of_select_behind settled.isPlain

/-- What a driver sees of an insertion depends on the retrieval of ids. -/
theorem verdicts_of_planInsert
    {dialect : Dialect} {identifier table : String} {rows : List Assignments}
    {plan : InsertPlan} (tableQuoted : dialect.quote identifier = .ok table)
    (done : dialect.planInsert table rows = .ok plan) :
    ∀ batch ∈ plan.batches,
      ∃ retrieval, dialect.idRetrieval = .ok retrieval ∧
        returnsRows batch.query.sql = retrieval.usesTable ∧
          (retrieval.usesTable = false →
            insertsRows batch.query.sql = true) := by
  cases rows with
  | nil =>
      cases done
      simp
  | cons first rest =>
      rcases planInsert_eq_ok_iff.1 done with ⟨steps, rfl⟩
      refine forall_of_mapM_eq_ok steps.batches_written ?_
      intro group _ batch written
      rcases writeInsert_eq_ok_iff.1 (writeBatch_eq_ok_iff.1 written).1 with
        ⟨id, quotedId, same⟩
      refine ⟨steps.retrieval, steps.retrieval_found, ?_⟩
      rw [same]
      cases uses : steps.retrieval.usesTable with
      | true =>
          refine ⟨?_, fun plain => nomatch plain⟩
          exact
            returnsRows_of_insertText tableQuoted steps.columns_quoted
              (glue_of_values steps.quoted.length group.length) quotedId uses
      | false =>
          have opens :=
            opens_of_insertText
              (opens_of_insertHead (.of_quote tableQuoted)
                (spoken_of_quoteColumns steps.columns_quoted))
              (phrase_of_values steps.quoted.length group.length) quotedId uses
          have verdicts := verdicts_of_opens (by decide) opens
          exact ⟨verdicts.1, fun _ => verdicts.2⟩

/-! ## Requests -/

namespace Request

/-- The table that a request is about, if its statements name one. -/
def table? : Request → Option String
  | select ⟨.table name _, _, _, _⟩ => some name
  | update table _ _ | delete table _ | insert table _ => some table
  | _ => none

/-- Whether a request wants rows back: those of a select, or new ids. -/
def wantsRows : Request → Bool
  | select _ | insert _ _ => true
  | _ => false

/-- Whether a request is an insertion. -/
def addsRows : Request → Bool
  | insert _ _ => true
  | _ => false

end Request

theorem usesTable_of_sqlServer
    {dialect : Dialect} {retrieval : IdRetrieval}
    (server : dialect.backend = .sqlServer)
    (found : dialect.idRetrieval = .ok retrieval) :
    retrieval.usesTable = true := by
  simp only [Dialect.idRetrieval, server] at found
  split at found
  · cases found
    rfl
  · cases found

theorem idRetrieval_of_generic
    {dialect : Dialect} {chosen retrieval : IdRetrieval}
    (generic : dialect.backend = .generic chosen)
    (found : dialect.idRetrieval = .ok retrieval) :
    retrieval = chosen := by
  rcases dialect with ⟨backend, options⟩
  cases generic
  cases chosen with
  | none | outputTable column | returning column =>
      cases found
      rfl
  | firstStride stride | lastStride stride =>
      cases stride with
      | zero => cases found
      | succ stride =>
          cases found
          rfl

/--
A driver never mistakes a statement on a quoted table, whatever the names of
its columns.  SQL Server is asked for rows by selects and insertions, and by no
update or delete; and where ids do not come through a table variable, every
insertion is one that adds rows, and no select, update or delete is.
-/
theorem routes_of_write
    {dialect : Dialect} {identifier table : String} {request : Request}
    {queries : List Query} (tableQuoted : dialect.quote identifier = .ok table)
    (onTable : request.table? = some table)
    (written : request.write dialect = .ok queries) :
    ∀ query ∈ queries,
      (dialect.backend = .sqlServer →
        returnsRows query.sql = request.wantsRows) ∧
      (∀ retrieval, dialect.backend = .generic retrieval →
        (∀ column, retrieval ≠ .outputTable column) →
          insertsRows query.sql = request.addsRows) := by
  have named : Spoken glueWords table := .of_quote tableQuoted
  cases request with
  | condition filter => cases onTable
  | selectFrom sql filter => cases onTable
  | select selection =>
      rcases map_eq_ok.1 written with ⟨query, selected, rfl⟩
      rw [List.forall_mem_singleton]
      rcases selection with ⟨⟨name, columns⟩ | ⟨sql⟩, filter, order, page⟩
      · rcases begins_of_select selected with ⟨text, same⟩
        rw [same]
        have verdicts := verdicts_of_select text
        exact ⟨fun _ => verdicts.1, fun _ _ _ => verdicts.2⟩
      · cases onTable
  | update target assignments filter =>
      cases onTable
      rcases map_eq_ok.1 written with ⟨query, updated, rfl⟩
      rw [List.forall_mem_singleton]
      have verdicts :=
        verdicts_of_opens (by decide) (opens_of_update named updated)
      exact ⟨fun _ => verdicts.1, fun _ _ _ => verdicts.2⟩
  | delete target filter =>
      cases onTable
      rcases map_eq_ok.1 written with ⟨query, deleted, rfl⟩
      rw [List.forall_mem_singleton]
      have verdicts :=
        verdicts_of_opens (by decide) (opens_of_delete named deleted)
      exact ⟨fun _ => verdicts.1, fun _ _ _ => verdicts.2⟩
  | insert target rows =>
      cases onTable
      rcases map_eq_ok.1 written with ⟨plan, planned, rfl⟩
      rw [List.forall_mem_map]
      intro batch member
      rcases verdicts_of_planInsert tableQuoted planned batch member with
        ⟨retrieval, found, answered, adds⟩
      constructor
      · intro server
        rw [answered, usesTable_of_sqlServer server found]
        rfl
      · intro chosen generic other
        have same := idRetrieval_of_generic generic found
        have plain : retrieval.usesTable = false := by
          cases retrieval with
          | outputTable column => exact absurd same.symm (other column)
          | none | firstStride _ | lastStride _ | returning _ => rfl
        rw [adds plain]
        rfl

/-- A deletion whose names are spelled like a second statement. -/
def spelledDeletion : Request :=
  .delete "[t].[OUTPUT]"
    (Filter.empty.equals "x] = 1; SELECT --" (.int 1))

/-- An insertion whose names are spelled like keywords and comments. -/
def spelledInsertion : Request :=
  .insert "\"t;\"\" SELECT\"" [[("OUTPUT", .int 1), ("a/*;\"", .null)]]

/-- The statement of `spelledInsertion` that returns its ids. -/
def spelledInsert : Query :=
  ⟨"INSERT INTO \"t;\"\" SELECT\" (\"OUTPUT\", \"a/*;\"\"\") " ++
      "VALUES (?,?) RETURNING \"INTO\"",
    [.int 1, .null]⟩

theorem write_spelledInsertion :
    spelledInsertion.write
        (Dialect.ofBackend (.generic (.returning "INTO"))) =
      .ok [spelledInsert] := by
  have undivided :
      Insertion.partition 1 [[.int 1, .null]] = [[[Value.int 1, .null]]] := by
    simp [Insertion.partition_cons]
  exact
    map_eq_ok.2
      ⟨⟨[⟨spelledInsert, 1⟩], .returning "INTO"⟩,
        planInsert_eq_ok_iff.2
          ⟨⟨.returning "INTO", _, _, 1, [⟨spelledInsert, 1⟩], rfl, rfl, rfl,
            rfl, rfl, rfl, undivided ▸ rfl⟩, rfl⟩,
        rfl⟩

theorem routes_of_write_spelled :
    (∃ query,
      spelledDeletion.write (Dialect.ofBackend .sqlServer) = .ok [query] ∧
        query.sql =
          "DELETE FROM [t].[OUTPUT] WHERE [x]] = 1; SELECT --] = ?" ∧
        returnsRows query.sql = false) ∧
      spelledInsertion.write
            (Dialect.ofBackend (.generic (.returning "INTO"))) =
          .ok [spelledInsert] ∧
        insertsRows spelledInsert.sql = true := by
  constructor
  · have quoted :
        (Dialect.ofBackend .sqlServer).quote "t.OUTPUT" =
          .ok "[t].[OUTPUT]" := rfl
    have written :
        spelledDeletion.write (Dialect.ofBackend .sqlServer) =
          .ok [⟨"DELETE FROM [t].[OUTPUT] WHERE [x]] = 1; SELECT --] = ?",
            [.int 1]⟩] := rfl
    have routed :=
      routes_of_write quoted rfl written _ (List.mem_singleton_self _)
    exact ⟨_, written, rfl, routed.1 rfl⟩
  · have quoted :
        (Dialect.ofBackend (.generic (.returning "INTO"))).quote
            "t;\" SELECT" =
          .ok "\"t;\"\" SELECT\"" := rfl
    have routed :=
      routes_of_write quoted rfl write_spelledInsertion _
        (List.mem_singleton_self _)
    refine ⟨write_spelledInsertion, routed.2 _ rfl ?_⟩
    intro column same
    cases same

end Sqlwright
