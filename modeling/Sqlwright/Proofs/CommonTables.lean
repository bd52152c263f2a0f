import Sqlwright.Proofs.Lexemes

/-!
# The verb behind common table expressions

A statement can begin with the definitions of common tables.  Its verb is then
the first verb behind them, and not one of those that stand in the definitions.
`CommonTables` is the syntax of such a clause: tables with a name, maybe a list
of columns, `AS`, maybe a hint, and a body, with commas between them.

No lexeme of a clause but the last one can be taken for the verb: a name is
quoted or no verb, and the bodies lie deeper than the `WITH`.  So the main
theorem says that the verb of the statement is the one behind the clause.
-/

namespace Sqlwright.Lexical

/-! ## Clauses -/

/-- How a common table is named. -/
inductive TableName where
  | quoted
  | bare (text : String) (noVerb : text ∉ verbs)

/-- The one lexeme that a name is. -/
def TableName.lexeme : TableName → Lexeme
  | quoted => .name
  | bare text _ => .word text

/-- What may stand between `AS` and the body of a common table. -/
inductive Hint where
  | none
  | materialized
  | notMaterialized

/-- The lexemes of a hint. -/
def Hint.lexemes : Hint → List Lexeme
  | none => []
  | materialized => [.word "MATERIALIZED"]
  | notMaterialized => [.word "NOT", .word "MATERIALIZED"]

/-- The definition of a common table, with or without a list of columns. -/
structure CommonTable where
  name : TableName
  hasColumns : Bool
  hint : Hint

/-- The definition of a table: name, columns, hint and body. -/
def CommonTable.lexemes (table : CommonTable) : List Lexeme :=
  table.name.lexeme ::
    ((if table.hasColumns then [.group] else []) ++
      .word "AS" :: (table.hint.lexemes ++ [.group]))

/-- A clause with the definitions of one common table or several. -/
structure CommonTables where
  recursive : Bool
  first : CommonTable
  others : List CommonTable

/-- The definitions of all tables, with commas between them. -/
def CommonTables.definitions (tables : CommonTables) : List Lexeme :=
  (if tables.recursive then [.word "RECURSIVE"] else []) ++
    List.intercalate [.comma]
      ((tables.first :: tables.others).map CommonTable.lexemes)

/-- The definitions of all tables behind `WITH`. -/
def CommonTables.lexemes (tables : CommonTables) : List Lexeme :=
  .word "WITH" :: tables.definitions

/-- Lexemes of which no word is read that could be taken for the verb. -/
def Lexeme.isPassed : Lexeme → Bool
  | opening => false
  | word text => !verbs.contains text
  | name | group | comma => true

theorem CommonTable.passed (table : CommonTable) :
    ∀ lexeme ∈ table.lexemes, lexeme.isPassed = true := by
  have named (name : TableName) : name.lexeme.isPassed = true := by
    cases name with
    | quoted => rfl
    | bare text noVerb => simpa [TableName.lexeme, Lexeme.isPassed]
  have others (hasColumns : Bool) (hint : Hint) :
      ∀ lexeme ∈
          (if hasColumns then [.group] else []) ++
            .word "AS" :: (hint.lexemes ++ [.group]),
        lexeme.isPassed = true := by
    cases hasColumns <;> cases hint <;> decide
  exact List.forall_mem_cons.2 ⟨named table.name, others _ table.hint⟩

theorem passed_intercalate
    {lists : List (List Lexeme)}
    (each : ∀ list ∈ lists, ∀ lexeme ∈ list, lexeme.isPassed = true) :
    ∀ lexeme ∈ List.intercalate [.comma] lists, lexeme.isPassed = true := by
  induction lists with
  | nil => exact fun _ member => absurd member List.not_mem_nil
  | cons list rest induction =>
      rw [List.forall_mem_cons] at each
      cases rest with
      | nil =>
          rw [List.intercalate_singleton]
          exact each.1
      | cons next rest =>
          rw [List.intercalate_cons_cons, List.forall_mem_append,
            List.forall_mem_append, List.forall_mem_singleton]
          exact ⟨⟨each.1, rfl⟩, induction each.2⟩

theorem CommonTables.passed (tables : CommonTables) :
    ∀ lexeme ∈ tables.definitions, lexeme.isPassed = true := by
  refine List.forall_mem_append.2 ⟨?_, passed_intercalate ?_⟩
  · cases tables.recursive <;> decide
  · exact List.forall_mem_map.2 fun table _ => table.passed

/-- Behind lexemes that are passed, the verb is the first word that fits. -/
theorem find?_of_voiced
    {depth : Nat} {lexemes : List Lexeme} {verb : String} {words : List Word}
    (passed : ∀ lexeme ∈ lexemes, lexeme.isPassed = true)
    (isVerb : verb ∈ verbs)
    (voiced : Voiced depth (lexemes ++ [.word verb]) words) :
    words.find? (fun word =>
        word.depth == depth && verbs.contains word.text) =
      some ⟨verb, depth⟩ := by
  induction lexemes generalizing words with
  | nil =>
      cases voiced with
      | word _ _ => exact List.find?_cons_of_pos (by simpa using isVerb)
  | cons lexeme rest induction =>
      rw [List.forall_mem_cons] at passed
      rw [List.cons_append] at voiced
      cases voiced with
      | opening _ => cases passed.1
      | word text voiced =>
          have noVerb : text ∉ verbs := by
            simpa [Lexeme.isPassed] using passed.1
          rw [List.find?_cons_of_neg (by simpa using noVerb)]
          exact induction passed.2 voiced
      | name voiced => exact induction passed.2 voiced
      | @group _ _ inner words deeper voiced =>
          have none :
              inner.find? (fun word =>
                  word.depth == depth && verbs.contains word.text) =
                none := by
            rw [List.find?_eq_none]
            intro word member
            have other := Nat.ne_of_gt (deeper word member)
            simp [other]
          rw [List.find?_append, none, Option.none_or]
          exact induction passed.2 voiced
      | comma voiced => exact induction passed.2 voiced

theorem mainVerb?_of_voiced
    {depth openings : Nat} {tables : CommonTables} {verb : String}
    {words : List Word} (isVerb : verb ∈ verbs)
    (voiced :
      Voiced depth
        (List.replicate openings .opening ++
          (tables.lexemes ++ [.word verb])) words) :
    mainVerb? words = some verb := by
  induction openings generalizing depth with
  | zero =>
      rw [List.replicate_zero, List.nil_append, CommonTables.lexemes,
        List.cons_append] at voiced
      cases voiced with
      | word _ voiced =>
          rw [mainVerb?, if_pos rfl,
            find?_of_voiced tables.passed isVerb voiced]
          rfl
  | succ openings induction =>
      rw [List.replicate_succ, List.cons_append] at voiced
      cases voiced with
      | opening voiced => exact induction voiced

/-- A merge behind two common tables with other verbs in their bodies. -/
def tabledMerge : String :=
  "--(\n((with recursive[select](a)as(values(')')),c/*(*/as not " ++
    "materialized(with d as(delete t)select 1)Merge u;"

/-- The tables of the merge: one with columns, and one with a hint. -/
def mergedTables : CommonTables :=
  ⟨true, ⟨.quoted, true, .none⟩,
    [⟨.bare "C" (by decide), false, .notMaterialized⟩]⟩

end Sqlwright.Lexical
