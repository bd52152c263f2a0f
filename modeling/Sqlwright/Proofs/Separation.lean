import Sqlwright.Lexical.Routing
import Sqlwright.Proofs.Wording

/-!
# Statements of a batch are read apart

A semicolon in plain text ends a statement.  What is behind it is read as a
text of its own: no parenthesis that is still open counts there, no statement
without words is left between the two sides, and nothing that the reader knows
of the front goes on.  So the words of a batch are the words of its texts, and
what a driver decides about a batch is put together of what it decides about
the texts.

This holds of a front exactly if the reader is in plain text at its end.  In a
quotation or a comment that is left open the semicolon is no more than a
character of it.
-/

namespace Sqlwright.Lexical

/-! ## Decisions about two texts -/

/-- Whether there is a word in some statement of a text. -/
def hasWords (sql : String) : Bool :=
  !(statementWords sql).flatten.isEmpty

/-- A text without words has no statements, since empty ones are dropped. -/
theorem hasWords_eq (sql : String) :
    hasWords sql = !(statementWords sql).isEmpty := by
  have nonempty : ∀ words ∈ statementWords sql, words ≠ [] := by
    intro words member
    simpa using (List.mem_filter.1 member).2
  rw [hasWords]
  cases found : statementWords sql with
  | nil => rfl
  | cons words rest =>
      rw [found, List.forall_mem_cons] at nonempty
      rcases List.exists_cons_of_ne_nil nonempty.1 with ⟨word, others, rfl⟩
      rfl

/-- Whether rows come back is decided by any of the statements. -/
theorem returnsRows_of_append
    {sql front back : String}
    (words :
      statementWords sql = statementWords front ++ statementWords back) :
    returnsRows sql = (returnsRows front || returnsRows back) := by
  rw [returnsRows, words, List.any_append]
  rfl

/-- Whether rows are added is decided by the first statement that there is. -/
theorem insertsRows_of_append
    {sql front back : String}
    (words :
      statementWords sql = statementWords front ++ statementWords back) :
    insertsRows sql =
      if hasWords front then insertsRows front else insertsRows back := by
  rw [hasWords_eq, insertsRows, insertsRows, insertsRows, words]
  cases statementWords front with
  | nil => rfl
  | cons first rest => rfl

/-! ## Open regions -/

/-- A semicolon and a word that are read inside of a region are hidden. -/
theorem exposedFrom_of_not_isPlain
    {mode : Mode} (inside : mode.isPlain = false) :
    exposedFrom mode [';', 'x'] = [' ', ' '] ∧
      exposedFrom mode [';', ' '] = [' ', ' '] := by
  cases mode with
  | plain | hyphen | slash | closed _ => cases inside
  | quoted quotation => cases quotation <;> exact ⟨rfl, rfl⟩
  | lineComment | blockComment _ | blockSlash _ | blockStar _ =>
      exact ⟨rfl, rfl⟩

/-- Behind a region that is left open a word and a blank read alike. -/
theorem statementWords_of_not_isPlain
    {front : String}
    (inside : (Mode.plain.after front.toList).isPlain = false) :
    statementWords (front ++ ";" ++ "x") =
      statementWords (front ++ ";" ++ " ") := by
  have hidden := exposedFrom_of_not_isPlain inside
  have word :
      (front ++ ";" ++ "x").toList = front.toList ++ [';', 'x'] := by
    simp
  have blank :
      (front ++ ";" ++ " ").toList = front.toList ++ [';', ' '] := by
    simp
  rw [statementWords_eq, statementWords_eq, word, blank, exposed, exposed,
    exposedFrom_append, exposedFrom_append, hidden.1, hidden.2]

/-! ## Batches -/

/--
The statements of a batch of any number of texts are those of the texts, and so
are the decisions about it.  All texts but the last one have to end in plain
text.
-/
theorem statementWords_batch
    {fronts : List String}
    (settled :
      ∀ front ∈ fronts, (Mode.plain.after front.toList).isPlain = true)
    (last : String) :
    statementWords (";".intercalate (fronts ++ [last])) =
        (fronts ++ [last]).flatMap statementWords ∧
      returnsRows (";".intercalate (fronts ++ [last])) =
        (fronts ++ [last]).any returnsRows ∧
      insertsRows (";".intercalate (fronts ++ [last])) =
        ((fronts ++ [last]).find? hasWords).any insertsRows := by
  induction fronts with
  | nil =>
      refine ⟨?_, ?_, ?_⟩
      · simp
      · simp
      · simp only [List.nil_append, String.intercalate_singleton]
        cases worded : hasWords last with
        | true => simp [worded]
        | false =>
            rw [hasWords_eq, Bool.not_eq_false', List.isEmpty_iff] at worded
            simp [insertsRows, hasWords_eq, worded]
  | cons front rest induction =>
      rw [List.forall_mem_cons] at settled
      rcases induction settled.2 with ⟨words, returns, inserts⟩
      have split :
          ";".intercalate (front :: rest ++ [last]) =
            front ++ ";" ++ ";".intercalate (rest ++ [last]) := by
        rcases List.exists_cons_of_ne_nil
            (List.append_ne_nil_of_right_ne_nil rest
              (List.cons_ne_nil last [])) with
          ⟨next, others, same⟩
        rw [List.cons_append, same, String.intercalate_cons_cons]
      have parts :=
        statementWords_append settled.1 (";".intercalate (rest ++ [last]))
      rw [split, returnsRows_of_append parts, insertsRows_of_append parts,
        parts, words, returns, inserts]
      refine ⟨rfl, rfl, ?_⟩
      rw [List.cons_append, List.find?_cons]
      cases hasWords front <;> rfl

/--
A semicolon behind a text keeps it apart from all that can follow exactly if
the text ends in plain text, whatever parentheses it leaves open.  The words of
the batch are then those of its two sides, it is answered with rows if one of
the sides is, and it adds rows if the first side that has a word does.
-/
theorem separates_iff (front : String) :
    (∀ back : String,
      statementWords (front ++ ";" ++ back) =
          statementWords front ++ statementWords back ∧
        returnsRows (front ++ ";" ++ back) =
          (returnsRows front || returnsRows back) ∧
        insertsRows (front ++ ";" ++ back) =
          if hasWords front then insertsRows front else insertsRows back) ↔
      (Mode.plain.after front.toList).isPlain = true := by
  constructor
  · intro separates
    rw [← Bool.not_eq_false]
    intro inside
    have same := statementWords_of_not_isPlain inside
    rw [(separates "x").1, (separates " ").1] at same
    have word : statementWords "x" = statementWords " " :=
      List.append_cancel_left same
    exact absurd word (by decide)
  · intro settled back
    have words := statementWords_append settled back
    exact ⟨words, returnsRows_of_append words, insertsRows_of_append words⟩

/-- Parentheses that are left open do not count behind the semicolon. -/
example :
    statementWords "INSERT INTO t ((a;; -- ;\n) SELECT (b" =
      [[⟨"INSERT", 0⟩, ⟨"INTO", 0⟩, ⟨"T", 0⟩, ⟨"A", 2⟩],
        [⟨"SELECT", 0⟩, ⟨"B", 1⟩]] := by
  decide

end Sqlwright.Lexical
