import Sqlwright.Lexical.Word

/-!
# The way of a statement through a driver

A driver has to know beforehand whether the backend will answer a statement
with rows, and afterwards whether the statement has added rows.  Both are read
off the verbs of the statement, never off what stands in quotes or comments.
-/

namespace Sqlwright.Lexical

/--
Whether the first statement of a text adds rows to a table, so that the id of
the last row is of interest.
-/
def insertsRows (sql : String) : Bool :=
  match (statementWords sql).head?.bind mainVerb? with
  | some verb => verb == "INSERT" || verb == "REPLACE"
  | none => false

/-- Whether changed rows go to the client: an `OUTPUT` that no `INTO` follows. -/
def outputsToClient (words : List Word) : Bool :=
  match words.dropWhile fun word => word.text != "OUTPUT" with
  | [] => false
  | _ :: rest => !rest.any fun word => word.text == "INTO"

theorem outputsToClient_cons (word : Word) (rest : List Word) :
    outputsToClient (word :: rest) =
      if word.text = "OUTPUT" then !rest.any fun other => other.text == "INTO"
      else outputsToClient rest := by
  unfold outputsToClient
  rw [List.dropWhile_cons]
  by_cases output : word.text = "OUTPUT"
  · simp [output]
  · simp [output]

/-- Verbs whose statements are always answered with rows. -/
def answeringVerbs : List String :=
  ["SELECT", "EXEC", "EXECUTE", "VALUES"]

/-- Verbs whose statements are answered with rows if they have an `OUTPUT`. -/
def changingVerbs : List String :=
  ["INSERT", "UPDATE", "DELETE", "MERGE"]

/-- Whether a statement is answered with rows, as its words tell. -/
def answersRows (words : List Word) : Bool :=
  match mainVerb? words with
  | some verb =>
      answeringVerbs.contains verb ||
        (changingVerbs.contains verb && outputsToClient words)
  | none => false

/-- Whether a server answers some statement of a text with rows. -/
def returnsRows (sql : String) : Bool :=
  (statementWords sql).any answersRows

/--
Whether a result set is the one to be read.  A server that sends several of
them marks those without rows by having no columns.
-/
def readsResultSet (columns : Nat) (multipleRowSets : Bool) : Bool :=
  0 < columns || !multipleRowSets

end Sqlwright.Lexical
