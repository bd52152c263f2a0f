import Sqlwright.Lexical.Mode

/-!
# Words of a statement

The words of a statement are the longest runs of letters, digits and `_@#$` in
its plain text, in upper case, each with the number of parentheses around it.
A semicolon in plain text ends a statement, and the next one starts outside
all parentheses; a statement without words is dropped.

The verb of a statement is its first word.  Behind common table expressions it
is the first word that is a verb and that stands within as many parentheses as
the `WITH`.
-/

namespace Sqlwright.Lexical

/-- A bare word in upper case, and the number of parentheses around it. -/
structure Word where
  text : String
  depth : Nat
  deriving DecidableEq

/-- The characters of words: those of ASCII only. -/
def isWordChar (character : Char) : Bool :=
  character.isAlphanum || character == '_' || character == '@' ||
    character == '#' || character == '$'

/--
The depth of parentheses behind a character; none closes more than are open.
-/
def depthAfter (depth : Nat) (character : Char) : Nat :=
  if character = '(' then depth + 1
  else if character = ')' then depth - 1
  else depth

/-- The word of some characters, given in reverse; no characters are no word. -/
def finishWord (depth : Nat) (reversed : List Char) : List Word :=
  if reversed.isEmpty then []
  else [⟨String.ofList (reversed.reverse.map Char.toUpper), depth⟩]

/-- The words of plain text, of which the current one has begun. -/
def wordsFrom (depth : Nat) (reversed : List Char) : List Char → List Word
  | [] => finishWord depth reversed
  | character :: rest =>
      if isWordChar character then
        wordsFrom depth (character :: reversed) rest
      else
        finishWord depth reversed ++
          wordsFrom (depthAfter depth character) [] rest

/-- The words of a text, with the depths at which they stand. -/
def wordsOf (text : List Char) : List Word :=
  wordsFrom 0 [] text

/-- The words of each statement of a text, without the empty statements. -/
def statementWords (sql : String) : List (List Word) :=
  (((exposed sql.toList).splitOn ';').map wordsOf).filter fun words =>
    !words.isEmpty

/-- The verbs that may follow common table expressions. -/
def verbs : List String :=
  ["SELECT", "INSERT", "UPDATE", "DELETE", "MERGE", "REPLACE", "VALUES",
    "TABLE"]

/-- The first word, or behind a `WITH` the first verb at its own depth. -/
def mainVerb? : List Word → Option String
  | [] => none
  | first :: rest =>
      if first.text = "WITH" then
        (rest.find? fun word =>
          word.depth == first.depth && verbs.contains word.text).map Word.text
      else
        some first.text

end Sqlwright.Lexical
