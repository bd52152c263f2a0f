import Sqlwright.Engine.Command
import Sqlwright.Engine.Fault
import Sqlwright.Engine.Token
import Sqlwright.Text.Ascii

/-!
# Reading statements

`Parsed.ofText` reads the first statement of a text, up to a semicolon or the
end.  It stops at the first token that no statement can go on with; when the
text ends before the statement does, the statement is incomplete.

Keywords may have letters of any case.  The words of `reserved` are never names
unless they are quoted.  Placeholders are numbered in the order in which they
are written.  Lists recurse on a budget that starts above the number of tokens,
and every item takes a token.
-/

namespace Sqlwright.Engine

open Sqlwright.Text

/-- What is left to read, and the number of placeholders so far. -/
structure Unread where
  tokens : List Token
  placeholders : Nat

/-- A reader of tokens that may find a fault. -/
abbrev Reader (Part : Type) := StateT Unread (Except Fault) Part

namespace Reader

/-- Words that are keywords wherever they stand. -/
def reserved : List String :=
  ["ADD", "ALL", "ALTER", "AND", "AS", "AUTOINCREMENT", "BETWEEN", "CASE",
    "CHECK", "COLLATE", "COMMIT", "CONSTRAINT", "CREATE", "DEFAULT",
    "DEFERRABLE", "DELETE", "DISTINCT", "DROP", "ELSE", "ESCAPE", "EXISTS",
    "FOREIGN", "FROM", "GROUP", "HAVING", "IN", "INDEX", "INSERT",
    "INTERSECT", "INTO", "IS", "ISNULL", "JOIN", "LIMIT", "NOT", "NOTHING",
    "NOTNULL", "NULL", "ON", "OR", "ORDER", "PRIMARY", "REFERENCES",
    "RETURNING", "SELECT", "SET", "TABLE", "THEN", "TO", "TRANSACTION",
    "UNION", "UNIQUE", "UPDATE", "USING", "VALUES", "WHEN", "WHERE"]

/-- The next token, without reading it. -/
def peek : Reader (Option Token) := do
  pure (← get).tokens.head?

/-- The number of tokens that are left. -/
def size : Reader Nat := do
  pure (← get).tokens.length

/-- Refuse the next token. -/
def refuse {Part : Type} : Reader Part := do
  match ← peek with
  | some token =>
      if token.kind = .unknown then
        throw (.unrecognized token.written token.offset)
      else
        throw (.unexpected token.written token.offset)
  | none => throw .incomplete

/-- Read the next token. -/
def skip : Reader Unit :=
  modify fun unread => { unread with tokens := unread.tokens.tail }

/-- Whether a token is a keyword. -/
def isKeyword (word : String) (token : Token) : Bool :=
  token.kind = .word && upper token.text == word

/-- Whether a token is a sign. -/
def isSymbol (sign : String) (token : Token) : Bool :=
  token.kind = .symbol && token.text == sign

/-- Read the next token if it passes a test. -/
def accept (test : Token → Bool) : Reader Bool := do
  if (← peek).any test then
    skip
    pure true
  else
    pure false

/-- Read the next token, which has to pass a test. -/
def demand (test : Token → Bool) : Reader Unit := do
  if ← accept test then pure () else refuse

/-- Take a keyword if it comes next. -/
def acceptKeyword (word : String) : Reader Bool := accept (isKeyword word)

/-- Take a keyword, which has to come next. -/
def keyword (word : String) : Reader Unit := demand (isKeyword word)

/-- Take a sign if it comes next. -/
def acceptSymbol (sign : String) : Reader Bool := accept (isSymbol sign)

/-- Take a sign, which has to come next. -/
def symbol (sign : String) : Reader Unit := demand (isSymbol sign)

/-- Whether a token is a name: it is quoted, or a word that is not reserved. -/
def isName (token : Token) : Bool :=
  match token.kind with
  | .word => !reserved.contains (upper token.text)
  | .doubleQuoted | .quoted => true
  | _ => false

/-- Take a name, which has to come next. -/
def name : Reader Name := do
  match ← peek with
  | some token =>
      if isName token then
        skip
        pure
          { text := token.text
            written := token.written
            offset := token.offset
            maybeText := token.kind = .doubleQuoted }
      else
        refuse
  | none => refuse

/-- The integer that a number token writes. -/
def integerCell? (text : String) : Option Cell :=
  (readInt64? text.toList).map Cell.integer

/-- The most placeholders that a statement can have. -/
def mostPlaceholders : Nat := 32766

/-- A value. -/
def term : Reader Term := do
  match ← peek with
  | some token =>
      match token.kind with
      | .placeholder =>
          skip
          let index := (← get).placeholders
          if mostPlaceholders ≤ index then
            throw (.tooManyPlaceholders token.offset)
          modify fun unread => { unread with placeholders := index + 1 }
          pure (.bound index)
      | .literal =>
          skip
          pure (.constant (.text token.text))
      | .number =>
          match integerCell? token.text with
          | some cell =>
              skip
              pure (.constant cell)
          | none => refuse
      | _ =>
          if ← acceptKeyword "NULL" then pure (.constant .null) else refuse
  | none => refuse

/-- At least one item, with commas between the items. -/
def separated {Part : Type} (item : Reader Part) :
    Nat → Reader (List Part)
  | 0 => refuse
  | budget + 1 => do
      let first ← item
      if ← acceptSymbol "," then
        pure (first :: (← separated item budget))
      else
        pure [first]

/-- At least one item, with commas between several. -/
def commaList {Part : Type} (item : Reader Part) : Reader (List Part) := do
  separated item ((← size) + 1)

/-- A part in parentheses. -/
def parenthesized {Part : Type} (part : Reader Part) : Reader Part := do
  symbol "("
  let content ← part
  symbol ")"
  pure content

/-- The relation that a sign stands for. -/
def relationOf? (sign : String) : Option Relation :=
  match sign with
  | "=" | "==" => some .equal
  | "<>" | "!=" => some .notEqual
  | ">" => some .greater
  | ">=" => some .greaterOrEqual
  | "<" => some .less
  | "<=" => some .lessOrEqual
  | _ => none

/-- The values of a membership test. -/
def members : Reader Members := do
  symbol "("
  if ← acceptKeyword "SELECT" then
    let column ← name
    keyword "FROM"
    let table ← name
    symbol ")"
    pure (.column column table)
  else if ← acceptSymbol ")" then
    pure (.terms [])
  else
    let terms ← commaList term
    symbol ")"
    pure (.terms terms)

/-- A test of a column behind an optional `NOT`. -/
def wordTest (column : Name) (negated : Bool) : Reader Predicate := do
  if ← acceptKeyword "LIKE" then
    pure (.like negated column (← term))
  else if ← acceptKeyword "IN" then
    pure (.member negated column (← members))
  else
    refuse

/-- A test of a column. -/
def predicate : Reader Predicate := do
  let column ← name
  match ((← peek).filter (·.kind = .symbol)).bind (relationOf? ·.text) with
  | some relation =>
      skip
      pure (.relation column relation (← term))
  | none =>
      if ← acceptKeyword "IS" then
        let negated ← acceptKeyword "NOT"
        keyword "NULL"
        pure (.absent negated column)
      else
        let negated ← acceptKeyword "NOT"
        wordTest column negated

/-- Tests with `AND` between them. -/
def conjunction : Nat → Reader (List Predicate)
  | 0 => refuse
  | budget + 1 => do
      let first ← predicate
      if ← acceptKeyword "AND" then
        pure (first :: (← conjunction budget))
      else
        pure [first]

/-- An optional `WHERE`. -/
def predicates : Reader (List Predicate) := do
  if ← acceptKeyword "WHERE" then
    conjunction ((← size) + 1)
  else
    pure []

/-- A label of an output, with or without `AS`. -/
def label? : Reader (Option String) := do
  if ← acceptKeyword "AS" then
    pure (some (← name).text)
  else if (← peek).any isName then
    pure (some (← name).text)
  else
    pure none

/-- Whether the next two tokens call the count of rows. -/
def startsCount : Reader Bool := do
  match (← get).tokens with
  | first :: second :: _ => pure (isKeyword "COUNT" first && isSymbol "(" second)
  | _ => pure false

/-- What a result shows: everything, a count, a column or a term. -/
def output : Reader Output := do
  if ← acceptSymbol "*" then
    pure .everything
  else if ← startsCount then
    let called ← name
    parenthesized (symbol "*")
    pure (.count called ((← label?).getD (called.written ++ "(*)")))
  else if (← peek).any isName then
    let column ← name
    pure (.column column (← label?))
  else
    let written := ((← peek).map Token.written).getD ""
    let value ← term
    pure (.term value ((← label?).getD written))

/-- A column to sort by, ascending unless it says otherwise. -/
def sortKey : Reader SortKey := do
  let column ← name
  if ← acceptKeyword "DESC" then
    pure ⟨column, true⟩
  else
    let _ ← acceptKeyword "ASC"
    pure ⟨column, false⟩

/-- The columns to sort by, if there are any. -/
def sortKeys : Reader (List SortKey) := do
  if ← acceptKeyword "ORDER" then
    keyword "BY"
    commaList sortKey
  else
    pure []

/-- A value behind an optional keyword. -/
def termBehind (word : String) : Reader (Option Term) := do
  if ← acceptKeyword word then
    pure (some (← term))
  else
    pure none

/-- A select, behind its verb. -/
def selecting : Reader Selecting := do
  let outputs ← commaList output
  let table ←
    if ← acceptKeyword "FROM" then
      pure (some (← name))
    else
      pure none
  let tests ← predicates
  let order ← sortKeys
  let limit ← termBehind "LIMIT"
  let offset ← if limit.isSome then termBehind "OFFSET" else pure none
  pure ⟨outputs, table, tests, order, limit, offset⟩

/-- Rows of terms in parentheses. -/
def rows : Reader (List (List Term)) :=
  commaList (parenthesized (commaList term))

/-- The outputs of an optional `RETURNING`. -/
def returning : Reader (List Output) := do
  if ← acceptKeyword "RETURNING" then
    commaList output
  else
    pure []

/-- What an insert does with rows that break a constraint. -/
def policy : Reader Policy := do
  if ← acceptKeyword "OR" then
    if ← acceptKeyword "IGNORE" then pure .ignore
    else if ← acceptKeyword "REPLACE" then pure .replace
    else if ← acceptKeyword "ABORT" then pure .abort
    else refuse
  else
    pure .abort

/-- An insert, behind its verb and its policy. -/
def inserting (policy : Policy) : Reader Action := do
  keyword "INTO"
  let table ← name
  let columns ←
    if (← peek).any (isSymbol "(") then
      pure (some (← parenthesized (commaList name)))
    else
      pure none
  let source ←
    if ← acceptKeyword "VALUES" then
      pure (InsertSource.values (← rows))
    else if ← acceptKeyword "SELECT" then
      pure (InsertSource.selected (← selecting))
    else
      refuse
  pure (.insert policy table columns source (← returning))

/-- One change of an update. -/
def assignment : Reader (Name × Term) := do
  let column ← name
  symbol "="
  pure (column, ← term)

/-- An update, behind its verb. -/
def updating : Reader Action := do
  let table ← name
  keyword "SET"
  let assignments ← commaList assignment
  let tests ← predicates
  pure (.update table assignments tests (← returning))

/-- A delete, behind its verb. -/
def deleting : Reader Action := do
  keyword "FROM"
  let table ← name
  let tests ← predicates
  pure (.delete table tests (← returning))

/-- Whether a token can be a word of the type of a column. -/
def isTypeWord (token : Token) : Bool :=
  token.kind = .word && !reserved.contains (upper token.text)

/-- The words of a column's type, and an optional size behind them. -/
def typeWords : Nat → Reader (List String)
  | 0 => pure []
  | budget + 1 => do
      match ← peek with
      | some token =>
          if isTypeWord token then
            skip
            pure (upper token.text :: (← typeWords budget))
          else if isSymbol "(" token then
            let _ ← parenthesized (commaList term)
            pure []
          else
            pure []
      | none => pure []

/-- The marks behind a column's type, and whether its ids are never reused. -/
def columnMarks (type : List String) : Nat → Column × Bool →
    Reader (Column × Bool)
  | 0, found => pure found
  | budget + 1, (spec, automatic) => do
      if ← acceptKeyword "PRIMARY" then
        keyword "KEY"
        let automatic := (← acceptKeyword "AUTOINCREMENT") || automatic
        let spec :=
          if type == ["INTEGER"] then { spec with isId := true }
          else { spec with unique := true }
        columnMarks type budget (spec, automatic)
      else if ← acceptKeyword "NOT" then
        keyword "NULL"
        columnMarks type budget ({ spec with notNull := true }, automatic)
      else if ← acceptKeyword "UNIQUE" then
        columnMarks type budget ({ spec with unique := true }, automatic)
      else
        pure (spec, automatic)

/-- A column of a new table. -/
def columnSpec : Reader (Column × Bool) := do
  let column ← name
  let type ← typeWords ((← size) + 1)
  columnMarks type ((← size) + 1) (⟨column.text, false, false, false⟩, false)

/-- A new table, behind the first verb. -/
def creating : Reader Action := do
  keyword "TABLE"
  let ifMissing ←
    if ← acceptKeyword "IF" then
      keyword "NOT"
      keyword "EXISTS"
      pure true
    else
      pure false
  let table ← name
  let columns ← parenthesized (commaList columnSpec)
  pure (.create table ifMissing (columns.any Prod.snd) (columns.map Prod.fst))

/-- A table to be dropped, behind the first verb. -/
def dropping : Reader Action := do
  keyword "TABLE"
  let ifExists ←
    if ← acceptKeyword "IF" then
      keyword "EXISTS"
      pure true
    else
      pure false
  pure (.dropTable (← name) ifExists)

/-- A statement, without the tables that it lists. -/
def action : Reader Action := do
  if ← acceptKeyword "SELECT" then pure (.select (← selecting))
  else if ← acceptKeyword "INSERT" then inserting (← policy)
  else if ← acceptKeyword "REPLACE" then inserting .replace
  else if ← acceptKeyword "UPDATE" then updating
  else if ← acceptKeyword "DELETE" then deleting
  else if ← acceptKeyword "CREATE" then creating
  else if ← acceptKeyword "DROP" then dropping
  else if ← acceptKeyword "BEGIN" then
    let _ ← acceptKeyword "TRANSACTION"
    pure (.transact .begin)
  else if (← acceptKeyword "COMMIT") || (← acceptKeyword "END") then
    let _ ← acceptKeyword "TRANSACTION"
    pure (.transact .commit)
  else if ← acceptKeyword "ROLLBACK" then
    let _ ← acceptKeyword "TRANSACTION"
    pure (.transact .rollback)
  else
    refuse

/-- A table that a statement lists itself. -/
def listed : Reader Listed := do
  let table ← name
  let columns ←
    if (← peek).any (isSymbol "(") then
      parenthesized (commaList name)
    else
      pure []
  keyword "AS"
  let content ← parenthesized do
    keyword "VALUES"
    rows
  pure ⟨table, columns, content⟩

/-- A statement. -/
def command : Reader Command := do
  let tables ←
    if ← acceptKeyword "WITH" then commaList listed else pure []
  pure ⟨tables, ← action⟩

/-- A statement up to its semicolon, or nothing; semicolons in front are skipped. -/
def statement : Reader (Option Command) := do
  modify fun unread =>
    { unread with tokens := unread.tokens.dropWhile (isSymbol ";") }
  match ← peek with
  | none => pure none
  | some _ =>
      let found ← command
      match ← peek with
      | none => pure (some found)
      | some next => if isSymbol ";" next then pure (some found) else refuse

end Reader

/-- The first statement of a text. -/
structure Parsed where
  /-- Nothing if there are only comments and white space. -/
  command : Option Command
  placeholders : Nat
  /-- What follows the semicolon. -/
  rest : List Char

/-- Read the first statement of a text. -/
def Parsed.ofText (text : List Char) : Except Fault Parsed := do
  let (command, unread) ← Reader.statement.run ⟨tokens text, 0⟩
  let rest :=
    match unread.tokens with
    | [] => []
    | token :: _ => text.drop (token.position + 1)
  pure ⟨command, unread.placeholders, rest⟩

end Sqlwright.Engine
