import Sqlwright.Engine.Table
import Sqlwright.Session.Driver

/-!
# Statements of the engine

The parsed form of a statement, with names as they are written.  What the names
stand for is found out when the statement is prepared.
-/

namespace Sqlwright.Engine

/-- A name as it stands in a statement. -/
structure Name where
  text : String
  /-- The name with its quotes. -/
  written : String
  offset : Nat
  /-- Whether the name is in double quotes, and could be a text as well. -/
  maybeText : Bool
  deriving DecidableEq

/-- A value in a statement. -/
inductive Term where
  | bound (index : Nat)
  | constant (cell : Cell)
  deriving DecidableEq

/-- The comparisons by order. -/
inductive Relation where
  | equal
  | notEqual
  | greater
  | greaterOrEqual
  | less
  | lessOrEqual
  deriving DecidableEq

/-- The values of a membership test. -/
inductive Members where
  | terms (terms : List Term)
  /-- A column of a listed table. -/
  | column (column table : Name)
  deriving DecidableEq

/-- One part of a `WHERE`; negated tests are those with a `NOT`. -/
inductive Predicate where
  | relation (column : Name) (relation : Relation) (term : Term)
  | like (negated : Bool) (column : Name) (pattern : Term)
  | member (negated : Bool) (column : Name) (members : Members)
  | absent (negated : Bool) (column : Name)
  deriving DecidableEq

/-- One item of the columns of a result. -/
inductive Output where
  | everything
  | column (name : Name) (label : Option String)
  | count (called : Name) (label : String)
  | term (term : Term) (label : String)
  deriving DecidableEq

/-- A column to sort by, as a statement names it. -/
structure SortKey where
  column : Name
  descending : Bool
  deriving DecidableEq

/-- A `SELECT`. -/
structure Selecting where
  outputs : List Output
  table : Option Name
  predicates : List Predicate
  order : List SortKey
  limit : Option Term
  offset : Option Term
  deriving DecidableEq

/-- A table that a statement lists itself, in front of its verb. -/
structure Listed where
  name : Name
  columns : List Name
  rows : List (List Term)
  deriving DecidableEq

/-- Where inserted rows come from. -/
inductive InsertSource where
  | values (rows : List (List Term))
  | selected (selecting : Selecting)
  deriving DecidableEq

/-- A statement without its listed tables. -/
inductive Action where
  | create (name : Name) (ifMissing autoIncrement : Bool)
      (columns : List Column)
  | dropTable (name : Name) (ifExists : Bool)
  | insert (policy : Policy) (table : Name) (columns : Option (List Name))
      (source : InsertSource) (returning : List Output)
  | update (table : Name) (assignments : List (Name × Term))
      (predicates : List Predicate) (returning : List Output)
  | delete (table : Name) (predicates : List Predicate)
      (returning : List Output)
  | select (selecting : Selecting)
  | transact (transaction : Transaction)
  deriving DecidableEq

/-- A statement. -/
structure Command where
  listed : List Listed
  action : Action
  deriving DecidableEq

end Sqlwright.Engine
