/-!
# Comparison operators

The eight operators that a filter can name, each with the tag that selects it
and the word that stands for it in a statement.
-/

namespace Sqlwright

/-- An operator between a column and what it is compared with. -/
inductive Operator where
  | equal
  | notEqual
  | like
  | notLike
  | greaterOrEqual
  | greater
  | lessOrEqual
  | less
  deriving DecidableEq

namespace Operator

/-- All operators, in the order in which tags are looked up. -/
def all : List Operator :=
  [equal, notEqual, like, notLike, greaterOrEqual, greater, lessOrEqual, less]

/-- The two letters that select an operator in a filter. -/
def tag : Operator → String
  | equal => "eq"
  | notEqual => "ne"
  | like => "lk"
  | notLike => "nl"
  | greaterOrEqual => "ge"
  | greater => "gt"
  | lessOrEqual => "le"
  | less => "lt"

/-- The operator in a statement, in front of a placeholder. -/
def sql : Operator → String
  | equal => "="
  | notEqual => "<>"
  | like => "LIKE"
  | notLike => "NOT LIKE"
  | greaterOrEqual => ">="
  | greater => ">"
  | lessOrEqual => "<="
  | less => "<"

/-- Operators that match a pattern. -/
def isLike : Operator → Bool
  | like | notLike => true
  | _ => false

/-- The operator with a tag, whose letters are lower case. -/
def ofTag? (tag : String) : Option Operator :=
  all.find? fun operator => operator.tag == tag

theorem mem_all (operator : Operator) : operator ∈ all := by
  cases operator <;> decide

@[simp]
theorem ofTag?_tag (operator : Operator) :
    ofTag? operator.tag = some operator := by
  cases operator <;> decide

theorem tag_of_ofTag?
    {tag : String} {operator : Operator}
    (found : ofTag? tag = some operator) :
    operator.tag = tag := by
  simpa using List.find?_some found

end Operator

end Sqlwright
