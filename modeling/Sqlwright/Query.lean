import Sqlwright.Value

/-!
# Queries

A `Query` is a statement text with `?` placeholders and the values bound to
them, in order.

`Query.placeholderCount` counts the placeholders outside quotes with a reader
of one character of memory: a quote opens a region that the next closing
quote of its kind ends.  Comments are ordinary text to it.
-/

namespace Sqlwright

/-- A statement with the values of its placeholders. -/
structure Query where
  sql : String
  params : List Value

namespace Query

/-- Whether the statement has no text. -/
def isEmpty (query : Query) : Bool :=
  query.sql.isEmpty

/-- The character that ends a region, if another one opens it. -/
def closer? (character : Char) : Option Char :=
  match character with
  | '\'' | '"' | '\x60' => some character
  | '[' => some ']'
  | _ => none

/-- The placeholders of a text, of which `closing` has to end a region first. -/
def countFrom (closing : Option Char) : List Char → Nat
  | [] => 0
  | character :: rest =>
      match closing with
      | some closer =>
          countFrom (if character = closer then none else some closer) rest
      | none =>
          if character = '?' then
            countFrom none rest + 1
          else
            countFrom (closer? character) rest

/-- The number of `?` outside quotes. -/
def placeholderCount (query : Query) : Nat :=
  countFrom none query.sql.toList

end Query

end Sqlwright
