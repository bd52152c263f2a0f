import Sqlwright.Failure
import Sqlwright.Text.Blank

/-!
# Quoted identifiers

An identifier is a name, or several names with dots between them.  Quoting
puts each name between the quotes of a style and writes a closing quote inside
a name twice, so that no name can end its own quotation.

`Identifier.unquote?` undoes it: it reads names in quotes with dots between
them.
-/

namespace Sqlwright

open Sqlwright.Text

/-- How a backend quotes identifiers. -/
inductive QuoteStyle where
  /-- Double quotes on both sides. -/
  | ansi
  /-- Backticks on both sides. -/
  | backtick
  | bracket
  deriving DecidableEq

namespace QuoteStyle

/-- All styles, in the order in which they are listed. -/
def all : List QuoteStyle := [ansi, backtick, bracket]

/-- The name that selects a style in a configuration. -/
def name : QuoteStyle → String
  | ansi => "ansi"
  | backtick => "backtick"
  | bracket => "bracket"

/-- The character in front of a name. -/
def opening : QuoteStyle → Char
  | ansi => '"'
  | backtick => '\x60'
  | bracket => '['

/-- The character behind a name, written twice inside it. -/
def closing : QuoteStyle → Char
  | ansi => '"'
  | backtick => '\x60'
  | bracket => ']'

/-- The style with a name in small letters. -/
def ofName? (text : String) : Option QuoteStyle :=
  all.find? fun style => style.name == text

/-- The style with a name, whatever the case of its letters. -/
def ofNameIgnoringCase? (text : String) : Option QuoteStyle :=
  ofName? (String.ofList (text.toList.map Char.toLower))

end QuoteStyle

namespace Identifier

/-- A name with every closing quote written twice. -/
def double (closing : Char) : List Char → List Char
  | [] => []
  | character :: rest =>
      if character = closing then
        closing :: closing :: double closing rest
      else
        character :: double closing rest

/-- A segment in quotes, with its own closing quotes written twice. -/
def quoteSegment (style : QuoteStyle) (segment : List Char) : List Char :=
  style.opening :: (double style.closing segment ++ [style.closing])

/-- The names of an identifier, in order. -/
def segments (identifier : String) : List (List Char) :=
  identifier.toList.splitOn '.'

/-- Why an identifier cannot be quoted; a blank one is refused first. -/
def fault? (identifier : String) : Option ArgumentFault :=
  if isBlank identifier then
    some .blankIdentifier
  else if (segments identifier).any List.isEmpty then
    some (.emptySegment identifier)
  else
    none

/-- The names of an identifier, each in quotes. -/
def quoteAll (style : QuoteStyle) (identifier : String) : String :=
  String.ofList
    (List.intercalate ['.']
      ((segments identifier).map (quoteSegment style)))

/-- An identifier in the quotes of a style, if it has a name in every place. -/
def quote (style : QuoteStyle) (identifier : String) :
    Except Failure String :=
  match fault? identifier with
  | some fault => .error (.argument fault)
  | none => .ok (quoteAll style identifier)

/--
The rest of a quoted name and the text behind it.  Two closing quotes stand
for one, a single one ends the name.
-/
def readSegment? (closing : Char) : List Char → Option (List Char × List Char)
  | [] => none
  | [character] => if character = closing then some ([], []) else none
  | character :: next :: rest =>
      if character = closing then
        if next = closing then
          (readSegment? closing rest).map fun (name, behind) =>
            (closing :: name, behind)
        else
          some ([], next :: rest)
      else
        (readSegment? closing (next :: rest)).map fun (name, behind) =>
          (character :: name, behind)

/-- Quoted names with dots between them, at most `budget` of them. -/
def readSegments? (style : QuoteStyle) : Nat → List Char →
    Option (List (List Char))
  | 0, _ => none
  | budget + 1, text =>
      match text with
      | [] => none
      | character :: rest =>
          if character = style.opening then do
            let (name, behind) ← readSegment? style.closing rest
            match behind with
            | [] => some [name]
            | '.' :: behind => do
                let names ← readSegments? style budget behind
                some (name :: names)
            | _ => none
          else
            none

/-- The identifier of which a text is the quoted form. -/
def unquote? (style : QuoteStyle) (quoted : String) : Option String :=
  (readSegments? style (quoted.toList.length + 1) quoted.toList).map
    fun names => String.ofList (List.intercalate ['.'] names)

theorem quote_eq_ok_iff
    (style : QuoteStyle) (identifier quoted : String) :
    quote style identifier = .ok quoted ↔
      fault? identifier = none ∧ quoteAll style identifier = quoted := by
  unfold quote
  cases fault? identifier <;> simp

theorem quote_of_fault
    (style : QuoteStyle) {identifier : String} {fault : ArgumentFault}
    (found : fault? identifier = some fault) :
    quote style identifier = .error (.argument fault) := by
  simp [quote, found]

end Identifier

end Sqlwright
