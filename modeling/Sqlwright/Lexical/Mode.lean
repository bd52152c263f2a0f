/-!
# Lexical modes of SQL text

A statement is read one character at a time.  Between two characters the
reader is in a `Mode`: in plain text, in a quoted region, or in a comment.
`Mode.next` is the mode behind one more character, and `Mode.after` the mode
behind a whole text, so that reading one text after another is composition.

Quoted regions are those of string literals and of the three styles of quoted
names; in them a closing quote written twice stands for itself.  A line
comment ends with its line, and block comments nest.

Some modes remember one character.  Behind a closing quote the region is over
unless the same quote follows, so the mode `closed` counts as plain text; behind
a hyphen or a slash in plain text a comment begins if the right character
follows, so `hyphen` and `slash` count as plain text as well.
-/

namespace Sqlwright.Lexical

/-- The kinds of quoted regions. -/
inductive Quotation where
  | literal
  | double
  | backtick
  | bracket
  deriving DecidableEq

namespace Quotation

/-- The quote that begins a quotation. -/
def opening : Quotation → Char
  | literal => '\''
  | double => '"'
  | backtick => '\x60'
  | bracket => '['

/-- The character that ends a region, and that is written twice inside it. -/
def closing : Quotation → Char
  | literal => '\''
  | double => '"'
  | backtick => '\x60'
  | bracket => ']'

/-- The kind of region that a character opens in plain text. -/
def opened? (character : Char) : Option Quotation :=
  match character with
  | '\'' => some literal
  | '"' => some double
  | '\x60' => some backtick
  | '[' => some bracket
  | _ => none

end Quotation

/-- Where the reader stands between two characters. -/
inductive Mode where
  | plain
  /-- Plain text behind a `-`. -/
  | hyphen
  /-- Plain text behind a `/`. -/
  | slash
  | quoted (quotation : Quotation)
  /-- Plain text behind a closing quote. -/
  | closed (quotation : Quotation)
  | lineComment
  /-- Inside block comments, of which `outer` are still open around this one. -/
  | blockComment (outer : Nat)
  /-- Inside block comments, behind a `/`. -/
  | blockSlash (outer : Nat)
  /-- Inside block comments, behind a `*`. -/
  | blockStar (outer : Nat)
  deriving DecidableEq

namespace Mode

/-- Modes in which the characters belong to no region. -/
def isPlain : Mode → Bool
  | plain | hyphen | slash | closed _ => true
  | _ => false

/-- Where a character leads from plain text. -/
def ofPlain (character : Char) : Mode :=
  match Quotation.opened? character with
  | some quotation => quoted quotation
  | none =>
      if character = '-' then hyphen
      else if character = '/' then slash
      else plain

/-- The mode behind the end of a block comment. -/
def outside : Nat → Mode
  | 0 => plain
  | outer + 1 => blockComment outer

/-- Where a character leads from a mode. -/
def next (mode : Mode) (character : Char) : Mode :=
  match mode with
  | plain => ofPlain character
  | hyphen => if character = '-' then lineComment else ofPlain character
  | slash => if character = '*' then blockComment 0 else ofPlain character
  | quoted quotation =>
      if character = quotation.closing then closed quotation
      else quoted quotation
  | closed quotation =>
      if character = quotation.closing then quoted quotation
      else ofPlain character
  | lineComment => if character = '\n' then plain else lineComment
  | blockComment outer =>
      if character = '/' then blockSlash outer
      else if character = '*' then blockStar outer
      else blockComment outer
  | blockSlash outer =>
      if character = '*' then blockComment (outer + 1)
      else if character = '/' then blockSlash outer
      else blockComment outer
  | blockStar outer =>
      if character = '/' then outside outer
      else if character = '*' then blockStar outer
      else blockComment outer

/-- Where a text leads from a mode. -/
def after (mode : Mode) (text : List Char) : Mode :=
  text.foldl next mode

@[simp]
theorem after_nil (mode : Mode) : mode.after [] = mode := rfl

@[simp]
theorem after_cons (mode : Mode) (character : Char) (rest : List Char) :
    mode.after (character :: rest) = (mode.next character).after rest := rfl

theorem after_append (mode : Mode) (front back : List Char) :
    mode.after (front ++ back) = (mode.after front).after back := by
  simp [after, List.foldl_append]

/-- Whether a character belongs to no region when it is read in a mode. -/
def exposes (mode : Mode) (character : Char) : Bool :=
  mode.isPlain && (mode.next character).isPlain

end Mode

/--
A text in which every character of a region is replaced by a space.  The
regions include their quotes and the marks of comments, but for the first
character of the mark that begins a comment.
-/
def exposedFrom (mode : Mode) : List Char → List Char
  | [] => []
  | character :: rest =>
      (if mode.exposes character then character else ' ') ::
        exposedFrom (mode.next character) rest

/-- The plain text of a statement, regions blanked out. -/
def exposed (text : List Char) : List Char :=
  exposedFrom .plain text

@[simp]
theorem length_exposedFrom (mode : Mode) (text : List Char) :
    (exposedFrom mode text).length = text.length := by
  induction text generalizing mode with
  | nil => rfl
  | cons character rest step => simp [exposedFrom, step]

theorem exposedFrom_append (mode : Mode) (front back : List Char) :
    exposedFrom mode (front ++ back) =
      exposedFrom mode front ++ exposedFrom (mode.after front) back := by
  induction front generalizing mode with
  | nil => rfl
  | cons character rest step => simp [exposedFrom, step]

end Sqlwright.Lexical
