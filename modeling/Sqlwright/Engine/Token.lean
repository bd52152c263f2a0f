/-!
# Tokens of the engine's statements

`tokens` cuts a statement into words, quoted names, numbers, literals,
placeholders and symbols, with white space and comments left out.  A token
knows its place in the statement, in characters and in bytes.

The engine reads names in double quotes and backticks, where the quote written
twice stands for itself, and names in brackets, which end at the first closing
bracket.
-/

namespace Sqlwright.Engine

/-- What a token can be. -/
inductive TokenKind where
  | word
  /-- A name in double quotes, which can also stand for a text. -/
  | doubleQuoted
  /-- A name in backticks or brackets. -/
  | quoted
  | number
  | literal
  | placeholder
  | symbol
  /-- What is no token: an unknown sign, or a quote without an end. -/
  | unknown
  deriving DecidableEq

/-- A token with its place. -/
structure Token where
  kind : TokenKind
  text : String
  /-- The text as it is written. -/
  written : String
  /-- The number of characters in front of the token. -/
  position : Nat
  /-- The number of bytes in front of the token. -/
  offset : Nat
  deriving DecidableEq

namespace Token

/-- White space between tokens. -/
def isSpace (character : Char) : Bool :=
  character == ' ' || character == '\t' || character == '\n' ||
    character == '\r' || character == '\x0c'

/-- Characters that begin a word; every character beyond ASCII does. -/
def startsWord (character : Char) : Bool :=
  character.isAlpha || character == '_' || 0x80 ≤ character.toNat

/-- Characters that continue a word. -/
def continuesWord (character : Char) : Bool :=
  startsWord character || character.isDigit || character == '$'

/-- The number of characters up to and with the end of a block comment. -/
def commentLength : List Char → Nat
  | '*' :: '/' :: _ => 2
  | _ :: rest => commentLength rest + 1
  | [] => 0

/--
The content of a quoted token behind its opening quote, and the number of
characters up to and with its closing quote, if there is one.
-/
def readQuoted? (doubles : Bool) (closing : Char) :
    List Char → Option (List Char × Nat)
  | [] => none
  | [character] => if character = closing then some ([], 1) else none
  | character :: next :: rest =>
      if character = closing then
        if doubles && next == closing then do
          let (content, length) ← readQuoted? doubles closing rest
          pure (closing :: content, length + 2)
        else
          some ([], 1)
      else do
        let (content, length) ← readQuoted? doubles closing (next :: rest)
        pure (character :: content, length + 1)

/-- The symbols of two characters. -/
def isPair (first second : Char) : Bool :=
  match first, second with
  | '<', '>' | '>', '=' | '<', '=' | '!', '=' | '=', '=' | '|', '|' => true
  | _, _ => false

/-- The characters that signs are made of. -/
def isSign (character : Char) : Bool :=
  "-+*/%=<>|&~(),;.".toList.contains character

/-- Signs in front of the name of a variable. -/
def startsVariable (character : Char) : Bool :=
  "@:$#".toList.contains character

/-- What stands at the front of a text: its length, and a kind and text of a token. -/
def front (text : List Char) : Nat × Option (TokenKind × String) :=
  let plain (kind : TokenKind) (length : Nat) :=
    (length, some (kind, String.ofList (text.take length)))
  let quoted (kind : TokenKind) (doubles : Bool) (closing : Char) :=
    match readQuoted? doubles closing (text.drop 1) with
    | some (content, length) =>
        (length + 1, some (kind, String.ofList content))
    | none => plain .unknown text.length
  match text with
  | [] => (0, none)
  | '-' :: '-' :: rest =>
      ((rest.takeWhile (· != '\n')).length + 2, none)
  | '/' :: '*' :: rest => (commentLength rest + 2, none)
  | '"' :: _ => quoted .doubleQuoted true '"'
  | '\x60' :: _ => quoted .quoted true '\x60'
  | '[' :: _ => quoted .quoted false ']'
  | '\'' :: _ => quoted .literal true '\''
  | '?' :: _ => plain .placeholder 1
  | first :: rest =>
      if isSpace first then
        (1, none)
      else if startsWord first then
        plain .word ((rest.takeWhile continuesWord).length + 1)
      else if first.isDigit then
        plain .number
          ((rest.takeWhile fun c => continuesWord c || c == '.').length + 1)
      else if startsVariable first then
        let length := (rest.takeWhile continuesWord).length
        plain (if length = 0 then .unknown else .symbol) (length + 1)
      else if rest.head?.any (isPair first) then
        plain .symbol 2
      else
        plain (if isSign first then .symbol else .unknown) 1

/-- The number of bytes of some characters. -/
def byteLength (text : List Char) : Nat :=
  (text.map Char.utf8Size).foldr Nat.add 0

/-- The tokens of a text that begins at a place, of at most `budget` characters. -/
def read (budget position offset : Nat) (text : List Char) : List Token :=
  match budget, text with
  | 0, _ => []
  | _, [] => []
  | budget + 1, text =>
      let (length, found) := front text
      let length := max length 1
      let written := text.take length
      let rest :=
        read budget (position + length) (offset + byteLength written)
          (text.drop length)
      match found with
      | none => rest
      | some (kind, content) =>
          ⟨kind, content, String.ofList written, position, offset⟩ :: rest

end Token

/-- The tokens of a text. -/
def tokens (text : List Char) : List Token :=
  Token.read text.length 0 0 text

end Sqlwright.Engine
