import Sqlwright.Lexical.Placeholder
import Sqlwright.Lexical.Word
import Sqlwright.Text.Ascii
import Sqlwright.Text.Decoded

/-!
# Statements byte by byte

The bytes of a statement are read by loops that keep an index.  A step looks at
the byte there, and sometimes at the next one, and moves on by one byte, by a
pair, or by a whole word.  Between two steps a loop is outside of regions or in
an `Enclosure`; unlike a `Mode` it remembers no character, since the marks of
regions are read as pairs.

`renumberEncoded` numbers placeholders and `encodedWords` lists words.  What
could go wrong with an index is an `Overrun`: a byte or a slice that the text
does not have, and a step that does not move on.  Depths are counted in 32 bits
and start again from zero beyond them.
-/

namespace Sqlwright.Lexical

/-- What a loop over the bytes of a text must not do. -/
inductive Overrun where
  /-- A byte is taken behind the end. -/
  | byte (index : Nat)
  /-- A slice is taken that does not lie in the text. -/
  | slice (start stop : Nat)
  /-- A step stays where it is, and so would all others. -/
  | stalled (index : Nat)
  deriving DecidableEq

/-! ## Bytes -/

/-- The byte at an index as a character, if there is one. -/
def octetAt? (bytes : ByteArray) (index : Nat) : Option Char :=
  bytes[index]?.map Char.ofUInt8

/-- The byte at an index as a character. -/
def octetAt (bytes : ByteArray) (index : Nat) : Except Overrun Char :=
  match octetAt? bytes index with
  | some octet => .ok octet
  | none => .error (.byte index)

/-- Whether two characters stand at an index. -/
def pairAt (bytes : ByteArray) (index : Nat) (first second : Char) : Bool :=
  octetAt? bytes index == some first &&
    octetAt? bytes (index + 1) == some second

/-- The bytes from an index up to another one. -/
def slice (bytes : ByteArray) (start stop : Nat) : Except Overrun ByteArray :=
  if start ≤ stop ∧ stop ≤ bytes.size then .ok (bytes.extract start stop)
  else .error (.slice start stop)

/-! ## Regions -/

/-- Where a loop stands between two steps. -/
inductive Enclosure where
  | none
  | quoted (quotation : Quotation)
  | lineComment
  /-- Inside block comments, of which `depth` are open. -/
  | blockComment (depth : UInt32)
  deriving DecidableEq

namespace Enclosure

/-- The region that is opened at an index, and the width of its mark. -/
def opened? (bytes : ByteArray) (index : Nat) : Option (Enclosure × Nat) :=
  match (octetAt? bytes index).bind Quotation.opened? with
  | some quotation => some (quoted quotation, 1)
  | .none =>
      if pairAt bytes index '-' '-' then some (lineComment, 1)
      else if pairAt bytes index '/' '*' then some (blockComment 1, 2)
      else .none

/-- A step inside a region: where it leads, and its width. -/
def advance (bytes : ByteArray) (index : Nat) (enclosure : Enclosure) :
    Except Overrun (Enclosure × Nat) := do
  let octet ← octetAt bytes index
  match enclosure with
  | none => return (none, 1)
  | quoted quotation =>
      if octet ≠ quotation.closing then return (quoted quotation, 1)
      else if octetAt? bytes (index + 1) = some octet then
        return (quoted quotation, 2)
      else return (none, 1)
  | lineComment =>
      if octet = '\n' then return (none, 1) else return (lineComment, 1)
  | blockComment depth =>
      if pairAt bytes index '/' '*' then return (blockComment (depth + 1), 2)
      else if pairAt bytes index '*' '/' then
        return (if depth = 1 then none else blockComment (depth - 1), 2)
      else return (blockComment depth, 1)

/-- A step over what belongs to regions, which plain text does not. -/
def pass? (bytes : ByteArray) (index : Nat) (enclosure : Enclosure) :
    Except Overrun (Option (Enclosure × Nat)) :=
  if enclosure = none then .ok (opened? bytes index)
  else (enclosure.advance bytes index).map some

end Enclosure

/-! ## Loops -/

/-- The steps of a loop up to the end of a text. -/
def run {State : Type} (size : Nat) (index : State → Nat)
    (step : State → Except Overrun State) (state : State) :
    Except Overrun State :=
  if index state < size then
    match step state with
    | .error overrun => .error overrun
    | .ok next =>
        if index state < index next then run size index step next
        else .error (.stalled (index state))
  else
    .ok state
termination_by size - index state

/-! ## Placeholders -/

/-- A numbered text in the making; a copy is begun at the first placeholder. -/
structure Copying where
  index : Nat
  enclosure : Enclosure
  number : Nat
  copy : Option ByteArray

namespace Copying

/-- Nothing has been read, and no copy has been begun. -/
def start : Copying :=
  ⟨0, .none, 1, none⟩

/-- Move on by some bytes, which are copied as they are. -/
def keep (bytes : ByteArray) (state : Copying) (enclosure : Enclosure)
    (width : Nat) : Except Overrun Copying := do
  let copy ←
    match state.copy with
    | some copy => do
        let kept ← slice bytes state.index (state.index + width)
        pure (some (copy ++ kept))
    | none => pure none
  return { state with
    index := state.index + width
    enclosure := enclosure
    copy := copy }

/-- Write a number in place of a byte. -/
def mark (style : NumberStyle) (bytes : ByteArray) (state : Copying) :
    Except Overrun Copying := do
  let copy ←
    match state.copy with
    | some copy => pure copy
    | none => slice bytes 0 state.index
  return { state with
    index := state.index + 1
    number := state.number + 1
    copy :=
      some (copy ++ (String.ofList (style.mark state.number)).toByteArray) }

/-- One step: pass what is enclosed, or number a placeholder, or keep a byte. -/
def step (style : NumberStyle) (bytes : ByteArray) (state : Copying) :
    Except Overrun Copying := do
  match ← state.enclosure.pass? bytes state.index with
  | some (enclosure, width) => state.keep bytes enclosure width
  | none =>
      let octet ← octetAt bytes state.index
      if octet = '?' then state.mark style bytes
      else state.keep bytes .none 1

end Copying

/-- A statement with its placeholders numbered, byte by byte. -/
def renumberEncoded (style : NumberStyle) (sql : String) :
    Except Overrun Handed := do
  let bytes := sql.toByteArray
  let last ←
    run bytes.size Copying.index (Copying.step style bytes) Copying.start
  match last.copy with
  | some copy => return .rewritten (Text.decode copy)
  | none => return .given sql

/-! ## Words -/

/-- The index behind a word. -/
def wordEnd (bytes : ByteArray) (index : Nat) : Nat :=
  if index < bytes.size then
    if (octetAt? bytes index).any isWordChar then wordEnd bytes (index + 1)
    else index
  else
    index
termination_by bytes.size - index

/-- Words that have been found, of finished statements and of the current one. -/
structure Listing where
  index : Nat
  enclosure : Enclosure
  depth : UInt32
  finished : List (List Word)
  current : List Word

namespace Listing

/-- Nothing has been read, and no statement has words. -/
def start : Listing :=
  ⟨0, .none, 0, [], []⟩

/-- The depth behind a byte that stands between words. -/
def depthBehind (depth : UInt32) (octet : Char) : UInt32 :=
  if octet = '(' then depth + 1
  else if octet = ')' then (if depth = 0 then 0 else depth - 1)
  else if octet = ';' then 0
  else depth

/-- Move on by a byte that stands between words. -/
def part (state : Listing) (octet : Char) : Listing :=
  { state with
    index := state.index + 1
    depth := depthBehind state.depth octet
    finished :=
      if octet = ';' then state.finished ++ [state.current]
      else state.finished
    current := if octet = ';' then [] else state.current }

/-- Move on by a word. -/
def take (bytes : ByteArray) (state : Listing) : Except Overrun Listing := do
  let stop := wordEnd bytes state.index
  let word ← slice bytes state.index stop
  return { state with
    index := stop
    current :=
      state.current ++
        [⟨Text.upper (Text.decode word), state.depth.toNat⟩] }

/-- One step: pass what is enclosed, or take a word, or pass a sign. -/
def step (bytes : ByteArray) (state : Listing) : Except Overrun Listing := do
  match ← state.enclosure.pass? bytes state.index with
  | some (enclosure, width) =>
      return { state with
        index := state.index + width
        enclosure := enclosure }
  | none =>
      let octet ← octetAt bytes state.index
      if isWordChar octet then state.take bytes
      else return state.part octet

end Listing

/-- The words of each statement of a text, byte by byte. -/
def encodedWords (sql : String) : Except Overrun (List (List Word)) := do
  let bytes := sql.toByteArray
  let last ← run bytes.size Listing.index (Listing.step bytes) Listing.start
  return (last.finished ++ [last.current]).filter fun words => !words.isEmpty

end Sqlwright.Lexical
