/-!
# Text from bytes

`decode` reads bytes as UTF-8 and gives a text in any case.  Where no character
is encoded, U+FFFD stands instead: once for the longest beginning of a
character that stands there, and once for every other byte.

An encoded text is read back as it was, so that nothing in it is replaced.
-/

namespace Sqlwright.Text

/-- Whether a byte goes on with a character. -/
def isContinuation (byte : UInt8) : Bool :=
  0x80 ≤ byte && byte ≤ 0xBF

/-- Whether two bytes begin a character of three or four bytes. -/
def beginsLong (first second : UInt8) : Bool :=
  if first = 0xE0 then 0xA0 ≤ second && second ≤ 0xBF
  else if first = 0xED then 0x80 ≤ second && second ≤ 0x9F
  else if first = 0xF0 then 0x90 ≤ second && second ≤ 0xBF
  else if first = 0xF4 then 0x80 ≤ second && second ≤ 0x8F
  else 0xE1 ≤ first && first ≤ 0xF3 && isContinuation second

/-- The number of bytes that are replaced together, where no character is. -/
def malformedWidth (bytes : ByteArray) (index : Nat) : Nat :=
  match bytes[index]?, bytes[index + 1]? with
  | some first, some second =>
      if beginsLong first second then
        if 0xF0 ≤ first && bytes[index + 2]?.any isContinuation then 3 else 2
      else 1
  | _, _ => 1

theorem malformedWidth_pos (bytes : ByteArray) (index : Nat) :
    0 < malformedWidth bytes index := by
  unfold malformedWidth
  split
  · split
    · split <;> exact Nat.succ_pos _
    · exact Nat.one_pos
  · exact Nat.one_pos

/-- The characters of some bytes from an index on. -/
def decodeFrom (bytes : ByteArray) (index : Nat) : List Char :=
  if index < bytes.size then
    match bytes.utf8DecodeChar? index with
    | some character =>
        character :: decodeFrom bytes (index + character.utf8Size)
    | none =>
        '\uFFFD' :: decodeFrom bytes (index + malformedWidth bytes index)
  else
    []
termination_by bytes.size - index
decreasing_by
  · have := character.utf8Size_pos
    omega
  · have := malformedWidth_pos bytes index
    omega

/-- The text of some bytes, with U+FFFD for what encodes no character. -/
def decode (bytes : ByteArray) : String :=
  String.ofList (decodeFrom bytes 0)

theorem decodeFrom_utf8Encode (front : ByteArray) (text : List Char) :
    decodeFrom (front ++ text.utf8Encode) front.size = text := by
  induction text generalizing front with
  | nil =>
      rw [decodeFrom, if_neg]
      simp
  | cons character rest induction =>
      have found :
          (front ++ (character :: rest).utf8Encode).utf8DecodeChar?
              front.size =
            some character := by
        rw [ByteArray.utf8DecodeChar?_eq_utf8DecodeChar?_extract,
          ByteArray.extract_append_eq_right rfl ByteArray.size_append]
        exact List.utf8DecodeChar?_utf8Encode_cons
      have inside :
          front.size < (front ++ (character :: rest).utf8Encode).size :=
        ByteArray.lt_size_of_isSome_utf8DecodeChar?
          (Option.isSome_of_eq_some found)
      have behind := induction (front ++ [character].utf8Encode)
      rw [ByteArray.append_assoc, ← List.utf8Encode_cons,
        ByteArray.size_append, List.utf8Encode_singleton,
        List.size_toByteArray, String.length_utf8EncodeChar] at behind
      rw [decodeFrom, if_pos inside, found]
      exact congrArg (List.cons character) behind

/-- In an encoded text nothing is replaced. -/
@[simp]
theorem decode_toByteArray (text : String) :
    decode text.toByteArray = text := by
  have read := decodeFrom_utf8Encode ByteArray.empty text.toList
  rw [ByteArray.empty_append, String.utf8Encode_toList] at read
  rw [decode, ← ByteArray.size_empty, read, String.ofList_toList]

end Sqlwright.Text
