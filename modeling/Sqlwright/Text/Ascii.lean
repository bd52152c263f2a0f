/-!
# ASCII letters and digits

Keywords, directions and names of quoting styles are compared without regard
to the case of the twenty-six Latin letters; every other character only
equals itself.  Integers are read from ASCII digits behind an optional sign.
-/

namespace Sqlwright.Text

/-- The value of an ASCII digit. -/
def digitValue? (character : Char) : Option Nat :=
  if '0' ≤ character ∧ character ≤ '9' then
    some (character.toNat - '0'.toNat)
  else
    none

/-- The value of a non-empty text of ASCII digits. -/
def readNat? : List Char → Option Nat
  | [] => none
  | characters =>
      characters.foldlM
        (fun total character =>
          (digitValue? character).map (10 * total + ·))
        0

/-- An integer: an optional sign and at least one ASCII digit. -/
def readInt? : List Char → Option Int
  | '-' :: digits => (readNat? digits).map fun value => -(value : Int)
  | '+' :: digits => (readNat? digits).map Int.ofNat
  | digits => (readNat? digits).map Int.ofNat

/-- A signed integer of 64 bits, if the value lies in that range. -/
def int64Of? (value : Int) : Option Int64 :=
  if -Int.pow 2 63 ≤ value ∧ value < Int.pow 2 63 then some (Int64.ofInt value) else none

/-- An integer text whose value lies in the range of 64 signed bits. -/
def readInt64? (text : List Char) : Option Int64 :=
  (readInt? text).bind int64Of?

/-- Upper case for the Latin letters of ASCII. -/
def upper (text : String) : String :=
  String.ofList (text.toList.map Char.toUpper)

/-- Lower case for the Latin letters of ASCII. -/
def lower (text : String) : String :=
  String.ofList (text.toList.map Char.toLower)

/-- The decimal digits of a number, at least `width` of them. -/
def padded (width value : Nat) : String :=
  let digits := toString value
  String.ofList (List.replicate (width - digits.length) '0') ++ digits

@[simp]
theorem int64Of?_toInt (word : Int64) : int64Of? word.toInt = some word := by
  unfold int64Of?
  rw [if_pos ⟨word.le_toInt, word.toInt_lt⟩, Int64.ofInt_toInt]

end Sqlwright.Text
