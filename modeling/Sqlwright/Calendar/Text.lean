import Sqlwright.Calendar.Timestamp
import Sqlwright.Text.Ascii
import Sqlwright.Text.Blank

/-!
# Written timestamps

`Timestamp.write` writes a date, a separator and a time.  The year has four
digits from 0 to 9999, and a sign in front of at least four digits outside;
the fraction of the second has no, three, six or nine digits, as few as show
it exactly; a leap second is written as the number behind its own, which is 60
behind second 59.

`Timestamp.read?` is more generous: numbers need no leading zeros, white space
may stand in front of each number and takes any form between date and time,
and a fraction may have any number of digits, of which nine count.  It tries to
do without a fraction first.
-/

namespace Sqlwright.Calendar

open Sqlwright.Text

/-- Four digits from 0 to 9999, otherwise a sign and at least four digits. -/
def writeYear (year : Int) : String :=
  if 0 ≤ year ∧ year ≤ 9999 then
    padded 4 year.toNat
  else
    (if year < 0 then "-" else "+") ++ padded 4 year.natAbs

/-- A day as year, month and day. -/
def Date.write (date : Date) : String :=
  writeYear date.year ++ "-" ++ padded 2 date.month ++ "-" ++ padded 2 date.day

/-- A fraction of a second, in as few groups of three digits as show it. -/
def writeFraction (nanosecond : Nat) : String :=
  if nanosecond = 0 then ""
  else if nanosecond % 1000000 = 0 then "." ++ padded 3 (nanosecond / 1000000)
  else if nanosecond % 1000 = 0 then "." ++ padded 6 (nanosecond / 1000)
  else "." ++ padded 9 nanosecond

/-- A time of day; a leap second is written as the number behind its own. -/
def TimeOfDay.write (time : TimeOfDay) : String :=
  padded 2 time.hour ++ ":" ++ padded 2 time.minute ++ ":" ++
    padded 2 (time.second + time.nanosecond / 1000000000) ++
    writeFraction (time.nanosecond % 1000000000)

/-- A date and a time of day, with a text between them. -/
def Timestamp.write (separator : String) (timestamp : Timestamp) : String :=
  timestamp.date.write ++ separator ++ timestamp.time.write

/-- The digits at the front of a text, at most `limit` of them if it is given. -/
def takeDigits (limit : Option Nat) (text : List Char) :
    List Char × List Char :=
  let run := text.takeWhile fun character => (digitValue? character).isSome
  let digits :=
    match limit with
    | some count => run.take count
    | none => run
  (digits, text.drop digits.length)

/-- A number of at least one digit at the front of a text. -/
def readDigits? (limit : Option Nat) (text : List Char) :
    Option (Nat × List Char) :=
  let (digits, rest) := takeDigits limit text
  (readNat? digits).map (·, rest)

/-- A number of one or two digits, with white space before it. -/
def readField? (text : List Char) : Option (Nat × List Char) :=
  readDigits? (some 2) (trimStart text)

/--
A year, with white space before it: one to four digits, or a sign and any
number of digits.
-/
def readYear? (text : List Char) : Option (Int × List Char) :=
  match trimStart text with
  | '-' :: rest =>
      (readDigits? none rest).map fun (year, rest) => (-(year : Int), rest)
  | '+' :: rest =>
      (readDigits? none rest).map fun (year, rest) => ((year : Int), rest)
  | rest =>
      (readDigits? (some 4) rest).map fun (year, rest) => ((year : Int), rest)

/-- The text behind a character that has to come next. -/
def expect? (character : Char) : List Char → Option (List Char)
  | head :: rest => if head = character then some rest else none
  | [] => none

/--
The nanoseconds of a fraction at the front of a text; without a point there
are none.  Digits beyond the ninth are read and dropped.
-/
def readFraction? : List Char → Option (Nat × List Char)
  | '.' :: rest =>
      let (digits, rest) := takeDigits none rest
      let kept := digits.take 9
      (readNat? kept).map fun value =>
        (value * Nat.pow 10 (9 - kept.length), rest)
  | rest => some (0, rest)

/-- The second and nanosecond of a written second; 60 runs on from 59. -/
def secondOf (written nanosecond : Nat) : Nat × Nat :=
  if written = 60 then (59, 1000000000 + nanosecond) else (written, nanosecond)

/--
The timestamp that a text writes, with nothing left over.  Its second may have a
fraction only where one is allowed.
-/
def Timestamp.readAs? (fractional : Bool) (text : String) :
    Option Timestamp := do
  let (year, rest) ← readYear? text.toList
  let rest ← expect? '-' rest
  let (month, rest) ← readField? rest
  let rest ← expect? '-' rest
  let (day, rest) ← readField? rest
  let (hour, rest) ← readField? rest
  let rest ← expect? ':' rest
  let (minute, rest) ← readField? rest
  let rest ← expect? ':' rest
  let (written, rest) ← readField? rest
  let (fraction, rest) ←
    if fractional then readFraction? rest else some (0, rest)
  if rest.isEmpty then
    let date ← Date.of? year month day
    let (second, nanosecond) := secondOf written fraction
    let time ← TimeOfDay.of? hour minute second nanosecond
    pure ⟨date, time⟩
  else
    none

/-- The timestamp that a text writes, to the second or else with a fraction. -/
def Timestamp.read? (text : String) : Option Timestamp :=
  (readAs? false text).or (readAs? true text)

end Sqlwright.Calendar
