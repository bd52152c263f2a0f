/-!
# Points in time

A `Timestamp` is a day of the proleptic Gregorian calendar with a time of day,
without a time zone.  Both carry the proof that their fields name a day and a
time that exist.  A leap second is a second that runs on for another thousand
million nanoseconds.  Second 59 is the one that does so on a clock, but any
second may, so that two timestamps can look alike and still have fields of
their own.  The order of the fields is the order in time.
-/

namespace Sqlwright.Calendar

/-- Years divisible by 4, save those divisible by 100 but not by 400. -/
def isLeapYear (year : Int) : Bool :=
  year % 4 = 0 && (year % 100 ≠ 0 || year % 400 = 0)

/-- The number of days of a month; there is no month but 1 to 12. -/
def daysInMonth (year : Int) (month : Nat) : Nat :=
  match month with
  | 1 | 3 | 5 | 7 | 8 | 10 | 12 => 31
  | 4 | 6 | 9 | 11 => 30
  | 2 => if isLeapYear year then 29 else 28
  | _ => 0

/-- The greatest year that a date can have. -/
def greatestYear : Int := 262142

/-- The least year that a date can have. -/
def leastYear : Int := -262143

/-- Whether three numbers name a day. -/
def isDate (year : Int) (month day : Nat) : Bool :=
  leastYear ≤ year && year ≤ greatestYear && 1 ≤ day &&
    day ≤ daysInMonth year month

/-- A day of the calendar. -/
structure Date where
  year : Int
  month : Nat
  day : Nat
  exists_day : isDate year month day = true
  deriving DecidableEq

/--
Whether four numbers name a time of day.  Every second can run on for another
thousand million nanoseconds.
-/
def isTime (hour minute second nanosecond : Nat) : Bool :=
  hour < 24 && minute < 60 && second < 60 && nanosecond < 2000000000

/-- A time of day, to the nanosecond. -/
structure TimeOfDay where
  hour : Nat
  minute : Nat
  second : Nat
  nanosecond : Nat
  exists_time : isTime hour minute second nanosecond = true
  deriving DecidableEq

/-- A point in time, without a time zone. -/
structure Timestamp where
  date : Date
  time : TimeOfDay
  deriving DecidableEq

/-- The day that three numbers name, if it exists. -/
def Date.of? (year : Int) (month day : Nat) : Option Date :=
  if valid : isDate year month day = true then
    some ⟨year, month, day, valid⟩
  else
    none

/-- The time of day that four numbers name, if it exists. -/
def TimeOfDay.of? (hour minute second nanosecond : Nat) : Option TimeOfDay :=
  if valid : isTime hour minute second nanosecond = true then
    some ⟨hour, minute, second, nanosecond, valid⟩
  else
    none

@[simp]
theorem Date.of?_fields (date : Date) :
    Date.of? date.year date.month date.day = some date :=
  dif_pos date.exists_day

@[simp]
theorem TimeOfDay.of?_fields (time : TimeOfDay) :
    TimeOfDay.of? time.hour time.minute time.second time.nanosecond =
      some time :=
  dif_pos time.exists_time

/-- The number of days from 1 January of year 1 to a date. -/
def Date.daysFromEpoch (date : Date) : Int :=
  let before := date.year - 1
  let wholeYears :=
    365 * before + Int.fdiv before 4 - Int.fdiv before 100 +
      Int.fdiv before 400
  let wholeMonths :=
    ((List.range (date.month - 1)).map
      fun index => daysInMonth date.year (index + 1)).foldr Nat.add 0
  wholeYears + wholeMonths + (date.day - 1 : Nat)

/-- The nanoseconds since midnight, those of a leap second included. -/
def TimeOfDay.nanoseconds (time : TimeOfDay) : Nat :=
  ((time.hour * 60 + time.minute) * 60 + time.second) * 1000000000 +
    time.nanosecond

/-- The fields from the year down, which order timestamps in time. -/
def Timestamp.fields (timestamp : Timestamp) : Int × List Nat :=
  (timestamp.date.year,
    [timestamp.date.month, timestamp.date.day, timestamp.time.hour,
      timestamp.time.minute, timestamp.time.second,
      timestamp.time.nanosecond])

/-- Whether one timestamp lies before another. -/
def Timestamp.before (left right : Timestamp) : Prop :=
  left.date.year < right.date.year ∨
    (left.date.year = right.date.year ∧
      left.fields.2 < right.fields.2)

end Sqlwright.Calendar
