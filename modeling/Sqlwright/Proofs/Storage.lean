import Sqlwright.Engine.Cell
import Sqlwright.Proofs.PaddedText

/-!
# Values in storage

A stored timestamp is a text of fields.  All fields but the year and the
fraction have two digits, and each of them is read back from the digits in front
of the next separator.  The fraction decides how the text is read: a whole
second is read without one, and any other only where a fraction is allowed.

Such a text says what a clock shows.  A leap second that runs on from second 59
is shown as second 60, but one that runs on from an earlier second looks like
the second behind that.  So a timestamp comes back from storage as the one that
a clock shows, and this is another one exactly if it lies in such a leap second.
All other values that have a class of their own come back as they are.
-/

namespace Sqlwright

namespace Calendar

open Sqlwright.Text

/-! ## The fields of a timestamp -/

theorem daysInMonth_bounds {year : Int} {month : Nat}
    (exists_day : 0 < daysInMonth year month) :
    month ≤ 12 ∧ daysInMonth year month ≤ 31 := by
  unfold daysInMonth at exists_day ⊢
  split at exists_day
  case h_12 => split <;> omega
  all_goals omega

theorem Date.bounds (date : Date) : date.month < 100 ∧ date.day < 100 := by
  have valid := date.exists_day
  simp only [isDate, Bool.and_eq_true, decide_eq_true_eq] at valid
  have := daysInMonth_bounds (Nat.lt_of_lt_of_le valid.1.2 valid.2)
  omega

theorem TimeOfDay.bounds (time : TimeOfDay) :
    time.hour < 24 ∧ time.minute < 60 ∧ time.second < 60 ∧
      time.nanosecond < 2000000000 := by
  have valid := time.exists_time
  simpa [isTime, and_assoc] using valid

/-- The characters of a year: its digits, behind a sign unless there are four. -/
theorem toList_writeYear (year : Int) :
    (writeYear year).toList =
      if 0 ≤ year ∧ year ≤ 9999 then
        (padded 4 year.natAbs).toList
      else
        (if year < 0 then '-' else '+') :: (padded 4 year.natAbs).toList := by
  unfold writeYear
  split
  · rename_i four
    have same : year.toNat = year.natAbs := by omega
    rw [same]
  · rw [String.toList_append]
    split
    · rfl
    · rfl

/-- The characters of a written timestamp, field by field. -/
theorem Timestamp.toList_write (timestamp : Timestamp) :
    (timestamp.write " ").toList =
      (writeYear timestamp.date.year).toList ++
        '-' :: ((padded 2 timestamp.date.month).toList ++
        '-' :: ((padded 2 timestamp.date.day).toList ++
        ' ' :: ((padded 2 timestamp.time.hour).toList ++
        ':' :: ((padded 2 timestamp.time.minute).toList ++
        ':' :: ((padded 2
              (timestamp.time.second +
                timestamp.time.nanosecond / 1000000000)).toList ++
          (writeFraction
            (timestamp.time.nanosecond % 1000000000)).toList))))) := by
  simp [Timestamp.write, Date.write, TimeOfDay.write]

/-! ## What a clock shows -/

namespace TimeOfDay

variable (time : TimeOfDay)

/-- The time is not in a leap second, unless that runs on from second 59. -/
def Regular : Prop :=
  1000000000 ≤ time.nanosecond → time.second = 59

instance decidableRegular : Decidable time.Regular :=
  inferInstanceAs (Decidable (_ → _))

theorem isTime_nextSecond
    (early : time.second < 59) {nanosecond : Nat}
    (fits : nanosecond < 2000000000) :
    isTime time.hour time.minute (time.second + 1) nanosecond = true := by
  have bounds := time.bounds
  simp only [isTime, Bool.and_eq_true, decide_eq_true_eq]
  omega

/--
The time that a clock shows.  What runs on from a second before 59 looks like
the second behind that.
-/
def shown : TimeOfDay :=
  if late : 1000000000 ≤ time.nanosecond ∧ time.second < 59 then
    ⟨time.hour, time.minute, time.second + 1, time.nanosecond - 1000000000,
      time.isTime_nextSecond late.2
        (Nat.lt_of_le_of_lt (Nat.sub_le _ _) time.bounds.2.2.2)⟩
  else
    time

theorem regular_shown : time.shown.Regular := by
  have bounds := time.bounds
  unfold Regular shown
  split
  · dsimp only
    omega
  · omega

theorem shown_eq_self_iff : time.shown = time ↔ time.Regular := by
  have bounds := time.bounds
  unfold Regular shown
  split
  · rename_i late
    constructor
    · intro same
      have second := congrArg TimeOfDay.second same
      dsimp only at second
      omega
    · intro regular
      exact absurd (regular late.1) (Nat.ne_of_lt late.2)
  · rename_i within
    refine ⟨fun _ late => ?_, fun _ => rfl⟩
    omega

/-- A time is written as a clock shows it. -/
theorem write_shown : time.shown.write = time.write := by
  have bounds := time.bounds
  unfold shown
  split
  · have second :
        time.second + 1 + (time.nanosecond - 1000000000) / 1000000000 =
          time.second + time.nanosecond / 1000000000 := by
      omega
    have fraction :
        (time.nanosecond - 1000000000) % 1000000000 =
          time.nanosecond % 1000000000 := by
      omega
    rw [write, write, second, fraction]
  · rfl

end TimeOfDay

namespace Timestamp

variable (timestamp : Timestamp)

/-- The time of day is regular. -/
def Regular : Prop :=
  timestamp.time.Regular

instance decidableRegular : Decidable timestamp.Regular :=
  inferInstanceAs (Decidable timestamp.time.Regular)

/-- The timestamp that a calendar and a clock show. -/
def shown : Timestamp :=
  ⟨timestamp.date, timestamp.time.shown⟩

theorem regular_shown : timestamp.shown.Regular :=
  timestamp.time.regular_shown

theorem shown_eq_self_iff : timestamp.shown = timestamp ↔ timestamp.Regular := by
  rw [Regular, ← timestamp.time.shown_eq_self_iff]
  constructor
  · exact congrArg Timestamp.time
  · intro same
    rw [shown, same]

theorem write_shown (separator : String) :
    timestamp.shown.write separator = timestamp.write separator := by
  rw [write, write, shown, timestamp.time.write_shown]

end Timestamp

/-! ## Reading digits -/

theorem isSome_digitValue? (character : Char) :
    (digitValue? character).isSome = character.isDigit := by
  by_cases digit : character.isDigit = true
  · rw [digitValue?_of_isDigit digit, digit]
    rfl
  · have unknown : digitValue? character = none := by
      unfold digitValue?
      rw [if_neg]
      rw [Char.le_def, Char.le_def, UInt32.le_iff_toNat_le,
        UInt32.le_iff_toNat_le]
      exact fun inside => digit (Char.isDigit_iff_toNat.2 inside)
    rw [unknown, Bool.eq_false_iff.2 digit]
    rfl

/-- Digits are taken up to a limit, or up to the first other character. -/
theorem takeDigits_append
    {digits : List Char} (each : digits.all Char.isDigit = true)
    (rest : List Char) {limit : Option Nat}
    (ends :
      limit = some digits.length ∨
        limit = none ∧ ∀ character ∈ rest.head?, character.isDigit = false) :
    takeDigits limit (digits ++ rest) = (digits, rest) := by
  have run :
      (digits ++ rest).takeWhile
          (fun character => (digitValue? character).isSome) =
        digits ++ rest.takeWhile Char.isDigit := by
    simp only [isSome_digitValue?]
    exact List.takeWhile_append_of_pos (List.all_eq_true.1 each)
  rcases ends with rfl | ⟨rfl, stops⟩
  · simp only [takeDigits, run, List.take_left, List.drop_left]
  · have nothing : rest.takeWhile Char.isDigit = [] := by
      cases rest with
      | nil => rfl
      | cons character others =>
          exact List.takeWhile_cons_of_neg (by simp [stops character rfl])
    simp only [takeDigits, run, nothing, List.append_nil, List.drop_left]

theorem readDigits?_append
    {digits : List Char} (valid : Digits digits) (rest : List Char)
    {limit : Option Nat}
    (ends :
      limit = some digits.length ∨
        limit = none ∧ ∀ character ∈ rest.head?, character.isDigit = false) :
    readDigits? limit (digits ++ rest) =
      some (Nat.ofDigitChars 10 digits 0, rest) := by
  rw [readDigits?, takeDigits_append valid.each rest ends]
  simp only [readNat?_of_digits valid, Option.map_some]

theorem trimStart_digits_append
    {digits : List Char} (valid : Digits digits) (rest : List Char) :
    trimStart (digits ++ rest) = digits ++ rest := by
  cases digits with
  | nil => exact absurd rfl valid.nonempty
  | cons character others =>
      have digit : character.isDigit = true :=
        List.all_eq_true.1 valid.each character List.mem_cons_self
      exact trimStart_of_not_blank (isBlankChar_of_isDigit digit)

theorem readField?_padded
    {value : Nat} (fits : value < 100) (rest : List Char) :
    readField? ((padded 2 value).toList ++ rest) = some (value, rest) := by
  have digits := digits_padded 2 value
  have length : (padded 2 value).toList.length = 2 :=
    length_padded (by decide) fits
  rw [readField?, trimStart_digits_append digits,
    readDigits?_append digits rest (.inl (by rw [length])),
    ofDigitChars_padded]

theorem expect?_cons (character : Char) (rest : List Char) :
    expect? character (character :: rest) = some rest :=
  if_pos rfl

/-- A space in front of a field is skipped. -/
theorem readField?_space (text : List Char) :
    readField? (' ' :: text) = readField? text := rfl

/-- A year without a sign has at most four digits. -/
theorem readYear?_digits_append
    {digits : List Char} (valid : Digits digits) (rest : List Char) :
    readYear? (digits ++ rest) =
      (readDigits? (some 4) (digits ++ rest)).map fun (year, rest) =>
        ((year : Int), rest) := by
  rw [readYear?, trimStart_digits_append valid]
  cases digits with
  | nil => exact absurd rfl valid.nonempty
  | cons first others =>
      split
      · rename_i start
        cases start
        cases valid.each
      · rename_i start
        cases start
        cases valid.each
      · rfl

theorem readYear?_minus (text : List Char) :
    readYear? ('-' :: text) =
      (readDigits? none text).map fun (year, rest) =>
        (-(year : Int), rest) := rfl

theorem readYear?_plus (text : List Char) :
    readYear? ('+' :: text) =
      (readDigits? none text).map fun (year, rest) => ((year : Int), rest) :=
  rfl

theorem readYear?_writeYear (year : Int) (rest : List Char) :
    readYear? ((writeYear year).toList ++ '-' :: rest) =
      some (year, '-' :: rest) := by
  have digits := digits_padded 4 year.natAbs
  have ends :
      ∀ character ∈ ('-' :: rest).head?, character.isDigit = false := by
    rintro character ⟨rfl⟩
    decide
  have read := readDigits?_append digits ('-' :: rest) (.inr ⟨rfl, ends⟩)
  rw [ofDigitChars_padded] at read
  rw [toList_writeYear]
  split_ifs with four negative
  · have length : (padded 4 year.natAbs).toList.length = 4 :=
      length_padded (by decide) (by omega)
    have same : (year.natAbs : Int) = year := Int.natAbs_of_nonneg four.1
    rw [readYear?_digits_append digits,
      readDigits?_append digits _ (.inl (by rw [length])),
      ofDigitChars_padded]
    simp only [Option.map_some, same]
  · have same : -(year.natAbs : Int) = year := by omega
    rw [List.cons_append, readYear?_minus, read]
    simp only [Option.map_some, same]
  · have same : (year.natAbs : Int) = year := by omega
    rw [List.cons_append, readYear?_plus, read]
    simp only [Option.map_some, same]

theorem readFraction?_padded
    {width value : Nat} (positive : 0 < width) (short : width ≤ 9)
    (fits : value < 10 ^ width) :
    readFraction? ('.' :: (padded width value).toList) =
      some (value * 10 ^ (9 - width), []) := by
  have digits := digits_padded width value
  have length := length_padded positive fits
  have taken := takeDigits_append digits.each [] (.inr ⟨rfl, nofun⟩)
  rw [List.append_nil] at taken
  have kept : (padded width value).toList.take 9 = (padded width value).toList :=
    List.take_of_length_le (length.trans_le short)
  simp only [readFraction?, taken, kept, readNat?_of_digits digits,
    ofDigitChars_padded, Option.map_some, length, Nat.pow_eq]

/-- The digits of a fraction are three, six or nine, as many as are needed. -/
theorem exists_writeFraction_eq_padded
    {nanosecond : Nat} (fits : nanosecond < 1000000000)
    (nonzero : nanosecond ≠ 0) :
    ∃ width value,
      0 < width ∧ width ≤ 9 ∧ value < 10 ^ width ∧
        value * 10 ^ (9 - width) = nanosecond ∧
          (writeFraction nanosecond).toList =
            '.' :: (padded width value).toList := by
  rw [writeFraction, if_neg nonzero]
  split
  · refine ⟨3, nanosecond / 1000000, by decide, by decide, ?_, ?_, ?_⟩
    · omega
    · omega
    · rw [String.toList_append]
      rfl
  · split
    · refine ⟨6, nanosecond / 1000, by decide, by decide, ?_, ?_, ?_⟩
      · omega
      · omega
      · rw [String.toList_append]
        rfl
    · refine ⟨9, nanosecond, by decide, by decide, fits, ?_, ?_⟩
      · omega
      · rw [String.toList_append]
        rfl

theorem readFraction?_writeFraction
    {nanosecond : Nat} (fits : nanosecond < 1000000000) :
    readFraction? (writeFraction nanosecond).toList =
      some (nanosecond, []) := by
  by_cases whole : nanosecond = 0
  · rw [whole]
    rfl
  · rcases exists_writeFraction_eq_padded fits whole with
      ⟨width, value, positive, short, small, same, text⟩
    rw [text, readFraction?_padded positive short small, same]

/-- Second 60 runs on from second 59, and no other second is written as 60. -/
theorem TimeOfDay.secondOf_written
    {time : TimeOfDay} (regular : time.Regular) :
    secondOf (time.second + time.nanosecond / 1000000000)
        (time.nanosecond % 1000000000) =
      (time.second, time.nanosecond) := by
  have bounds := time.bounds
  unfold Regular at regular
  unfold secondOf
  split
  · rw [Prod.mk.injEq]
    omega
  · rw [Prod.mk.injEq]
    omega

/-! ## Reading what is written -/

/--
A regular timestamp is read back as itself, but not without a fraction if it has
one.
-/
theorem Timestamp.readAs?_write
    (fractional : Bool) {timestamp : Timestamp}
    (regular : timestamp.Regular) :
    readAs? fractional (timestamp.write " ") =
      if fractional = true ∨ timestamp.time.nanosecond % 1000000000 = 0 then
        some timestamp
      else
        none := by
  have date := timestamp.date.bounds
  have time := timestamp.time.bounds
  have hour : timestamp.time.hour < 100 := by omega
  have minute : timestamp.time.minute < 100 := by omega
  have second :
      timestamp.time.second + timestamp.time.nanosecond / 1000000000 <
        100 := by
    omega
  have fraction : timestamp.time.nanosecond % 1000000000 < 1000000000 :=
    Nat.mod_lt _ (by decide)
  have goesOn := TimeOfDay.secondOf_written regular
  rw [readAs?, toList_write]
  dsimp only [Option.bind_eq_bind]
  -- The text is read from its front, so the steps are followed in their order.
  rw [readYear?_writeYear, Option.bind_some, expect?_cons, Option.bind_some,
    readField?_padded date.1, Option.bind_some, expect?_cons, Option.bind_some,
    readField?_padded date.2, Option.bind_some, readField?_space,
    readField?_padded hour, Option.bind_some, expect?_cons, Option.bind_some,
    readField?_padded minute, Option.bind_some, expect?_cons,
    Option.bind_some, readField?_padded second, Option.bind_some]
  cases fractional with
  | true => simp [readFraction?_writeFraction fraction, goesOn]
  | false =>
      by_cases whole : timestamp.time.nanosecond % 1000000000 = 0
      · rw [whole] at goesOn
        simp [whole, writeFraction, goesOn]
      · rcases exists_writeFraction_eq_padded fraction whole with
          ⟨width, value, -, -, -, -, text⟩
        simp [whole, text]

theorem Timestamp.read?_write_of_regular
    {timestamp : Timestamp} (regular : timestamp.Regular) :
    read? (timestamp.write " ") = some timestamp := by
  rw [read?, readAs?_write false regular, readAs?_write true regular]
  split
  · rfl
  · rfl

/-- What is read is the timestamp that the text shows. -/
theorem Timestamp.read?_write (timestamp : Timestamp) :
    read? (timestamp.write " ") = some timestamp.shown := by
  rw [← timestamp.write_shown]
  exact read?_write_of_regular timestamp.regular_shown

theorem Timestamp.write_eq_write_iff {left right : Timestamp} :
    left.write " " = right.write " " ↔ left.shown = right.shown := by
  constructor
  · intro same
    have read := left.read?_write
    rw [same, right.read?_write] at read
    exact (Option.some.inj read).symm
  · intro same
    rw [← left.write_shown, same, right.write_shown]

end Calendar

/-! ## Stored values -/

open Sqlwright.Calendar

/--
What is left of a value that came back from storage: the value, if it is of a
kind that is stored, and otherwise what it is read as.
-/
def Value.Survives (back : Value) : Value → Prop
  | .bool value => back.bool? = some value
  | .timestamp value => back.timestamp? = some value
  | .json document => back.text? = some document.compact
  | value => back = value

/-- The value is no timestamp in a leap second of another second than 59. -/
def Value.Regular : Value → Prop
  | .timestamp value => value.Regular
  | _ => True

/--
Values survive storage, save for some timestamps.  Integers, doubles with all of
their bits, texts, bytes and null come back as they were; a boolean and a
timestamp are read back from the integer and the text that stand for them; and a
document comes back as its text.

A timestamp, of whatever year and with whatever fraction, is read back as the
one that a clock shows.  So it survives exactly if it is no leap second, or one
that runs on from second 59.
-/
theorem Value.survives_storage_iff (value : Value) :
    ((Engine.Cell.ofValue value).toValue.Survives value ↔ value.Regular) ∧
      ∀ timestamp : Timestamp,
        (Engine.Cell.ofValue (.timestamp timestamp)).toValue.timestamp? =
          some timestamp.shown := by
  refine ⟨?_, Timestamp.read?_write⟩
  cases value with
  | null | int | float | text | json | binary => exact iff_of_true rfl trivial
  | bool value => exact iff_of_true (Value.bool?_ofBool value) trivial
  | timestamp value =>
      have back :
          (Engine.Cell.ofValue (.timestamp value)).toValue.timestamp? =
            some value.shown :=
        value.read?_write
      rw [Survives, back, Option.some_inj, value.shown_eq_self_iff]
      rfl

/-- A leap second that runs on from second 4. -/
def earlyLeap : Timestamp :=
  ⟨⟨2015, 6, 30, by decide⟩, ⟨23, 56, 4, 1333333333, by decide⟩⟩

/-- It is stored as the text of second 5, and read back as that. -/
theorem not_survives_earlyLeap :
    Engine.Cell.ofValue (.timestamp earlyLeap) =
        .text "2015-06-30 23:56:05.333333333" ∧
      (Engine.Cell.ofValue (.timestamp earlyLeap)).toValue.timestamp? =
        some
          ⟨⟨2015, 6, 30, by decide⟩, ⟨23, 56, 5, 333333333, by decide⟩⟩ ∧
      ¬(Engine.Cell.ofValue (.timestamp earlyLeap)).toValue.Survives
          (.timestamp earlyLeap) := by
  have back :
      (Engine.Cell.ofValue (.timestamp earlyLeap)).toValue.timestamp? =
        some earlyLeap.shown :=
    earlyLeap.read?_write
  refine ⟨rfl, back, ?_⟩
  intro survives
  have same : earlyLeap.shown = earlyLeap :=
    Option.some.inj (back.symm.trans survives)
  revert same
  decide

example :
    Engine.Cell.ofValue
        (.timestamp
          ⟨⟨12016, 12, 31, by decide⟩, ⟨23, 59, 59, 1500000000, by decide⟩⟩) =
      .text "+12016-12-31 23:59:60.500" := rfl

end Sqlwright
